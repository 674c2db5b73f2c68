import Xref.Proofs.Graph.Additions
import Xref.Proofs.Graph.Walk

/-!
# Walks on a graph that grows

Additions to a graph and pulls from one walk on it come in any order. An addition lengthens rows at
their end and takes nothing away, so a symbol that was reached stays reached. The rows that a walk
reads are from different moments, but each of them lies between the row at the first pull and the
row at the present one. Hence the visits lie between what can be reached at the first pull and what
can be reached when the walk meets its end.
-/

namespace Xref.Graph

section
variable {small middle large : Graph} {s target : Symbol}

theorem Extends.trans (upper : large.Extends middle) (lower : middle.Extends small) :
    large.Extends small :=
  fun s _ listed => upper s (lower s listed)

theorem Extends.reaches (grown : large.Extends small) (reached : small.Reaches s target) :
    large.Reaches s target :=
  Relation.ReflTransGen.mono (fun s _ depends => grown s depends) s target reached

end

def Continues (larger smaller : Graph) : Prop :=
  ∀ s, smaller.dependenciesOf s <+: larger.dependenciesOf s

section
variable {small middle large : Graph}

theorem Continues.refl (g : Graph) : g.Continues g := fun _ => List.prefix_rfl

theorem Continues.trans (upper : large.Continues middle) (lower : middle.Continues small) :
    large.Continues small :=
  fun s => (lower s).trans (upper s)

theorem Continues.extends (continues : large.Continues small) : large.Extends small :=
  fun s _ listed => (continues s).mem listed

end

theorem continues_addSymbol (g : Graph) (s : Symbol) : (g.addSymbol s).Continues g := by
  intro k
  unfold dependenciesOf
  rw [dependenciesOf?_addSymbol]
  split_ifs with same
  · rw [same]
    exact List.prefix_rfl
  · exact List.prefix_rfl

theorem continues_addEdge (g : Graph) (edge : Edge) : (g.addEdge edge).Continues g := by
  intro k
  unfold addEdge
  split_ifs with old
  · exact List.prefix_rfl
  · change _ <+: ((appendEntry edge.owner edge.target g.rows).lookup k).getD []
    rw [lookup_appendEntry]
    split_ifs with same
    · rw [same]
      exact List.prefix_append _ _
    · exact List.prefix_rfl

theorem continues_add (g : Graph) (addition : Addition) : (g.add addition).Continues g := by
  cases addition with
  | symbol s => exact continues_addSymbol g s
  | edge edge => exact continues_addEdge g edge

theorem extends_add (g : Graph) (addition : Addition) : (g.add addition).Extends g :=
  (continues_add g addition).extends

inductive Move where
  | add (addition : Addition)
  | pull
  deriving DecidableEq, Repr

structure Pull where
  graph : Graph
  visit : Option Symbol
  deriving DecidableEq, Repr

def visits (pulls : List Pull) : List Symbol := pulls.filterMap Pull.visit

namespace Walk

def pulls : List Move → Graph → Walk → List Pull
  | [], _, _ => []
  | .add addition :: moves, g, walk => pulls moves (g.add addition) walk
  | .pull :: moves, g, walk => ⟨g, (walk.next g).1⟩ :: pulls moves g (walk.next g).2

variable {before g grown : Graph} {start last : Symbol} {marked : List Symbol}
  {waiting : List (List Symbol)}

theorem Underway.extend (walk : Underway before g start marked last waiting)
    (growth : grown.Extends g) : Underway before grown start marked last waiting where
  distinct := walk.distinct
  begun := walk.begun
  reached s visited := growth.reaches (walk.reached s visited)
  current := walk.current
  awaited s listed := growth.reaches (walk.awaited s listed)
  expanded := walk.expanded

/-- What the pulls from a walk keep to, when the graph was `before` at the first of them and
`marked` are the visits so far. -/
structure Bounded (before : Graph) (start : Symbol) (marked : List Symbol) (pulls : List Pull) :
    Prop where
  distinct : (marked ++ visits pulls).Nodup
  reached : ∀ pull ∈ pulls, ∀ s, pull.visit = some s → pull.graph.Reaches start s
  complete : ∀ pull ∈ pulls, pull.visit = none →
    ∀ s, before.Reaches start s → s ∈ marked ++ visits pulls
  sound : ∀ pull ∈ pulls, pull.visit = none →
    ∀ s ∈ marked ++ visits pulls, pull.graph.Reaches start s

theorem Bounded.cons {s : Symbol} {later : List Pull} (bounded : Bounded before start (s :: marked) later)
    (reached : g.Reaches start s) : Bounded before start marked (⟨g, some s⟩ :: later) := by
  have visited : visits (⟨g, some s⟩ :: later) = s :: visits later := rfl
  have shifted : (marked ++ s :: visits later).Perm (s :: marked ++ visits later) :=
    List.perm_middle
  constructor
  · rw [visited, shifted.nodup_iff]
    exact bounded.distinct
  · intro pull made d given
    rcases List.mem_cons.mp made with rfl | made
    · cases given
      exact reached
    · exact bounded.reached pull made d given
  · intro pull made ended d reached
    rcases List.mem_cons.mp made with rfl | made
    · cases ended
    · rw [visited, shifted.mem_iff]
      exact bounded.complete pull made ended d reached
  · intro pull made ended d listed
    rcases List.mem_cons.mp made with rfl | made
    · cases ended
    · rw [visited, shifted.mem_iff] at listed
      exact bounded.sound pull made ended d listed

theorem pulls_finished (moves : List Move) (g : Graph) :
    ∀ pull ∈ pulls moves g .finished, pull.visit = none ∧ pull.graph.Extends g := by
  induction moves generalizing g with
  | nil => simp [pulls]
  | cons move moves ih =>
      intro pull made
      cases move with
      | add addition =>
          obtain ⟨ended, growth⟩ := ih (g.add addition) pull made
          exact ⟨ended, growth.trans (extends_add g addition)⟩
      | pull =>
          rcases List.mem_cons.mp made with rfl | made
          · exact ⟨rfl, .refl g⟩
          · exact ih g pull made

theorem Underway.bounded_of_end (walk : Underway before g start marked last waiting)
    (growth : g.Extends before) (looked : unread g last waiting ⊆ marked) {ending : List Pull}
    (idle : ∀ pull ∈ ending, pull.visit = none ∧ pull.graph.Extends g) :
    Bounded before start marked ending := by
  have none : visits ending = [] := by
    apply List.filterMap_eq_nil_iff.mpr
    exact fun pull made => (idle pull made).1
  constructor
  · rw [none, List.append_nil]
    exact walk.distinct
  · intro pull made s given
    rw [(idle pull made).1] at given
    cases given
  · intro pull made _ s reached
    exact List.mem_append_left _ (walk.complete growth looked reached)
  · intro pull made _ s listed
    rw [none, List.append_nil] at listed
    exact (idle pull made).2.reaches (walk.reached s listed)

theorem Underway.bounded (walk : Underway before g start marked last waiting)
    (growth : g.Extends before) (moves : List Move) :
    Bounded before start marked (pulls moves g (.paused marked last waiting)) := by
  induction moves generalizing g marked last waiting with
  | nil => exact ⟨by simpa [pulls, visits] using walk.distinct, by simp [pulls], by simp [pulls],
      by simp [pulls]⟩
  | cons move moves ih =>
      cases move with
      | add addition =>
          have added := extends_add g addition
          exact ih (walk.extend added) (added.trans growth)
      | pull =>
          rw [pulls]
          rcases next_cases g marked last waiting with ⟨s, rest, step, fresh, front⟩ | ⟨step, front⟩
          · rw [step]
            have further := walk.next growth fresh front
            exact (ih further growth).cons (further.reached s List.mem_cons_self)
          · rw [step]
            have looked : unread g last waiting ⊆ marked := by
              intro s listed
              simpa using List.dropWhile_eq_nil_iff.mp front s listed
            apply walk.bounded_of_end growth looked
            intro pull made
            rcases List.mem_cons.mp made with rfl | made
            · exact ⟨rfl, .refl g⟩
            · exact pulls_finished moves g pull made

theorem pulls_fresh (moves : List Move) (g : Graph) (start : Symbol) :
    pulls moves g (.fresh start) = [] ∨ ∃ first later, pulls moves g (.fresh start) =
      ⟨first, some start⟩ :: pulls later first (.paused [start] start []) := by
  induction moves generalizing g with
  | nil => exact .inl rfl
  | cons move moves ih =>
      cases move with
      | add addition => exact ih (g.add addition)
      | pull => exact .inr ⟨g, moves, rfl⟩

end Walk

/-- Whatever is added between the pulls, a walk visits no symbol twice, and each only when it can be
reached. A walk that met its end has visited all that could be reached at its first pull, and nothing
that cannot be reached at its end. -/
theorem walk_on_growing_graph (g : Graph) (start : Symbol) (moves : List Move) :
    (visits (Walk.pulls moves g (.fresh start))).Nodup ∧
    (∀ pull ∈ Walk.pulls moves g (.fresh start), ∀ s, pull.visit = some s →
      pull.graph.Reaches start s) ∧
    (∀ first later, Walk.pulls moves g (.fresh start) = first :: later →
      ∀ ending ∈ Walk.pulls moves g (.fresh start), ending.visit = none →
        (∀ s, first.graph.Reaches start s → s ∈ visits (Walk.pulls moves g (.fresh start))) ∧
        ∀ s ∈ visits (Walk.pulls moves g (.fresh start)), ending.graph.Reaches start s) := by
  rcases Walk.pulls_fresh moves g start with none | ⟨first, moves, made⟩
  · rw [none]
    simp [visits]
  · have begun : Walk.Bounded first start []
        (⟨first, some start⟩ :: Walk.pulls moves first (.paused [start] start [])) :=
      ((Walk.underway_start first start).bounded (.refl first) moves).cons .refl
    rw [made]
    refine ⟨begun.distinct, begun.reached, ?_⟩
    rintro _ _ ⟨rfl, rfl⟩ ending met ended
    exact ⟨begun.complete ending met ended, begun.sound ending met ended⟩

/-- The entry `d` is added before the row of `b` is read and is visited; `e` is added after the row
of `a` was read and is not. -/
theorem walk_on_growing_graph_between :
    let g := ofEdges [⟨['a'], ['b']⟩]
    let moves : List Move := [.pull, .add (.edge ⟨['b'], ['d']⟩), .pull,
      .add (.edge ⟨['a'], ['e']⟩), .pull, .pull]
    let ended := ofEdges [⟨['a'], ['b']⟩, ⟨['b'], ['d']⟩, ⟨['a'], ['e']⟩]
    visits (Walk.pulls moves g (.fresh ['a'])) = [['a'], ['b'], ['d']] ∧
      (∀ s, g.Reaches ['a'] s → s ∈ [['a'], ['b'], ['d']]) ∧
      ∀ s ∈ [['a'], ['b'], ['d']], ended.Reaches ['a'] s := by
  intro g moves ended
  have visited : visits (Walk.pulls moves g (.fresh ['a'])) = [['a'], ['b'], ['d']] := by decide
  have begun : ∃ later, Walk.pulls moves g (.fresh ['a']) = ⟨g, some ['a']⟩ :: later := ⟨_, rfl⟩
  obtain ⟨later, begun⟩ := begun
  obtain ⟨-, -, bounds⟩ := walk_on_growing_graph g ['a'] moves
  have between := bounds ⟨g, some ['a']⟩ later begun ⟨ended, none⟩ (by decide) rfl
  rw [visited] at between
  exact ⟨visited, between⟩

end Xref.Graph
