import Mathlib.Data.List.Perm.Subperm
import Mathlib.Data.List.TakeWhile
import Xref.Graph.Walk
import Xref.Proofs.Cursor
import Xref.Proofs.Graph.Reachability

/-!
# What a walk visits

The unread parts of the rows count as one list, and a step of a walk drops the marked entries at
the front of it. A walk ends, visits nothing twice, and visits exactly what can be reached.

The invariant of a paused walk speaks of two graphs, the one at the beginning of the walk and the
present one, so that it also holds while the graph grows.
-/

namespace Xref.Graph

theorem nextUnmarked_cons (marked row : List Symbol) (waiting : List (List Symbol)) :
    nextUnmarked marked (row :: waiting) =
      match row.dropWhile (· ∈ marked) with
      | [] => nextUnmarked marked waiting
      | s :: row => some (s, row :: waiting) := rfl

theorem dropWhile_flatten (marked : List Symbol) (rows : List (List Symbol)) :
    rows.flatten.dropWhile (· ∈ marked) =
      match nextUnmarked marked rows with
      | none => []
      | some (s, rest) => s :: rest.flatten := by
  induction rows with
  | nil => rfl
  | cons row rows ih =>
      rw [List.flatten_cons, List.dropWhile_append, nextUnmarked_cons]
      cases unread : row.dropWhile (· ∈ marked) with
      | nil => simpa using ih
      | cons s rest => simp

namespace Walk
variable {g : Graph} {start : Symbol}

/-- The entries that a paused walk has not looked at, in the order in which it will. -/
def unread (g : Graph) (last : Symbol) (waiting : List (List Symbol)) : List Symbol :=
  g.dependenciesOf last ++ waiting.flatten

theorem next_cases (g : Graph) (marked : List Symbol) (last : Symbol)
    (waiting : List (List Symbol)) :
    (∃ s rest, next g (.paused marked last waiting) = (some s, .paused (s :: marked) s rest) ∧
      s ∉ marked ∧ (unread g last waiting).dropWhile (· ∈ marked) = s :: rest.flatten) ∨
    (next g (.paused marked last waiting) = (none, .finished) ∧
      (unread g last waiting).dropWhile (· ∈ marked) = []) := by
  have front := dropWhile_flatten marked (g.dependenciesOf last :: waiting)
  rw [List.flatten_cons, ← unread] at front
  rcases found : nextUnmarked marked (g.dependenciesOf last :: waiting) with _ | ⟨s, rest⟩
  · exact .inr ⟨by simp [next, found], by rw [front, found]⟩
  · simp only [found] at front
    have fresh : s ∉ marked := by
      have head := List.head?_dropWhile_not (· ∈ marked) (unread g last waiting)
      simpa [front] using head
    exact .inl ⟨s, rest, by simp [next, found], fresh, front⟩

/-- What holds of a walk that is paused, on a graph that was `before` at its beginning. -/
structure Underway (before g : Graph) (start : Symbol) (marked : List Symbol) (last : Symbol)
    (waiting : List (List Symbol)) : Prop where
  distinct : marked.Nodup
  begun : start ∈ marked
  reached : ∀ s ∈ marked, g.Reaches start s
  current : last ∈ marked
  awaited : ∀ s ∈ waiting.flatten, g.Reaches start s
  -- The row of `last` is read only when the walk goes on.
  expanded : ∀ s ∈ marked, s ≠ last →
    before.dependenciesOf s ⊆ marked ++ waiting.flatten

variable {before : Graph} {marked : List Symbol} {last s : Symbol}
  {waiting rest : List (List Symbol)}

theorem underway_start (g : Graph) (start : Symbol) : Underway g g start [start] start [] where
  distinct := by simp
  begun := by simp
  reached s marked := by
    rw [List.mem_singleton.mp marked]
    exact .refl
  current := by simp
  awaited := by simp
  expanded s marked other := absurd (List.mem_singleton.mp marked) other

theorem Underway.unread_reached (walk : Underway before g start marked last waiting) :
    ∀ s ∈ unread g last waiting, g.Reaches start s := by
  intro s listed
  rcases List.mem_append.mp listed with depends | awaited
  · exact (walk.reached last walk.current).tail depends
  · exact walk.awaited s awaited

theorem Underway.accounted (walk : Underway before g start marked last waiting)
    (grown : g.Extends before) (old : s ∈ marked) :
    before.dependenciesOf s ⊆ marked ++ unread g last waiting := by
  intro target depends
  by_cases latest : s = last
  · subst latest
    exact List.mem_append_right _ (List.mem_append_left _ (grown s depends))
  · rcases List.mem_append.mp (walk.expanded s old latest depends) with visited | awaited
    · exact List.mem_append_left _ visited
    · exact List.mem_append_right _ (List.mem_append_right _ awaited)

theorem mem_marked_or_mem_dropWhile (marked : List Symbol) {entries : List Symbol}
    (listed : s ∈ entries) : s ∈ marked ∨ s ∈ entries.dropWhile (· ∈ marked) := by
  rw [← List.takeWhile_append_dropWhile (p := (· ∈ marked)) (l := entries)] at listed
  rcases List.mem_append.mp listed with dropped | kept
  · exact .inl (by simpa using List.mem_takeWhile_imp dropped)
  · exact .inr kept

theorem Underway.next (walk : Underway before g start marked last waiting)
    (grown : g.Extends before) (fresh : s ∉ marked)
    (front : (unread g last waiting).dropWhile (· ∈ marked) = s :: rest.flatten) :
    Underway before g start (s :: marked) s rest := by
  have kept : ∀ d ∈ s :: rest.flatten, d ∈ unread g last waiting := by
    rw [← front]
    exact fun d listed => (List.dropWhile_sublist _).mem listed
  have looked : ∀ d ∈ unread g last waiting, d ∈ s :: marked ++ rest.flatten := by
    intro d listed
    rcases mem_marked_or_mem_dropWhile marked listed with old | new
    · simp [old]
    · rw [front] at new
      rcases List.mem_cons.mp new with rfl | awaited
      · simp
      · simp [awaited]
  constructor
  · exact List.nodup_cons.mpr ⟨fresh, walk.distinct⟩
  · exact List.mem_cons_of_mem s walk.begun
  · intro d listed
    rcases List.mem_cons.mp listed with rfl | old
    · exact walk.unread_reached d (kept d (by simp))
    · exact walk.reached d old
  · simp
  · exact fun d awaited => walk.unread_reached d (kept d (by simp [awaited]))
  · intro d listed other target depends
    have old : d ∈ marked := (List.mem_cons.mp listed).resolve_left other
    rcases List.mem_append.mp (walk.accounted grown old depends) with visited | pending
    · simp [visited]
    · exact looked target pending

theorem Underway.pull (walk : Underway g g start marked last waiting) (count : Nat) :
    let pulled := Xref.pull (Walk.next g) count (.paused marked last waiting)
    ∃ last rest, Underway g g start (pulled.1.reverse ++ marked) last rest ∧
      (pulled.2.1 = true → unread g last rest ⊆ pulled.1.reverse ++ marked ∧
        pulled.2.2 = .finished) := by
  induction count generalizing marked last waiting with
  | zero => exact ⟨last, waiting, walk, by simp [Xref.pull]⟩
  | succ count ih =>
      rcases next_cases g marked last waiting with ⟨s, rest, step, fresh, front⟩ | ⟨step, front⟩
      · rw [pull_of_some step]
        simpa using ih (walk.next (.refl g) fresh front)
      · rw [pull_of_none step]
        refine ⟨last, waiting, walk, fun _ => ⟨?_, rfl⟩⟩
        intro s listed
        simpa using List.dropWhile_eq_nil_iff.mp front s listed

theorem Underway.complete (walk : Underway before g start marked last waiting)
    (grown : g.Extends before) (looked : unread g last waiting ⊆ marked)
    (reached : before.Reaches start s) : s ∈ marked := by
  apply reached.mem_of_closed walk.begun
  intro d old target depends
  rcases List.mem_append.mp (walk.accounted grown old depends) with visited | pending
  · exact visited
  · exact looked pending

theorem pull_fresh (g : Graph) (start : Symbol) (count : Nat) :
    Xref.pull (next g) (count + 1) (.fresh start) =
      (start :: (Xref.pull (next g) count (.paused [start] start [])).1,
        (Xref.pull (next g) count (.paused [start] start [])).2) := by
  have first : next g (.fresh start) = (some start, .paused [start] start []) := rfl
  exact pull_of_some first count

theorem pull_ends (g : Graph) (start : Symbol) {count : Nat} (enough : g.symbols.length < count) :
    (Xref.pull (next g) count (.paused [start] start [])).2.1 = true := by
  -- Otherwise the visits after the first are more distinct symbols than the graph has.
  by_contra going
  obtain ⟨last, rest, walk, -⟩ := (underway_start g start).pull count
  have length := length_pull count _ ((Bool.not_eq_true _).mp going)
  generalize (Xref.pull (next g) count (.paused [start] start [])).1 = visits at walk length
  have distinct : (start :: visits).Nodup := by
    rw [← List.nodup_reverse, List.reverse_cons]
    exact walk.distinct
  obtain ⟨others, distinct⟩ := List.nodup_cons.mp distinct
  have listed : visits ⊆ g.symbols := by
    intro s visited
    have reached := walk.reached s (by simp [visited])
    exact reached.mem_symbols.resolve_left fun same => others (same ▸ visited)
  have bound := (List.subperm_of_subset distinct listed).length_le
  omega

theorem pull_finishes (g : Graph) (start : Symbol) :
    ∃ last rest, Underway g g start (g.reachable start).reverse last rest ∧
      unread g last rest ⊆ (g.reachable start).reverse ∧
      Xref.pull (next g) (g.symbols.length + 2) (.fresh start) =
        (g.reachable start, true, .finished) := by
  have ended := pull_ends g start (Nat.lt_succ_self g.symbols.length)
  obtain ⟨last, rest, walk, finished⟩ := (underway_start g start).pull (g.symbols.length + 1)
  obtain ⟨looked, final⟩ := finished ended
  have visits : (g.reachable start).reverse =
      (Xref.pull (next g) (g.symbols.length + 1) (.paused [start] start [])).1.reverse ++
        [start] := by
    rw [reachable, pull_fresh, List.reverse_cons]
  refine ⟨last, rest, ?_, ?_, ?_⟩
  · rwa [visits]
  · rwa [visits]
  · rw [reachable, pull_fresh]
    exact Prod.ext rfl (Prod.ext ended final)

end Walk

theorem pull_walk (g : Graph) (start : Symbol) (more : Nat) :
    pull (Walk.next g) (g.symbols.length + 2 + more) (.fresh start) =
      (g.reachable start, true, .finished) := by
  obtain ⟨-, -, -, -, finished⟩ := Walk.pull_finishes g start
  rw [pull_of_le (Nat.le_add_right _ more) _ (by rw [finished]), finished]

theorem nodup_reachable (g : Graph) (start : Symbol) : (g.reachable start).Nodup := by
  obtain ⟨last, rest, walk, -⟩ := Walk.pull_finishes g start
  exact List.nodup_reverse.mp walk.distinct

theorem mem_reachable {g : Graph} {start s : Symbol} :
    s ∈ g.reachable start ↔ g.Reaches start s := by
  obtain ⟨last, rest, walk, looked, -⟩ := Walk.pull_finishes g start
  rw [← List.mem_reverse]
  exact ⟨walk.reached s, walk.complete (.refl g) looked⟩

/-- Driven to its end, a walk visits each symbol that can be reached from its start once, and no
other symbol. The number of pulls that reach the end is bounded by the number of symbols. -/
theorem walk_visits_exactly_reachable (g : Graph) (start : Symbol) :
    (∀ more, pull (Walk.next g) (g.symbols.length + 2 + more) (.fresh start) =
      (g.reachable start, true, .finished)) ∧
    (g.reachable start).Nodup ∧
    ∀ s, s ∈ g.reachable start ↔ g.Reaches start s :=
  ⟨pull_walk g start, nodup_reachable g start, fun _ => mem_reachable⟩

end Xref.Graph
