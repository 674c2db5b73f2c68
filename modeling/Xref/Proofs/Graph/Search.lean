import Xref.Proofs.Graph.Additions
import Xref.Proofs.Graph.Walk

/-!
# Depth-first search by recursion

To visit a symbol is to emit and mark it and then to go through its row, visiting each entry that
is not marked when its turn comes; the marks are handed on from call to call. A walk, with its
stack of rows, emits the same symbols in the same order: the recursion over one row and then over
another is the recursion over the two in a row, so the calls that are pending at any moment
amount to one list, which is what the stack holds.
-/

namespace Xref.Graph

/-- What a part of a search did. No mark is ever taken back. -/
structure Visited (marked : List Symbol) where
  order : List Symbol
  marks : List Symbol
  kept : marked ⊆ marks

def unmarkedKeys (g : Graph) (marked : List Symbol) : Nat :=
  g.keys.countP fun s => !marked.contains s

theorem unmarkedKeys_mono {g : Graph} {marked marks : List Symbol} (kept : marked ⊆ marks) :
    g.unmarkedKeys marks ≤ g.unmarkedKeys marked := by
  apply List.countP_mono_left
  intro s _
  simpa using fun fresh old => fresh (kept old)

theorem unmarkedKeys_cons {g : Graph} {marked : List Symbol} {s : Symbol} (key : s ∈ g.keys)
    (fresh : s ∉ marked) : g.unmarkedKeys (s :: marked) < g.unmarkedKeys marked := by
  obtain ⟨before, after, keys⟩ := List.append_of_mem key
  have others (part : List Symbol) : part.countP (fun k => !(s :: marked).contains k) ≤
      part.countP (fun k => !marked.contains k) := by
    apply List.countP_mono_left
    simp
  unfold unmarkedKeys
  rw [keys, List.countP_append, List.countP_append, List.countP_cons, List.countP_cons,
    if_neg (by simp), if_pos (by simpa using fresh)]
  have first := others before
  have last := others after
  omega

theorem search_decreases {g : Graph} {marked marks : List Symbol} {few many : Nat × Nat}
    (kept : marked ⊆ marks) (shorter : Prod.Lex (· < ·) (· < ·) few many) :
    Prod.Lex (· < ·) (Prod.Lex (· < ·) (· < ·)) (g.unmarkedKeys marks, few)
      (g.unmarkedKeys marked, many) := by
  rcases Nat.lt_or_eq_of_le (unmarkedKeys_mono kept) with fewer | same
  · exact .left _ _ fewer
  · rw [same]
    exact .right _ shorter

mutual

def visit (g : Graph) (marked : List Symbol) (s : Symbol) (_fresh : s ∉ marked) : Visited marked :=
  let below := visitEach g (s :: marked) (g.dependenciesOf s)
  ⟨s :: below.order, below.marks, fun _ old => below.kept (List.mem_cons_of_mem s old)⟩
termination_by (g.unmarkedKeys marked, 1, 0)
decreasing_by
  by_cases key : s ∈ g.keys
  · exact .left _ _ (unmarkedKeys_cons key _fresh)
  · rw [dependenciesOf_eq_nil key]
    exact search_decreases (List.subset_cons_self s marked) (.left _ _ Nat.one_pos)

def visitEach (g : Graph) (marked : List Symbol) : List Symbol → Visited marked
  | [] => ⟨[], marked, fun _ old => old⟩
  | s :: row =>
    if old : s ∈ marked then visitEach g marked row
    else
      let first := visit g marked s old
      let others := visitEach g first.marks row
      ⟨first.order ++ others.order, others.marks, fun _ old => others.kept (first.kept old)⟩
termination_by row => (g.unmarkedKeys marked, row.length, 1)
decreasing_by
  · exact .right _ (.left _ _ (Nat.lt_succ_self row.length))
  · rcases Nat.eq_zero_or_pos row.length with alone | more
    · rw [List.length_cons, alone]
      exact .right _ (.right _ Nat.one_pos)
    · exact .right _ (.left _ _ (Nat.succ_lt_succ more))
  · exact search_decreases first.kept (.left _ _ (Nat.lt_succ_self row.length))

end

def depthFirst (g : Graph) (start : Symbol) : List Symbol :=
  (visit g [] start List.not_mem_nil).order

section
variable (g : Graph) {marked : List Symbol} {s : Symbol} (row : List Symbol)

theorem visitEach_of_mem (old : s ∈ marked) :
    visitEach g marked (s :: row) = visitEach g marked row := by
  rw [visitEach, dif_pos old]

theorem visitEach_of_fresh (fresh : s ∉ marked) :
    (visitEach g marked (s :: row)).order =
      (visit g marked s fresh).order ++ (visitEach g (visit g marked s fresh).marks row).order ∧
    (visitEach g marked (s :: row)).marks =
      (visitEach g (visit g marked s fresh).marks row).marks := by
  rw [visitEach, dif_neg fresh]
  exact ⟨rfl, rfl⟩

theorem visitEach_append (marked first others : List Symbol) :
    (visitEach g marked (first ++ others)).order =
      (visitEach g marked first).order ++
        (visitEach g (visitEach g marked first).marks others).order := by
  induction first generalizing marked with
  | nil =>
      rw [List.nil_append, visitEach]
      rfl
  | cons s first ih =>
      rw [List.cons_append]
      by_cases old : s ∈ marked
      · rw [visitEach_of_mem g _ old, visitEach_of_mem g _ old, ih]
      · obtain ⟨order, -⟩ := visitEach_of_fresh g (first ++ others) old
        obtain ⟨firstOrder, firstMarks⟩ := visitEach_of_fresh g first old
        rw [order, firstOrder, firstMarks, ih, List.append_assoc]

theorem visitEach_dropWhile (marked entries : List Symbol) :
    visitEach g marked (entries.dropWhile (· ∈ marked)) = visitEach g marked entries := by
  induction entries with
  | nil => rfl
  | cons s entries ih =>
      by_cases old : s ∈ marked
      · rw [List.dropWhile_cons_of_pos (by simpa using old), visitEach_of_mem g _ old, ih]
      · rw [List.dropWhile_cons_of_neg (by simpa using old)]

theorem visitEach_cons (fresh : s ∉ marked) :
    (visitEach g marked (s :: row)).order =
      s :: (visitEach g (s :: marked) (g.dependenciesOf s ++ row)).order := by
  rw [(visitEach_of_fresh g row fresh).1, visitEach_append, visit]
  rfl

end

theorem pull_paused (g : Graph) (count : Nat) (marked : List Symbol) (last : Symbol)
    (waiting : List (List Symbol)) :
    (pull (Walk.next g) count (.paused marked last waiting)).1 =
      (visitEach g marked (Walk.unread g last waiting)).order.take count := by
  induction count generalizing marked last waiting with
  | zero => simp [pull]
  | succ count ih =>
      -- The search skips the marked entries at the front just as the walk does.
      rw [← visitEach_dropWhile]
      rcases Walk.next_cases g marked last waiting with ⟨s, rest, step, fresh, front⟩ | ⟨step, front⟩
      · rw [pull_of_some step, front, visitEach_cons g rest.flatten fresh, List.take_succ_cons, ih]
        rfl
      · rw [pull_of_none step, front, visitEach, List.take_nil]

theorem pull_fresh_eq_take (g : Graph) (start : Symbol) (count : Nat) :
    (pull (Walk.next g) count (.fresh start)).1 = (g.depthFirst start).take count := by
  cases count with
  | zero => simp [pull]
  | succ count =>
      have order : g.depthFirst start =
          start :: (visitEach g [start] (Walk.unread g start [])).order := by
        rw [depthFirst, visit, Walk.unread, List.flatten_nil, List.append_nil]
      rw [Walk.pull_fresh, pull_paused, order, List.take_succ_cons]

/-- A walk gives, pull by pull, what the recursive search emits. -/
theorem walk_eq_depthFirst (g : Graph) (start : Symbol) :
    g.reachable start = g.depthFirst start ∧
    ∀ count, (pull (Walk.next g) count (.fresh start)).1 = (g.depthFirst start).take count := by
  refine ⟨?_, pull_fresh_eq_take g start⟩
  have all := pull_fresh_eq_take g start (g.symbols.length + 2 + (g.depthFirst start).length)
  rw [pull_walk, List.take_of_length_le (by omega)] at all
  exact all

end Xref.Graph
