import Mathlib.Data.List.SplitBy
import Xref.Proofs.Report.Selection

namespace Xref.Report

/-! ## Merging two lists -/

/-- The last list takes its items in turn from the two others, each time from the first of them where
the choice is true. -/
inductive Merges {α : Type} : List Bool → List α → List α → List α → Prop where
  | nil : Merges [] [] [] []
  | left {choices : List Bool} {xs ys zs : List α} (x : α) :
      Merges choices xs ys zs → Merges (true :: choices) (x :: xs) ys (x :: zs)
  | right {choices : List Bool} {xs ys zs : List α} (y : α) :
      Merges choices xs ys zs → Merges (false :: choices) xs (y :: ys) (y :: zs)

section
variable {α β : Type} {choices : List Bool} {xs ys zs : List α}

theorem merges_filter (chosen : α → Bool) (items : List α) :
    Merges (items.map chosen) (items.filter chosen) (items.filter fun item => !chosen item) items := by
  induction items with
  | nil => exact .nil
  | cons item items ih =>
      cases side : chosen item with
      | true => simpa [side] using ih.left item
      | false => simpa [side] using ih.right item

theorem Merges.map (f : α → β) (merges : Merges choices xs ys zs) :
    Merges choices (xs.map f) (ys.map f) (zs.map f) := by
  induction merges with
  | nil => exact .nil
  | left x _ ih => exact ih.left (f x)
  | right y _ ih => exact ih.right (f y)

theorem Merges.sublist_left (merges : Merges choices xs ys zs) : xs.Sublist zs := by
  induction merges with
  | nil => exact .slnil
  | left x _ ih => exact ih.cons_cons x
  | right y _ ih => exact ih.cons y

theorem Merges.sublist_right (merges : Merges choices xs ys zs) : ys.Sublist zs := by
  induction merges with
  | nil => exact .slnil
  | left x _ ih => exact ih.cons x
  | right y _ ih => exact ih.cons_cons y

end

/-! ## The blocks of a report -/

def Line.beginsBlock : Line → Bool
  | .header _ => true
  | .node _ => true
  | _ => false

def Line.isFrame : Line → Bool
  | .opening => true
  | .closing => true
  | _ => false

/-- The blocks of a report, as its lines show them: each goes up to the next line that begins one. -/
def blocks (report : List Line) : List (List Line) :=
  (report.filter fun line => !line.isFrame).splitBy fun _ next => !next.beginsBlock

def blockTexts (display : Symbol → Text) (report : List Line) : List (List Text) :=
  (blocks report).map (List.map (Line.text display))

section
variable (g : Graph) (format : Format)

theorem isFrame_of_mem_block {s : Symbol} : ∀ line ∈ block g format s, line.isFrame = false := by
  intro line listed
  rw [block, List.mem_append, List.mem_cons, List.mem_map] at listed
  rcases listed with (rfl | ⟨target, -, rfl⟩) | ends
  · cases format <;> rfl
  · cases format <;> rfl
  · cases format <;> simp [blockEnd] at ends <;> rw [ends] <;> rfl

theorem filter_lines (symbols : List Symbol) :
    (lines g format symbols).filter (fun line => !line.isFrame) =
      (symbols.map (block g format)).flatten := by
  have inside : (symbols.flatMap (block g format)).filter (fun line => !line.isFrame) =
      symbols.flatMap (block g format) := by
    rw [List.filter_eq_self]
    intro line listed
    obtain ⟨s, -, listed⟩ := List.mem_flatMap.mp listed
    rw [isFrame_of_mem_block g format line listed, Bool.not_false]
  rw [← List.flatMap_def]
  cases format with
  | dot => simpa [lines, Line.isFrame] using inside
  | deps => exact inside
  | rdeps => exact inside

theorem isChain_block (s : Symbol) :
    (block g format s).IsChain fun _ next => (!next.beginsBlock) = true := by
  have entries : ∀ line ∈ (g.dependenciesOf s).map (blockEntry format s) ++ blockEnd format,
      (!line.beginsBlock) = true := by
    intro line listed
    rw [List.mem_append, List.mem_map] at listed
    rcases listed with ⟨target, -, rfl⟩ | ends
    · cases format <;> rfl
    · cases format <;> simp [blockEnd] at ends <;> rw [ends] <;> rfl
  rw [block, List.cons_append]
  apply List.Pairwise.isChain
  rw [List.pairwise_cons]
  exact ⟨entries, List.pairwise_of_forall_mem_list fun _ _ line listed => entries line listed⟩

theorem blocks_lines (symbols : List Symbol) :
    blocks (lines g format symbols) = symbols.map (block g format) := by
  rw [blocks, filter_lines, List.splitBy_flatten]
  · simp [block]
  · intro lines listed
    obtain ⟨s, -, rfl⟩ := List.mem_map.mp listed
    exact isChain_block g format s
  · -- Every block begins with a line that begins a block, whatever stands before it.
    apply List.Pairwise.isChain
    apply List.pairwise_of_forall_mem_list
    intro first one second other
    obtain ⟨s, -, rfl⟩ := List.mem_map.mp one
    obtain ⟨t, -, rfl⟩ := List.mem_map.mp other
    refine ⟨by simp [block], by simp [block], ?_⟩
    cases format <;> rfl

end

/-! ## Selections by reachability -/

theorem select_reachable (g : Graph) (start : Symbol) (format : Format) :
    select g (.reachableFrom start format) =
      .ok (g.keys.filter fun s => (g.reachable start).contains s) := rfl

theorem render_of_select {g : Graph} {options : Options} {selected : List Symbol}
    (supported : options.format ≠ .rdeps) (chosen : select g options = .ok selected) :
    render g options = .ok (lines g options.format selected) := by
  have accepted : checkSupported options.format = .ok () := by
    unfold checkSupported
    split
    · contradiction
    · rfl
  rw [render, accepted, chosen]
  rfl

def reachedKeys (g : Graph) (start : Symbol) : List Bool :=
  g.keys.map fun s => (g.reachable start).contains s

theorem merges_blocks (g : Graph) (start : Symbol) (format : Format) (supported : format ≠ .rdeps) :
    ∃ whole live dead, render g ⟨format, .all, none⟩ = .ok whole ∧
      render g (.reachableFrom start format) = .ok live ∧
      render g (.unreachableFrom start format) = .ok dead ∧
      Merges (reachedKeys g start) (blocks live) (blocks dead) (blocks whole) := by
  refine ⟨_, _, _, render_of_select supported rfl,
    render_of_select supported (select_reachable g start format),
    render_of_select supported (select_unreachable g start format), ?_⟩
  simp only [blocks_lines]
  exact (merges_filter _ g.keys).map _

/-- The reached keys and the other keys share out the keys of a graph, and the blocks of the two reports
share out the blocks of the report on the whole graph, in the same order. Neither the start symbol nor
a reached key depends on one of the other keys. -/
theorem filters_partition_report (g : Graph) (start : Symbol) :
    ∃ live dead,
      (∀ format, select g (.reachableFrom start format) = .ok live ∧
        select g (.unreachableFrom start format) = .ok dead) ∧
      live.Sublist g.keys ∧ dead.Sublist g.keys ∧ live.Disjoint dead ∧
      Merges (reachedKeys g start) live dead g.keys ∧
      (∀ s ∈ g.keys, s ∈ live ↔ g.Reaches start s) ∧
      (∀ format, format ≠ .rdeps → ∃ whole liveReport deadReport,
        render g ⟨format, .all, none⟩ = .ok whole ∧
        render g (.reachableFrom start format) = .ok liveReport ∧
        render g (.unreachableFrom start format) = .ok deadReport ∧
        Merges (reachedKeys g start) (blocks liveReport) (blocks deadReport) (blocks whole) ∧
        ∀ display, Merges (reachedKeys g start) (blockTexts display liveReport)
          (blockTexts display deadReport) (blockTexts display whole)) ∧
      ∀ s ∈ dead, s ∉ g.dependenciesOf start ∧ ∀ reached ∈ live, s ∉ g.dependenciesOf reached := by
  have keys := merges_filter (fun s => (g.reachable start).contains s) g.keys
  have reached {s : Symbol} : s ∈ g.keys.filter (fun s => (g.reachable start).contains s) ↔
      s ∈ g.keys ∧ g.Reaches start s := by
    rw [List.mem_filter, List.contains_iff_mem, Graph.mem_reachable]
  have unreached {s : Symbol} (listed : s ∈ g.keys.filter fun s => !(g.reachable start).contains s) :
      ¬ g.Reaches start s := by
    rw [← Graph.mem_reachable]
    exact (mem_unreachable.mp listed).2
  refine ⟨_, _, fun format => ⟨select_reachable g start format, select_unreachable g start format⟩,
    keys.sublist_left, keys.sublist_right, ?_, keys, ?_, ?_, ?_⟩
  · intro s live dead
    exact unreached dead (reached.mp live).2
  · intro s key
    rw [reached, and_iff_right key]
  · intro format supported
    obtain ⟨whole, live, dead, rendered, above, below, merges⟩ := merges_blocks g start format supported
    exact ⟨whole, live, dead, rendered, above, below, merges, fun display => merges.map _⟩
  · intro s dead
    refine ⟨fun depends => unreached dead (.single depends), ?_⟩
    intro other live depends
    exact unreached dead ((reached.mp live).2.tail depends)

theorem filters_partition_report_cycle :
    let g := Graph.ofRows [("a", ["b"]), ("c", ["a", "b", "c"]), ("b", ["main", "a"])]
    ∃ whole liveReport deadReport, render g ⟨.dot, .all, none⟩ = .ok whole ∧
      render g (.reachableFrom "b" .dot) = .ok liveReport ∧
      render g (.unreachableFrom "b" .dot) = .ok deadReport ∧
      Merges [true, false, true] (blocks liveReport) (blocks deadReport) (blocks whole) ∧
      "c".toList ∉ g.dependenciesOf "b" := by
  intro g
  have choices : reachedKeys g "b" = [true, false, true] := by decide
  obtain ⟨live, dead, selected, -, -, -, -, -, reports, separate⟩ := filters_partition_report g "b"
  obtain ⟨whole, liveReport, deadReport, rendered, above, below, merges, -⟩ := reports .dot (by decide)
  have other : "c".toList ∈ dead := by
    have chosen := (selected .dot).2
    rw [select_unreachable, Except.ok.injEq] at chosen
    rw [← chosen]
    decide
  refine ⟨whole, liveReport, deadReport, rendered, above, below, ?_, (separate _ other).1⟩
  rwa [← choices]

end Xref.Report
