import Xref.Proofs.Graph.Listing
import Xref.Proofs.Graph.Reachability
import Xref.Proofs.Graph.Walk
import Xref.Report.Basic

namespace Xref.Report
open Listing

theorem select_unreachable (g : Graph) (start : Symbol) (format : Format) :
    select g (.unreachableFrom start format) =
      .ok (g.keys.filter fun s => !(g.reachable start).contains s) := rfl

theorem mem_unreachable {g : Graph} {start s : Symbol} :
    s ∈ g.keys.filter (fun s => !(g.reachable start).contains s) ↔
      s ∈ g.keys ∧ s ∉ g.reachable start := by
  rw [List.mem_filter, Bool.not_eq_true', ← Bool.not_eq_true, List.contains_iff_mem]

/-- A symbol that a listing defines is reported as unreachable exactly when the walk does not meet it
and one of its own lines refers to another symbol. -/
theorem defined_mem_unreachable_iff (lines : List Text) (start : Symbol) (format : Format) :
    ∃ selected, select (.ofListing lines) (.unreachableFrom start format) = .ok selected ∧
      ∀ s, (∃ line ∈ lines, definition? line = some s) →
        (s ∈ selected ↔ s ∉ (Graph.ofListing lines).reachable start ∧
          ∃ i line, lines[i]? = some line ∧ definition? line = none ∧
            ownerAt lines i = s ∧ reference? line s ≠ none) := by
  refine ⟨_, select_unreachable _ start format, ?_⟩
  intro s _
  rw [mem_unreachable, Graph.mem_keys_ofListing, and_comm]

theorem unused_caller_mem_unreachable :
    let lines : List Text := ["0 <main>:", "call <a>", "4 <unused>:", "jmp <unused+2>", "call <a>"]
    (∃ line ∈ lines, definition? line = some "unused".toList) ∧
      ∃ selected, select (.ofListing lines) (.unreachableFrom "main" .deps) = .ok selected ∧
        "unused".toList ∈ selected := by
  intro lines
  have defined : ∃ line ∈ lines, definition? line = some "unused".toList := by decide
  obtain ⟨selected, chosen, members⟩ := defined_mem_unreachable_iff lines "main" .deps
  refine ⟨defined, selected, chosen, (members _ defined).mpr ⟨by decide, 4, "call <a>".toList, ?_⟩⟩
  decide

/-- Nothing reaches `leaf`, but its lines refer to nothing, and the report leaves it out. -/
theorem unused_leaf_not_mem_unreachable :
    let lines : List Text := ["0 <main>:", "call <helper>", "4 <leaf>:", "ret"]
    ¬ ∃ selected, select (.ofListing lines) (.unreachableFrom "main" .deps) = .ok selected ∧
      ∀ s, (∃ line ∈ lines, definition? line = some s) →
        (s ∈ selected ↔ s ∉ (Graph.ofListing lines).reachable "main") := by
  intro lines
  rintro ⟨selected, chosen, complete⟩
  have none : selected = [] := by
    rw [select_unreachable, Except.ok.injEq] at chosen
    rw [← chosen]
    decide
  have unreached : "leaf".toList ∉ (Graph.ofListing lines).reachable "main" := by decide
  have shown := (complete "leaf" (by decide)).mpr unreached
  rw [none] at shown
  exact List.not_mem_nil shown

/-! ## The names in a report -/

theorem subset_keys_of_select {g : Graph} {options : Options} {selected : List Symbol}
    (chosen : select g options = .ok selected) : selected ⊆ g.keys := by
  unfold select at chosen
  split at chosen <;> cases chosen
  · exact List.Subset.refl _
  · exact List.filter_subset_self _
  · exact List.filter_subset_self _

def Line.mentioned : Line → List Symbol
  | .header s => [s]
  | .dependency target => [target]
  | .node s => [s]
  | .arrow s target => [s, target]
  | _ => []

theorem Line.mem_mentioned_of_displayed? {line : Line} {name : Symbol}
    (shown : line.displayed? = some name) : name ∈ line.mentioned := by
  cases line <;> simp_all [Line.displayed?, Line.mentioned]

theorem mentioned_of_mem_block {g : Graph} {format : Format} {s name : Symbol} {line : Line}
    (listed : line ∈ block g format s) (named : name ∈ line.mentioned) :
    name = s ∨ g.DependsOn s name := by
  rw [block, List.mem_append, List.mem_cons, List.mem_map] at listed
  rcases listed with (rfl | ⟨target, depends, rfl⟩) | ends
  · cases format <;> exact .inl (List.mem_singleton.mp named)
  · cases format with
    | dot =>
        rcases List.mem_pair.mp named with owner | entry
        · exact .inl owner
        · exact .inr (entry ▸ depends)
    | deps => exact .inr (List.mem_singleton.mp named ▸ depends)
    | rdeps => exact .inr (List.mem_singleton.mp named ▸ depends)
  · cases format <;> simp [blockEnd] at ends <;> cases ends <;> cases named

theorem mem_block_of_mem_lines {g : Graph} {format : Format} {symbols : List Symbol} {line : Line}
    {name : Symbol} (listed : line ∈ lines g format symbols) (named : name ∈ line.mentioned) :
    ∃ s ∈ symbols, line ∈ block g format s := by
  rw [← List.mem_flatMap]
  cases format with
  | dot =>
      rw [lines, List.mem_append, List.mem_cons, List.mem_singleton] at listed
      rcases listed with (rfl | inside) | rfl
      · cases named
      · exact inside
      · cases named
  | deps => exact listed
  | rdeps => exact listed

theorem render_eq_ok {g : Graph} {options : Options} {report : List Line}
    (rendered : render g options = .ok report) :
    checkSupported options.format = .ok () ∧
      ∃ selected, select g options = .ok selected ∧ report = lines g options.format selected := by
  simp only [render, bind, Except.bind] at rendered
  split at rendered
  · cases rendered
  · rename_i supported
    split at rendered
    · cases rendered
    · rename_i selected chosen
      cases rendered
      exact ⟨supported, selected, chosen, rfl⟩

theorem mentioned_mem_symbols {g : Graph} {options : Options} {report : List Line}
    (rendered : render g options = .ok report) :
    ∀ line ∈ report, ∀ name ∈ line.mentioned, name ∈ g.symbols := by
  obtain ⟨-, selected, chosen, rfl⟩ := render_eq_ok rendered
  intro line listed name named
  obtain ⟨s, among, inside⟩ := mem_block_of_mem_lines listed named
  rcases mentioned_of_mem_block inside named with rfl | depends
  · exact Graph.mem_symbols_of_mem_keys (subset_keys_of_select chosen among)
  · exact depends.mem_symbols

theorem displayed_mem_symbols {g : Graph} {options : Options} {report : List Line}
    (rendered : render g options = .ok report) :
    ∀ line ∈ report, ∀ name, line.displayed? = some name → name ∈ g.symbols :=
  fun line listed name shown =>
    mentioned_mem_symbols rendered line listed name (Line.mem_mentioned_of_displayed? shown)

end Xref.Report
