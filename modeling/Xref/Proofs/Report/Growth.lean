import Xref.Proofs.Graph.Growth
import Xref.Report.Cursor

namespace Xref.Graph

def grown : List Move → Graph → Graph
  | [], g => g
  | .add addition :: moves, g => grown moves (g.add addition)
  | .pull :: moves, g => grown moves g

theorem continues_grown (moves : List Move) (g : Graph) : (grown moves g).Continues g := by
  induction moves generalizing g with
  | nil => exact .refl g
  | cons move moves ih =>
      cases move with
      | add addition => exact (ih (g.add addition)).trans (continues_add g addition)
      | pull => exact ih g

end Xref.Graph

namespace Xref.Report
open Xref.Graph (Move)

/-! ## Blocks with given entries -/

def blockOf (format : Format) (row : Symbol × List Symbol) : List Line :=
  blockHead format row.1 :: row.2.map (blockEntry format row.1) ++ blockEnd format

def closing : Format → List Line
  | .dot => [.closing]
  | _ => []

def framed : Format → List Line → List Line
  | .dot, lines => .opening :: lines ++ [.closing]
  | _, lines => lines

theorem lines_eq_framed (g : Graph) (format : Format) (symbols : List Symbol) :
    lines g format symbols =
      framed format ((symbols.map fun s => (s, g.dependenciesOf s)).flatMap (blockOf format)) := by
  rw [List.flatMap_map]
  cases format <;> rfl

/-! ## Pulls -/

structure Pull where
  graph : Graph
  line : Option Line
  deriving DecidableEq, Repr

def Pull.text? (display : Symbol → Text) (pull : Pull) : Option Text :=
  pull.line.map (Line.text display)

namespace Cursor

def pulls : List Move → Graph → Cursor → List Pull
  | [], _, _ => []
  | .add addition :: moves, g, cursor => pulls moves (g.add addition) cursor
  | .pull :: moves, g, cursor => ⟨g, (cursor.next g).1⟩ :: pulls moves g (cursor.next g).2

def Between (lower upper : Graph) (row : Symbol × List Symbol) : Prop :=
  lower.dependenciesOf row.1 <+: row.2 ∧ row.2 <+: upper.dependenciesOf row.1

theorem rows_of_between {g : Graph} {rows : List (Symbol × List Symbol)}
    (between : ∀ row ∈ rows, Between g g row) :
    rows = (rows.map Prod.fst).map fun s => (s, g.dependenciesOf s) := by
  have same : ∀ row ∈ rows, id row = (row.1, g.dependenciesOf row.1) := by
    intro row listed
    obtain ⟨above, below⟩ := between row listed
    have entries := above.eq_of_length (Nat.le_antisymm above.length_le below.length_le)
    exact Prod.ext rfl entries.symm
  rw [List.map_map]
  calc
    rows = rows.map id := (List.map_id rows).symm
    _ = _ := List.map_congr_left same

/-- The lines that come from a cursor up to its end, when the rows that it reads lie between those
of two graphs. -/
inductive Rest (lower upper : Graph) : Cursor → List Line → Prop where
  | before {format : Format} {symbols : List Symbol} {lines : List Line}
      (later : Rest lower upper ⟨format, symbols, .between⟩ lines) :
      Rest lower upper ⟨format, symbols, .before⟩ (.opening :: lines)
  | between (format : Format) {symbols : List Symbol} (rows : List (Symbol × List Symbol))
      (chosen : rows.map Prod.fst = symbols) (bounded : ∀ row ∈ rows, Between lower upper row) :
      Rest lower upper ⟨format, symbols, .between⟩
        (rows.flatMap (blockOf format) ++ closing format)
  | entered {format : Format} {symbols : List Symbol} {lines : List Line} (s : Symbol)
      (row : List Symbol) (bounded : Between lower upper (s, row))
      (later : Rest lower upper ⟨format, symbols, .inside s row⟩ lines) :
      Rest lower upper ⟨format, symbols, .entered s⟩ lines
  | inside {format : Format} {symbols : List Symbol} {lines : List Line} (s : Symbol)
      (targets : List Symbol) (later : Rest lower upper ⟨format, symbols, .between⟩ lines) :
      Rest lower upper ⟨format, symbols, .inside s targets⟩
        (targets.map (blockEntry format s) ++ blockEnd format ++ lines)
  | ended (format : Format) (symbols : List Symbol) : Rest lower upper ⟨format, symbols, .ended⟩ []

section
variable {lower upper g : Graph} {lines : List Line}

theorem rest_nextBlock (cursor : Cursor) (later : Rest lower upper cursor.nextBlock.2 lines) :
    Rest lower upper { cursor with stage := .between } (cursor.nextBlock.1.toList ++ lines) := by
  obtain ⟨format, symbols, stage⟩ := cursor
  cases symbols with
  | nil =>
      have nothing : lines = [] := by cases format <;> cases later <;> rfl
      subst nothing
      cases format <;> exact .between _ [] rfl (by simp)
  | cons s symbols =>
      cases later with
      | entered _ row bounded later =>
          cases later with
          | inside _ _ later =>
              cases later with
              | between _ rows chosen others =>
                  have all : ∀ other ∈ (s, row) :: rows, Between lower upper other :=
                    List.forall_mem_cons.mpr ⟨bounded, others⟩
                  have symbols : ((s, row) :: rows).map Prod.fst = s :: symbols :=
                    congrArg (s :: ·) chosen
                  simpa [nextBlock, blockOf] using Rest.between format _ symbols all

theorem rest_nextEntry (cursor : Cursor) (s : Symbol) (targets : List Symbol)
    (later : Rest lower upper (cursor.nextEntry s targets).2 lines) :
    Rest lower upper { cursor with stage := .inside s targets }
      ((cursor.nextEntry s targets).1.toList ++ lines) := by
  obtain ⟨format, symbols, stage⟩ := cursor
  cases targets with
  | cons target targets =>
      cases later with
      | inside _ _ later => simpa [nextEntry] using later.inside s (target :: targets)
  | nil =>
      cases format with
      | dot => simpa [nextEntry, blockEnd] using (rest_nextBlock _ later).inside s []
      | deps => simpa [nextEntry, blockEnd] using later.inside s []
      | rdeps => simpa [nextEntry, blockEnd] using later.inside s []

/-- The row of a block is read while the cursor gives the second line of the block. -/
theorem rest_next (cursor : Cursor) (above : g.Continues lower) (below : upper.Continues g)
    (later : Rest lower upper (cursor.next g).2 lines) :
    Rest lower upper cursor ((cursor.next g).1.toList ++ lines) := by
  obtain ⟨format, symbols, stage⟩ := cursor
  cases stage with
  | before => exact later.before
  | between => exact rest_nextBlock _ later
  | entered s =>
      exact .entered s (g.dependenciesOf s) ⟨above s, below s⟩ (rest_nextEntry _ s _ later)
  | inside s targets => exact rest_nextEntry _ s targets later
  | ended => simpa [next] using later

/-! ## The end -/

theorem stage_of_nextBlock {cursor : Cursor} (ended : cursor.nextBlock.1 = none) :
    cursor.nextBlock.2.stage = .ended := by
  obtain ⟨format, symbols, stage⟩ := cursor
  cases symbols with
  | nil => rfl
  | cons s symbols => cases ended

theorem stage_of_nextEntry {cursor : Cursor} {s : Symbol} {targets : List Symbol}
    (ended : (cursor.nextEntry s targets).1 = none) :
    (cursor.nextEntry s targets).2.stage = .ended := by
  obtain ⟨format, symbols, stage⟩ := cursor
  cases targets with
  | cons target targets => cases ended
  | nil =>
      cases format with
      | dot => exact stage_of_nextBlock ended
      | deps => cases ended
      | rdeps => cases ended

theorem stage_of_next {cursor : Cursor} (ended : (cursor.next g).1 = none) :
    (cursor.next g).2.stage = .ended := by
  obtain ⟨format, symbols, stage⟩ := cursor
  cases stage with
  | before => cases ended
  | between => exact stage_of_nextBlock ended
  | entered s => exact stage_of_nextEntry ended
  | inside s targets => exact stage_of_nextEntry ended
  | ended => rfl

theorem rest_of_stage {cursor : Cursor} (ended : cursor.stage = .ended) :
    Rest lower upper cursor [] := by
  obtain ⟨format, symbols, stage⟩ := cursor
  cases ended
  exact .ended format symbols

theorem pulls_ended {cursor : Cursor} (ended : cursor.stage = .ended) (moves : List Move)
    (g : Graph) : (pulls moves g cursor).filterMap Pull.line = [] := by
  induction moves generalizing g with
  | nil => rfl
  | cons move moves ih =>
      cases move with
      | add addition => exact ih (g.add addition)
      | pull =>
          have stays : cursor.next g = (none, cursor) := by rw [next, ended]
          simp only [pulls, stays, List.filterMap_cons_none]
          exact ih g

/-! ## Whole runs -/

theorem continues_of_mem_pulls {moves : List Move} {cursor : Cursor} {pull : Pull}
    (made : pull ∈ pulls moves g cursor) :
    pull.graph.Continues g ∧ (Graph.grown moves g).Continues pull.graph := by
  induction moves generalizing g cursor with
  | nil => cases made
  | cons move moves ih =>
      cases move with
      | add addition =>
          obtain ⟨above, below⟩ := ih made
          exact ⟨above.trans (Graph.continues_add g addition), below⟩
      | pull =>
          rcases List.mem_cons.mp made with rfl | made
          · exact ⟨.refl g, Graph.continues_grown moves g⟩
          · exact ih made

theorem rest_of_pulls {moves : List Move} {cursor : Cursor} {ending : Pull}
    (above : g.Continues lower) (met : ending ∈ pulls moves g cursor) (ended : ending.line = none) :
    Rest lower ending.graph cursor ((pulls moves g cursor).filterMap Pull.line) := by
  induction moves generalizing g cursor with
  | nil => cases met
  | cons move moves ih =>
      cases move with
      | add addition => exact ih ((Graph.continues_add g addition).trans above) met
      | pull =>
          have below := (continues_of_mem_pulls met).1
          cases given : (cursor.next g).1 with
          | none =>
              have stage := stage_of_next given
              have step := rest_next cursor above below (rest_of_stage stage)
              simpa [pulls, given, pulls_ended stage] using step
          | some line =>
              have later : ending ∈ pulls moves g (cursor.next g).2 := by
                refine (List.mem_cons.mp met).resolve_left ?_
                rintro rfl
                simp [given] at ended
              have step := rest_next cursor above below (ih above later)
              simpa [pulls, given] using step

def opened (format : Format) (symbols : List Symbol) : Cursor :=
  ⟨format, symbols, match format with | .dot => .before | _ => .between⟩

theorem openOn_of_select {options : Options} {selected : List Symbol}
    (supported : options.format ≠ .rdeps) (chosen : select g options = .ok selected) :
    openOn g options = .ok (opened options.format selected) := by
  unfold openOn checkSupported
  rw [chosen]
  cases format : options.format with
  | deps => rfl
  | dot => rfl
  | rdeps => exact absurd format supported

theorem rest_opened {format : Format} {symbols : List Symbol}
    (rest : Rest lower upper (opened format symbols) lines) :
    ∃ rows : List (Symbol × List Symbol), rows.map Prod.fst = symbols ∧
      lines = framed format (rows.flatMap (blockOf format)) ∧
      ∀ row ∈ rows, Between lower upper row := by
  cases format with
  | dot =>
      cases rest with
      | before later =>
          cases later with
          | between _ rows chosen bounded => exact ⟨rows, chosen, rfl, bounded⟩
  | deps =>
      cases rest with
      | between _ rows chosen bounded => exact ⟨rows, chosen, by simp [closing, framed], bounded⟩
  | rdeps =>
      cases rest with
      | between _ rows chosen bounded => exact ⟨rows, chosen, by simp [closing, framed], bounded⟩

end

end Cursor

theorem select_of_valid (g : Graph) {options : Options} (valid : options.mismatch? = none) :
    ∃ selected, select g options = .ok selected := by
  obtain ⟨format, filter, start⟩ := options
  cases filter <;> cases start <;> simp [Options.mismatch?] at valid <;> exact ⟨_, rfl⟩

/-- However the graph grows between the pulls, a report that is pulled to its end has a block for
each symbol that was chosen when it was opened, in that order, and nothing else. What a block lists
begins with the row of its symbol at the opening, and it begins the row of its symbol at the end. -/
theorem report_on_growing_graph (g : Graph) {options : Options}
    (supported : options.format ≠ .rdeps) (valid : options.mismatch? = none) :
    ∃ cursor selected, Cursor.openOn g options = .ok cursor ∧ select g options = .ok selected ∧
      ∀ moves, ∀ ending ∈ cursor.pulls moves g, ending.line = none →
        ∃ rows : List (Symbol × List Symbol), rows.map Prod.fst = selected ∧
          (cursor.pulls moves g).filterMap Pull.line =
            framed options.format (rows.flatMap (blockOf options.format)) ∧
          (∀ display, (cursor.pulls moves g).filterMap (Pull.text? display) =
            (framed options.format (rows.flatMap (blockOf options.format))).map
              (Line.text display)) ∧
          (∀ row ∈ rows, g.dependenciesOf row.1 <+: row.2 ∧
            row.2 <+: ending.graph.dependenciesOf row.1 ∧
            row.2 <+: (Graph.grown moves g).dependenciesOf row.1) ∧
          (Graph.grown moves g = g →
            (cursor.pulls moves g).filterMap Pull.line = lines g options.format selected) := by
  obtain ⟨selected, chosen⟩ := select_of_valid g valid
  refine ⟨_, selected, Cursor.openOn_of_select supported chosen, chosen, ?_⟩
  intro moves ending met ended
  obtain ⟨rows, symbols, output, bounded⟩ :=
    Cursor.rest_opened (Cursor.rest_of_pulls (.refl g) met ended)
  have between : ∀ row ∈ rows, Cursor.Between g (Graph.grown moves g) row := by
    intro row listed
    obtain ⟨above, below⟩ := bounded row listed
    exact ⟨above, below.trans ((Cursor.continues_of_mem_pulls met).2 row.1)⟩
  refine ⟨rows, symbols, output, ?_, ?_, ?_⟩
  · intro display
    rw [← output, List.map_filterMap]
    rfl
  · exact fun row listed => ⟨(bounded row listed).1, (bounded row listed).2, (between row listed).2⟩
  · intro unchanged
    rw [unchanged] at between
    rw [output, lines_eq_framed, ← symbols, ← Cursor.rows_of_between between]

/-- The entry `d` is added before the row of `b` is read and is shown; `e` is added to the row of
`a` after that was read, and the key `f` after the symbols were chosen. -/
theorem report_on_growing_graph_between :
    let g := Graph.ofEdges [⟨['a'], ['c']⟩, ⟨['b'], ['c']⟩]
    let moves : List Move := [.pull, .pull, .add (.edge ⟨['a'], ['e']⟩), .pull,
      .add (.edge ⟨['b'], ['d']⟩), .add (.symbol ['f']), .pull, .pull, .pull, .pull, .pull]
    let cursor : Cursor := ⟨.deps, [['a'], ['b']], .between⟩
    Cursor.openOn g ⟨.deps, .all, none⟩ = .ok cursor ∧
      (cursor.pulls moves g).filterMap Pull.line = [.header ['a'], .dependency ['c'], .separator,
        .header ['b'], .dependency ['c'], .dependency ['d'], .separator] ∧
      ∃ rows : List (Symbol × List Symbol), rows.map Prod.fst = [['a'], ['b']] ∧
        (cursor.pulls moves g).filterMap Pull.line = framed .deps (rows.flatMap (blockOf .deps)) ∧
        ∀ row ∈ rows, g.dependenciesOf row.1 <+: row.2 ∧
          row.2 <+: (Graph.grown moves g).dependenciesOf row.1 := by
  intro g moves cursor
  obtain ⟨other, selected, opened, chosen, ends⟩ :=
    @report_on_growing_graph g ⟨.deps, .all, none⟩ (by decide) rfl
  obtain rfl : cursor = other := Except.ok.inj opened
  obtain rfl : [['a'], ['b']] = selected := Except.ok.inj chosen
  obtain ⟨rows, symbols, output, -, bounded, -⟩ :=
    ends moves ⟨Graph.grown moves g, none⟩ (by decide) rfl
  refine ⟨opened, by decide, rows, symbols, output, ?_⟩
  exact fun row listed => ⟨(bounded row listed).1, (bounded row listed).2.2⟩

end Xref.Report
