import Xref.Proofs.Graph.Views
import Xref.Proofs.Report.Drawing

/-!
# A drawing in raw names shows its whole graph

Names stand in a drawing as they are, so a name may contain whatever stands around names. In a drawing
without display names the lines still tell the graph: the line of a node and that of an arrow end
differently, the line of a node has its name twice, so that its length leaves one name only, and in the
line of an arrow the name of the node above it leaves one target only.
-/

namespace Xref.Report
open Xref.Graph (Addition)

/-! ## The names on a line -/

theorem length_label_le {name other : Symbol} (begins : name <+: other) :
    (escapeQuotes (spelledFeeds name)).length ≤ (escapeQuotes (spelledFeeds other)).length := by
  obtain ⟨rest, rfl⟩ := begins
  simp [escapeQuotes, spelledFeeds]

/-- Of two names with the same line, one begins the other; a longer name would make the label no
shorter and so the line longer. -/
theorem name_eq_of_node_text {name other : Symbol}
    (same : (Line.node name).text id = (Line.node other).text id) : name = other := by
  have lengths : name.length + (escapeQuotes (spelledFeeds name)).length =
      other.length + (escapeQuotes (spelledFeeds other)).length := by
    have lengths := congrArg List.length same
    simp only [node_text, twoStrings, id_eq, List.length_cons, List.length_append] at lengths
    omega
  rw [node_text, node_text, twoStrings, twoStrings, List.cons.injEq] at same
  rcases List.prefix_or_prefix_of_prefix (List.prefix_append name _) (same.2 ▸ List.prefix_append other _)
    with begins | begins
  · have longer := length_label_le begins
    exact begins.eq_of_length_le (by omega)
  · have longer := length_label_le begins
    exact (begins.eq_of_length_le (by omega)).symm

theorem target_eq_of_arrow_text {s target other : Symbol}
    (same : (Line.arrow s target).text id = (Line.arrow s other).text id) : target = other := by
  simpa [arrow_text, twoStrings] using same

theorem node_text_ne_arrow_text (name s target : Symbol) :
    (Line.node name).text id ≠ (Line.arrow s target).text id := by
  rw [node_text, arrow_text]
  exact node_ne_arrow _ _ _ _

/-! ## Blocks -/

def rowTexts (row : Symbol × List Symbol) : List Text := (blockOf .dot row).map (Line.text id)

theorem rowTexts_eq (s : Symbol) (targets : List Symbol) : rowTexts (s, targets) =
    (Line.node s).text id :: targets.map fun target => (Line.arrow s target).text id := by
  have entries : blockOf .dot (s, targets) = .node s :: targets.map (Line.arrow s) := List.append_nil _
  rw [rowTexts, entries, List.map_cons, List.map_map]
  rfl

def BeginsBlock (texts : List Text) : Prop := ∀ text ∈ texts.head?, ∃ s, text = (Line.node s).text id

theorem beginsBlock_flatMap (rows : List (Symbol × List Symbol)) :
    BeginsBlock (rows.flatMap rowTexts) := by
  cases rows with
  | nil => simp [BeginsBlock]
  | cons row rows =>
      intro text first
      rw [List.flatMap_cons, rowTexts_eq, List.cons_append, List.head?_cons, Option.mem_some] at first
      exact ⟨row.1, first.symm⟩

theorem BeginsBlock.not_arrow {s target : Symbol} {texts : List Text}
    (begins : BeginsBlock ((Line.arrow s target).text id :: texts)) : False := by
  obtain ⟨name, same⟩ := begins _ rfl
  exact node_text_ne_arrow_text name s target same.symm

/-- The arrows from a symbol go on up to the next node. -/
theorem targets_eq_of_texts {s : Symbol} {targets others : List Symbol} {rest further : List Text}
    (begins : BeginsBlock rest) (beginsFurther : BeginsBlock further)
    (same : targets.map (fun target => (Line.arrow s target).text id) ++ rest =
      others.map (fun target => (Line.arrow s target).text id) ++ further) :
    targets = others ∧ rest = further := by
  induction targets generalizing others with
  | nil =>
      cases others with
      | nil => exact ⟨rfl, same⟩
      | cons other others =>
          rw [List.map_nil, List.nil_append] at same
          exact (same ▸ begins).not_arrow.elim
  | cons target targets ih =>
      cases others with
      | nil =>
          rw [List.map_nil, List.nil_append] at same
          exact (same ▸ beginsFurther).not_arrow.elim
      | cons other others =>
          obtain ⟨first, same⟩ := List.cons.inj same
          obtain ⟨rfl, rfl⟩ := ih same
          exact ⟨by rw [target_eq_of_arrow_text first], rfl⟩

theorem rows_eq_of_texts {rows others : List (Symbol × List Symbol)}
    (same : rows.flatMap rowTexts = others.flatMap rowTexts) : rows = others := by
  induction rows generalizing others with
  | nil =>
      cases others with
      | nil => rfl
      | cons other others =>
          obtain ⟨t, entries⟩ := other
          simp [rowTexts_eq] at same
  | cons row rows ih =>
      obtain ⟨s, targets⟩ := row
      cases others with
      | nil => simp [rowTexts_eq] at same
      | cons other others =>
          obtain ⟨t, entries⟩ := other
          rw [List.flatMap_cons, List.flatMap_cons, rowTexts_eq, rowTexts_eq, List.cons_append,
            List.cons_append, List.cons.injEq] at same
          obtain rfl := name_eq_of_node_text same.1
          obtain ⟨rfl, later⟩ := targets_eq_of_texts (beginsBlock_flatMap rows)
            (beginsBlock_flatMap others) same.2
          rw [ih later]

/-! ## Graphs -/

theorem render_dot_all {g : Graph} (distinct : g.keys.Nodup) :
    render g ⟨.dot, .all, none⟩ = .ok (framed .dot (g.rows.flatMap (blockOf .dot))) := by
  rw [Graph.rows_eq_map_keys distinct, ← lines_eq_framed]
  exact render_of_select Format.noConfusion rfl

theorem framed_texts (body : List Line) : (framed .dot body).map (Line.text id) =
    "digraph G \x7b".toList :: body.map (Line.text id) ++ ["\x7d".toList] := by
  rw [framed, List.map_append, List.map_cons]
  rfl

/-- Two graphs, however they were built, have the same drawing in raw names exactly when they have the
same rows in the same order. -/
theorem drawings_eq_iff_rows_eq (additions others : List Addition) :
    let g := Graph.empty.addAll additions
    let h := Graph.empty.addAll others
    ∃ drawn redrawn, render g ⟨.dot, .all, none⟩ = .ok drawn ∧
      render h ⟨.dot, .all, none⟩ = .ok redrawn ∧
      (drawn.map (Line.text id) = redrawn.map (Line.text id) ↔ g.rows = h.rows) := by
  intro g h
  have distinct : g.keys.Nodup := (Graph.Records.empty.addAll additions).nodup_keys
  have distinctOther : h.keys.Nodup := (Graph.Records.empty.addAll others).nodup_keys
  refine ⟨_, _, render_dot_all distinct, render_dot_all distinctOther, ?_⟩
  constructor
  · intro same
    rw [framed_texts, framed_texts, List.append_cancel_right_eq, List.cons.injEq, List.map_flatMap,
      List.map_flatMap] at same
    exact rows_eq_of_texts same.2
  · intro same
    rw [same]

end Xref.Report
