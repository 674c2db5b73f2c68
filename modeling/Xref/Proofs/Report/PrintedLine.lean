import Xref.Proofs.Report.Selection
import Xref.Proofs.Text.ControlSequence

namespace Xref.Report
open Text

def nodeFront (s : Symbol) : Text := "\"" ++ s ++ "\" [label=\""

inductive Prints (display : Symbol → Text) : Line → Text → Prop where
  | header (s : Symbol) : Prints display (.header s) ((display s).withoutSequences ++ ":")
  | dependency (target : Symbol) :
      Prints display (.dependency target) ('\t' :: (display target).withoutSequences)
  | separator : Prints display .separator []
  | opening : Prints display .opening "digraph G \x7b"
  | node (s : Symbol) (finished : ¬ Unfinished (escapeLabel (display s))) :
      Prints display (.node s)
        ((nodeFront s).withoutSequences ++ (escapeLabel (display s)).withoutSequences ++ "\"];")
  | openNode (s : Symbol) (label opening : Text)
      (breaks : escapeLabel (display s) = label ++ '\x1b' :: opening) (opens : IsOpening opening) :
      Prints display (.node s) ((nodeFront s).withoutSequences ++ label.withoutSequences ++ ";")
  | arrow (s target : Symbol) :
      Prints display (.arrow s target)
        (withoutSequences ("\"" ++ s ++ "\" -> \"" ++ target ++ "\";"))
  | closing : Prints display .closing "\x7d"

theorem suffix_of_cons_suffix {c : Char} {rest before after : Text}
    (suffix : c :: rest <:+ before ++ after) (absent : c ∉ after) : after <:+ rest := by
  rcases List.suffix_or_suffix_of_suffix suffix (List.suffix_append before after) with short | long
  · exact absurd (short.subset List.mem_cons_self) absent
  · rcases List.suffix_cons_iff.mp long with same | within
    · exact absurd (same ▸ List.mem_cons_self) absent
    · exact within

theorem separate_nodeFront (s : Symbol) (second : Text) : Separate (nodeFront s) second := by
  have foreign : ¬ ('l' = '[' ∨ isParameter 'l' = true ∨ isIntermediate 'l' = true) := by decide
  apply separate_of_mem foreign
  intro rest suffix
  exact (suffix_of_cons_suffix suffix (by decide)).subset (by decide)

theorem prints_node (display : Symbol → Text) (s : Symbol) :
    Prints display (.node s) ((Line.node s).text display).withoutSequences := by
  have joined : (Line.node s).text display =
      nodeFront s ++ (escapeLabel (display s) ++ "\"];".toList) :=
    List.append_assoc (nodeFront s) (escapeLabel (display s)) "\"];".toList
  rw [joined, withoutSequences_append (separate_nodeFront s _)]
  by_cases unfinished : Unfinished (escapeLabel (display s))
  · obtain ⟨label, opening, breaks, opens⟩ := unfinished
    rw [breaks, withoutSequences_unfinished label opens, ← List.append_assoc]
    exact .openNode s label opening breaks opens
  · rw [withoutSequences_append (separate_label unfinished), ← List.append_assoc]
    exact .node s unfinished

theorem prints_text (display : Symbol → Text) (line : Line) :
    Prints display line (line.text display).withoutSequences := by
  cases line with
  | header s =>
      have joined : ((Line.header s).text display).withoutSequences =
          (display s).withoutSequences ++ ":".toList :=
        withoutSequences_append (separate_colon (display s))
      rw [joined]
      exact .header s
  | dependency target =>
      have joined : ((Line.dependency target).text display).withoutSequences =
          '\t' :: (display target).withoutSequences :=
        withoutSequences_cons (by decide) (display target)
      rw [joined]
      exact .dependency target
  | separator => exact .separator
  | opening => exact .opening
  | node s => exact prints_node display s
  | arrow s target => exact .arrow s target
  | closing => exact .closing

/-! ## Line feeds -/

theorem newline_not_mem_escapeLabel (label : Text) : '\n' ∉ escapeLabel label := by
  intro stands
  obtain ⟨c, -, written⟩ := List.mem_flatMap.mp stands
  split_ifs at written with quote feed
  · exact absurd written (by decide)
  · exact absurd written (by decide)
  · exact feed (List.mem_singleton.mp written).symm

theorem newline_not_mem_write {shown : Text} {line : Line} (single : '\n' ∉ shown)
    (raw : ∀ s ∈ line.mentioned, '\n' ∉ s) : '\n' ∉ line.write shown := by
  cases line with
  | header s => exact List.not_mem_append single (by decide)
  | dependency target => exact List.not_mem_cons_of_ne_of_not_mem (by decide) single
  | separator => exact List.not_mem_nil
  | opening => exact (by decide : '\n' ∉ "digraph G \x7b".toList)
  | node s =>
      have name := raw s (List.mem_singleton_self s)
      have label := newline_not_mem_escapeLabel shown
      unfold Line.write
      simp only [List.mem_append, not_or]
      exact ⟨⟨⟨⟨by decide, name⟩, by decide⟩, label⟩, by decide⟩
  | arrow s target =>
      obtain ⟨source, further⟩ := List.forall_mem_cons.mp raw
      have entry := further target (List.mem_singleton_self target)
      unfold Line.write
      simp only [List.mem_append, not_or]
      exact ⟨⟨⟨⟨by decide, source⟩, by decide⟩, entry⟩, by decide⟩
  | closing => exact (by decide : '\n' ∉ "\x7d".toList)

theorem newline_not_mem_text {display : Symbol → Text} {line : Line}
    (raw : ∀ s ∈ line.mentioned, '\n' ∉ s) (shown : ∀ s ∈ line.mentioned, '\n' ∉ display s) :
    '\n' ∉ line.text display := by
  apply newline_not_mem_write _ raw
  cases asked : line.displayed? with
  | none => exact List.not_mem_nil
  | some s => exact shown s (Line.mem_mentioned_of_displayed? asked)

end Xref.Report
