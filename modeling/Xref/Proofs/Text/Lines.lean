import Mathlib.Data.List.Basic
import Xref.Text.Lines

namespace Xref.Text

theorem linesAt_single {isBreak : Char → Bool} {line : Text} {c : Char}
    (unbroken : ∀ c ∈ line, isBreak c = false) (ends : isBreak c = true) :
    linesAt isBreak (line ++ [c]) = [line] := by
  induction line with
  | nil => simp [linesAt, ends]
  | cons first line ih =>
      obtain ⟨plain, unbroken⟩ := List.forall_mem_cons.mp unbroken
      simp [linesAt, plain, ih unbroken]

theorem linesAt_unbroken {isBreak : Char → Bool} {line : Text} (present : line ≠ [])
    (unbroken : ∀ c ∈ line, isBreak c = false) : linesAt isBreak line = [line] := by
  induction line with
  | nil => exact absurd rfl present
  | cons first line ih =>
      obtain ⟨plain, unbroken⟩ := List.forall_mem_cons.mp unbroken
      cases line with
      | nil => simp [linesAt, plain]
      | cons second line =>
          rw [linesAt, plain, ih (List.cons_ne_nil second line) unbroken]
          rfl

theorem linesAt_ne_nil (isBreak : Char → Bool) {text : Text} (present : text ≠ []) :
    linesAt isBreak text ≠ [] := by
  obtain ⟨c, rest, rfl⟩ := List.exists_cons_of_ne_nil present
  unfold linesAt
  split_ifs
  · simp
  · split <;> simp

theorem linesAt_append {isBreak : Char → Bool} {c : Char} (ends : isBreak c = true) (text rest : Text) :
    linesAt isBreak (text ++ c :: rest) = linesAt isBreak (text ++ [c]) ++ linesAt isBreak rest := by
  induction text with
  | nil => simp [linesAt, ends]
  | cons first text ih =>
      simp only [List.cons_append, linesAt, ih]
      split_ifs
      · rfl
      · obtain ⟨line, lines, begun⟩ := List.exists_cons_of_ne_nil
          (linesAt_ne_nil isBreak (List.append_ne_nil_of_right_ne_nil text (List.cons_ne_nil c [])))
        rw [begun]
        rfl

theorem cut_flatMap {cut : Text → List Text} (nothing : cut [] = [])
    (apart : ∀ text rest, cut (text ++ '\n' :: rest) = cut (text ++ ['\n']) ++ cut rest)
    (texts : List Text) :
    cut (texts.flatMap (· ++ "\n".toList)) = texts.flatMap fun text => cut (text ++ "\n".toList) := by
  induction texts with
  | nil => exact nothing
  | cons text texts ih =>
      have ended : (text :: texts).flatMap (· ++ "\n".toList) =
          text ++ '\n' :: texts.flatMap (· ++ "\n".toList) := by simp
      rw [ended, apart, ih]
      rfl

theorem linesAt_flatMap {isBreak : Char → Bool} {lines : List Text}
    (unbroken : ∀ line ∈ lines, ∀ c ∈ line, isBreak c = false) (ends : isBreak '\n' = true) :
    linesAt isBreak (lines.flatMap (· ++ "\n".toList)) = lines := by
  have single : ∀ line ∈ lines, linesAt isBreak (line ++ "\n".toList) = [line] :=
    fun line listed => linesAt_single (unbroken line listed) ends
  rw [cut_flatMap rfl (linesAt_append ends), List.flatMap_congr single]
  exact List.flatMap_singleton' lines

theorem chars_of_mem_linesAt {isBreak : Char → Bool} {text line : Text}
    (listed : line ∈ linesAt isBreak text) : ∀ c ∈ line, c ∈ text ∧ isBreak c = false := by
  induction text generalizing line with
  | nil => exact absurd listed List.not_mem_nil
  | cons first rest ih =>
      have behind {line : Text} (later : line ∈ linesAt isBreak rest) :
          ∀ c ∈ line, c ∈ first :: rest ∧ isBreak c = false :=
        fun c stands => (ih later c stands).imp_left (List.mem_cons_of_mem first)
      unfold linesAt at listed
      split_ifs at listed with ends
      · rcases List.mem_cons.mp listed with rfl | later
        · simp
        · exact behind later
      · have begins : first ∈ first :: rest ∧ isBreak first = false := by simpa using ends
        split at listed
        · obtain rfl := List.mem_singleton.mp listed
          exact List.forall_mem_singleton.mpr begins
        · rename_i line others lines
          rcases List.mem_cons.mp listed with rfl | later
          · exact List.forall_mem_cons.mpr ⟨begins, behind (lines ▸ List.mem_cons_self)⟩
          · exact behind (lines ▸ List.mem_cons_of_mem line later)

theorem isBreak_of_mem_linesAt {isBreak : Char → Bool} {text line : Text}
    (listed : line ∈ linesAt isBreak text) : ∀ c ∈ line, isBreak c = false :=
  fun c stands => (chars_of_mem_linesAt listed c stands).2

theorem newline_not_mem_lines (text : Text) : ∀ line ∈ text.lines, '\n' ∉ line :=
  fun _ listed stands => absurd (isBreak_of_mem_linesAt listed _ stands) (by decide)

theorem return_not_mem_unifyLineEnds (text : Text) : '\r' ∉ unifyLineEnds text := by
  induction text using unifyLineEnds.induct with
  | case1 => exact List.not_mem_nil
  | case2 rest ih => simpa [unifyLineEnds] using ih
  | case3 c rest apart ih =>
      rw [unifyLineEnds, List.mem_cons, not_or]
      · refine ⟨?_, ih⟩
        split_ifs with isReturn
        · decide
        · exact Ne.symm isReturn
      · exact apart

theorem unifyLineEnds_append_of_not_mem {text : Text} (absent : '\r' ∉ text) (rest : Text) :
    unifyLineEnds (text ++ rest) = text ++ unifyLineEnds rest := by
  induction text with
  | nil => rfl
  | cons c text ih =>
      rw [List.mem_cons, not_or] at absent
      rw [List.cons_append, unifyLineEnds, ih absent.2, if_neg (Ne.symm absent.1), List.cons_append]
      exact fun _ isReturn => absurd isReturn.symm absent.1

theorem unifyLineEnds_of_not_mem {text : Text} (absent : '\r' ∉ text) :
    unifyLineEnds text = text := by
  simpa [unifyLineEnds] using unifyLineEnds_append_of_not_mem absent []

theorem unifyLineEnds_append (text : Text) :
    ∃ unified, ∀ rest, unifyLineEnds (text ++ '\n' :: rest) = unified ++ '\n' :: unifyLineEnds rest := by
  induction text using unifyLineEnds.induct with
  | case1 => exact ⟨[], fun rest => rfl⟩
  | case2 text ih =>
      obtain ⟨unified, ih⟩ := ih
      exact ⟨'\n' :: unified, fun rest => by simp [unifyLineEnds, ih]⟩
  | case3 c text apart ih =>
      by_cases joined : c = '\r' ∧ text = []
      -- The carriage return and the line feed are one line end.
      · obtain ⟨rfl, rfl⟩ := joined
        exact ⟨[], fun rest => rfl⟩
      · obtain ⟨unified, ih⟩ := ih
        refine ⟨(if c = '\r' then '\n' else c) :: unified, fun rest => ?_⟩
        rw [List.cons_append, unifyLineEnds, ih]
        · rfl
        · intro behind isReturn begins
          cases text with
          | nil => exact joined ⟨isReturn, rfl⟩
          | cons next text =>
              rw [List.cons_append, List.cons.injEq] at begins
              exact apart text isReturn (by rw [begins.1])

/-! The three line ends. -/

theorem unifyLineEnds_feed (rest : Text) :
    unifyLineEnds ('\n' :: rest) = '\n' :: unifyLineEnds rest := by
  simp [unifyLineEnds]

theorem unifyLineEnds_pair (rest : Text) :
    unifyLineEnds ('\r' :: '\n' :: rest) = '\n' :: unifyLineEnds rest := by
  rw [unifyLineEnds]

theorem unifyLineEnds_return {rest : Text} (alone : rest.head? ≠ some '\n') :
    unifyLineEnds ('\r' :: rest) = '\n' :: unifyLineEnds rest := by
  rw [unifyLineEnds, if_pos rfl]
  rintro behind - rfl
  exact alone rfl

theorem beq_newline_of_not_mem {line : Text} (single : '\n' ∉ line) :
    ∀ c ∈ line, (c == '\n') = false := by
  intro c stands
  rw [beq_eq_false_iff_ne]
  rintro rfl
  exact single stands

theorem lines_last {line : Text} (present : line ≠ []) (single : '\n' ∉ line) : line.lines = [line] :=
  linesAt_unbroken present (beq_newline_of_not_mem single)

theorem lines_ended {line ended rest : Text} (single : '\n' ∉ line ∧ '\r' ∉ line)
    (ends : unifyLineEnds ended = '\n' :: unifyLineEnds rest) :
    (unifyLineEnds (line ++ ended)).lines = line :: (unifyLineEnds rest).lines := by
  rw [unifyLineEnds_append_of_not_mem single.2, ends, lines, linesAt_append rfl,
    linesAt_single (beq_newline_of_not_mem single.1) rfl]
  rfl

theorem displayLines_append (text rest : Text) :
    displayLines (text ++ '\n' :: rest) = displayLines (text ++ ['\n']) ++ displayLines rest := by
  obtain ⟨unified, joined⟩ := unifyLineEnds_append text
  have alone : unifyLineEnds (text ++ ['\n']) = unified ++ ['\n'] := joined []
  rw [displayLines, joined, linesAt_append rfl, displayLines, alone, displayLines]

theorem displayLines_ne_nil (text : Text) : displayLines (text ++ "\n") ≠ [] := by
  obtain ⟨unified, joined⟩ := unifyLineEnds_append text
  have alone : unifyLineEnds (text ++ "\n") = unified ++ ['\n'] := joined []
  rw [displayLines, alone]
  exact linesAt_ne_nil _ (List.append_ne_nil_of_right_ne_nil unified (List.cons_ne_nil '\n' []))

def IsSingleLine (text : Text) : Prop := ∀ c ∈ text, isLineBoundary c = false

instance (text : Text) : Decidable text.IsSingleLine :=
  List.decidableBAll (fun c => isLineBoundary c = false) text

theorem IsSingleLine.newline_not_mem {text : Text} (single : text.IsSingleLine) : '\n' ∉ text :=
  fun stands => absurd (single '\n' stands) (by decide)

/-- A text without carriage returns that gives a single line when a line feed is put behind it has no
boundary: up to the boundary there would be one line, and another behind it. -/
theorem isSingleLine_of_displayLines {text line : Text} (absent : '\r' ∉ text)
    (single : displayLines (text ++ "\n") = [line]) : text.IsSingleLine := by
  intro c stands
  by_contra boundary
  rw [Bool.not_eq_false] at boundary
  obtain ⟨before, after, rfl⟩ := List.append_of_mem stands
  have plain : '\r' ∉ before ++ c :: after ++ "\n".toList := by simpa using absent
  rw [displayLines, unifyLineEnds_of_not_mem plain, List.append_assoc, List.cons_append,
    linesAt_append boundary] at single
  rcases List.append_eq_singleton_iff.mp single with ⟨nothing, -⟩ | ⟨-, nothing⟩
  · exact linesAt_ne_nil _ (List.append_ne_nil_of_right_ne_nil before (List.cons_ne_nil c [])) nothing
  · exact linesAt_ne_nil _ (List.append_ne_nil_of_right_ne_nil after (List.cons_ne_nil '\n' [])) nothing

theorem lines_flatMap {lines : List Text} (single : ∀ line ∈ lines, '\n' ∉ line) :
    Text.lines (lines.flatMap (· ++ "\n".toList)) = lines := by
  exact linesAt_flatMap (fun line listed => beq_newline_of_not_mem (single line listed)) rfl

theorem displayLines_flatMap {lines : List Text} (single : ∀ line ∈ lines, line.IsSingleLine) :
    displayLines (lines.flatMap (· ++ "\n".toList)) = lines := by
  have absent : '\r' ∉ lines.flatMap (· ++ "\n".toList) := by
    intro stands
    obtain ⟨line, listed, stands⟩ := List.mem_flatMap.mp stands
    rcases List.mem_append.mp stands with inside | ending
    · exact absurd (single line listed '\r' inside) (by decide)
    · exact absurd ending (by decide)
  rw [displayLines, unifyLineEnds_of_not_mem absent]
  exact linesAt_flatMap single rfl

end Xref.Text
