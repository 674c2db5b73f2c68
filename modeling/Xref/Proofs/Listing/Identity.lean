import Xref.Proofs.Listing.Ownership

namespace Xref.Listing

/-- Every line with a single reference to the symbol, plain or at an offset, refers to the symbol, or
to nothing when the symbol owns the line. -/
def FoundByReferences (s : Symbol) : Prop :=
  ∀ before digits : Text, '<' ∉ before → '>' ∉ before →
    digits ≠ [] → (∀ c ∈ digits, Text.isHexDigit c = true) →
    ∀ line ∈ [before ++ "<" ++ s ++ ">", before ++ "<" ++ s ++ "+0x" ++ digits ++ ">"],
      (∀ owner, owner ≠ s → reference? line owner = some s) ∧ reference? line s = none

theorem nonempty_closed_of_definition? {line : Text} {s : Symbol} (defined : definition? line = some s) :
    s ≠ [] ∧ '>' ∉ s := by
  obtain ⟨parts, -, rfl⟩ := exists_parts_of_definition? defined
  exact ⟨parts.name_present, parts.name_unclosed⟩

/-! ## One reference on a line -/

def IsTail (tail : Text) : Prop := tail = [] ∨ ∃ offset, tail = '+' :: offset ∧ isOffset offset = true

section
variable {s : Symbol} {before tail digits : Text}

theorem isOffset_hexadecimal (present : digits ≠ [])
    (hexadecimal : ∀ c ∈ digits, Text.isHexDigit c = true) : isOffset ("0x".toList ++ digits) = true := by
  simpa [isOffset, present] using hexadecimal

theorem mem_offset {offset : Text} (shaped : isOffset offset = true) {c : Char} (stands : c ∈ offset) :
    Text.isHexDigit c = true ∨ c = 'x' := by
  have zero : Text.isHexDigit '0' = true := by decide
  unfold isOffset at shaped
  grind

theorem closing_not_mem_offset {offset : Text} (shaped : isOffset offset = true) : '>' ∉ offset :=
  fun stands => absurd (mem_offset shaped stands) (by decide)

theorem IsTail.closing_not_mem (ends : IsTail tail) : '>' ∉ tail := by
  rcases ends with rfl | ⟨offset, rfl, shaped⟩
  · exact List.not_mem_nil
  · exact List.not_mem_cons_of_ne_of_not_mem (by decide) (closing_not_mem_offset shaped)

theorem takeWhile_dropWhile_name (closed : '>' ∉ s) (plain : '+' ∉ s) (rest : Text)
    (stops : ∀ c ∈ rest.head?, (c ≠ '>' && c ≠ '+') = false) :
    (s ++ rest).takeWhile (fun c => c ≠ '>' && c ≠ '+') = s ∧
      (s ++ rest).dropWhile (fun c => c ≠ '>' && c ≠ '+') = rest := by
  refine Text.takeWhile_dropWhile_of_forall ?_ stops
  intro c stands
  have other : c ≠ '>' := fun same => closed (same ▸ stands)
  have further : c ≠ '+' := fun same => plain (same ▸ stands)
  simp [other, further]

theorem referenceHere?_closing (closed : '>' ∉ s) (plain : '+' ∉ s) (rest : Text) :
    referenceHere? (s ++ '>' :: rest) = if s.isEmpty then none else some s := by
  obtain ⟨taken, dropped⟩ := takeWhile_dropWhile_name closed plain ('>' :: rest) (by simp)
  simp only [referenceHere?, taken, dropped]

theorem referenceHere?_plus (closed : '>' ∉ s) (plain : '+' ∉ s) {offset : Text}
    (unclosed : '>' ∉ offset) (rest : Text) :
    referenceHere? (s ++ '+' :: (offset ++ '>' :: rest)) =
      if s.isEmpty then none else if isOffset offset then some s else none := by
  obtain ⟨taken, dropped⟩ := takeWhile_dropWhile_name closed plain
    ('+' :: (offset ++ '>' :: rest)) (by simp)
  have whole := (takeWhile_dropWhile_unclosed unclosed rest).1
  simp only [referenceHere?, taken, dropped, whole]
  simp

theorem referenceHere?_of_tail (name : IsReferenceName s) (ends : IsTail tail) (rest : Text) :
    referenceHere? (s ++ (tail ++ '>' :: rest)) = some s := by
  obtain ⟨present, closed, plain⟩ := name
  have begun : s.isEmpty = false := List.isEmpty_eq_false_iff.mpr present
  rcases ends with rfl | ⟨offset, rfl, shaped⟩
  · rw [List.nil_append, referenceHere?_closing closed plain, begun]
    rfl
  · rw [List.cons_append, referenceHere?_plus closed plain (closing_not_mem_offset shaped), begun, shaped]
    rfl

theorem referencesFrom_inside {text : Text} (unclosed : '>' ∉ text) (rest : Text) :
    referencesFrom true (text ++ '>' :: rest) = referencesFrom false rest := by
  induction text with
  | nil => simp [referencesFrom]
  | cons c text ih =>
      rw [List.mem_cons, not_or] at unclosed
      simp [referencesFrom, Ne.symm unclosed.1, ih unclosed.2]

theorem referencesFrom_outside (unopened : '<' ∉ before) (rest : Text) :
    referencesFrom false (before ++ rest) = referencesFrom false rest := by
  induction before with
  | nil => rfl
  | cons c before ih =>
      rw [List.mem_cons, not_or] at unopened
      simp [referencesFrom, Ne.symm unopened.1, ih unopened.2]

theorem references_single (name : IsReferenceName s) (unopened : '<' ∉ before) (ends : IsTail tail) :
    references (before ++ '<' :: (s ++ (tail ++ ['>']))) = [s] := by
  have unclosed : '>' ∉ s ++ tail := List.not_mem_append name.2.1 ends.closing_not_mem
  calc
    references (before ++ '<' :: (s ++ (tail ++ ['>']))) =
        referencesFrom false ('<' :: (s ++ (tail ++ ['>']))) := referencesFrom_outside unopened _
    _ = s :: referencesFrom true (s ++ (tail ++ ['>'])) := by
      simp [referencesFrom, referenceHere?_of_tail name ends]
    _ = s :: referencesFrom false [] := by
      rw [← List.append_assoc, referencesFrom_inside unclosed]
    _ = [s] := rfl

theorem reference?_single (name : IsReferenceName s) (unopened : '<' ∉ before) (ends : IsTail tail) :
    (∀ owner, owner ≠ s → reference? (before ++ '<' :: (s ++ (tail ++ ['>']))) owner = some s) ∧
      reference? (before ++ '<' :: (s ++ (tail ++ ['>']))) s = none := by
  unfold reference?
  rw [references_single name unopened ends]
  refine ⟨?_, by simp⟩
  intro owner other
  simp [other.symm]

end

theorem foundByReferences {s : Symbol} (name : IsReferenceName s) : FoundByReferences s := by
  intro before digits unopened _ present hexadecimal
  have plain : IsTail [] := .inl rfl
  have offset : IsTail ('+' :: ("0x".toList ++ digits)) :=
    .inr ⟨_, rfl, isOffset_hexadecimal present hexadecimal⟩
  rw [List.forall_mem_cons, List.forall_mem_singleton]
  constructor
  · have found := reference?_single name unopened plain
    simpa using found
  · have found := reference?_single name unopened offset
    simpa using found

theorem reference?_ne_of_plus {s : Symbol} (plus : '+' ∈ s) (text owner : Text) :
    reference? text owner ≠ some s := by
  intro refers
  exact (reference?_eq_some refers).2.2.2 plus

theorem not_foundByReferences {s : Symbol} (plus : '+' ∈ s) : ¬ FoundByReferences s := by
  intro found
  have zero : ∀ c ∈ ['0'], Text.isHexDigit c = true := List.forall_mem_singleton.mpr (by decide)
  obtain ⟨refers, -⟩ := found [] ['0'] (by decide) (by decide) (by decide) zero _ List.mem_cons_self
  exact reference?_ne_of_plus plus _ [] (refers [] (List.ne_nil_of_mem plus).symm)

/-- A defined name is found by the references to it exactly when it has no plus sign. -/
theorem defined_name_found_iff {line : Text} {s : Symbol} (defined : definition? line = some s) :
    (FoundByReferences s ↔ '+' ∉ s) ∧ ('+' ∈ s → ∀ text owner, reference? text owner ≠ some s) := by
  obtain ⟨present, closed⟩ := nonempty_closed_of_definition? defined
  refine ⟨⟨?_, fun plain => foundByReferences ⟨present, closed, plain⟩⟩, reference?_ne_of_plus⟩
  intro found plus
  exact not_foundByReferences plus found

theorem defined_name_found_bracket :
    definition? "0 <a<b>:" = some "a<b".toList ∧ FoundByReferences "a<b" := by
  have defined : definition? "0 <a<b>:" = some "a<b".toList := by decide
  exact ⟨defined, (defined_name_found_iff defined).1.mpr (by decide)⟩

theorem plus_read_as_offset :
    definition? "0 <helper+1f>:" = some "helper+1f".toList ∧
      reference? "jmp 1030 <helper+1f>" "main" = some "helper".toList ∧
      ¬ FoundByReferences "helper+1f" := by
  exact ⟨by decide, by decide, not_foundByReferences (by decide)⟩

end Xref.Listing
