import Mathlib.Data.List.Infix
import Xref.Proofs.Listing.Identity

/-!
# References piece by piece

The closing brackets cut a line into pieces. A reference ends at the first closing bracket after its
opening one, so it lies within a piece and reaches to its end, and the search for the next one goes on
in the next piece. A piece therefore holds one reference at most: the one at its leftmost opening
bracket from which on the piece is a name, perhaps with an offset.
-/

namespace Xref.Listing

/-- The pieces of a line that a closing bracket ends, without it. What stands after the last closing
bracket is in none of them. -/
def closedPieces (line : Text) : List Text := (List.splitOn '>' line).dropLast

def isHexadecimal (text : Text) : Bool := !text.isEmpty && text.all Text.isHexDigit

def isOptionalOffset (tail : Text) : Bool :=
  tail.isEmpty || ["+".toList, "+0x".toList].any fun mark =>
    mark.isPrefixOf tail && isHexadecimal (tail.drop mark.length)

def nameIn? (inner : Text) : Option Symbol :=
  inner.inits.find? fun name =>
    !name.isEmpty && !name.contains '+' && isOptionalOffset (inner.drop name.length)

def openings : Text → List Text
  | [] => []
  | c :: rest => if c = '<' then rest :: openings rest else openings rest

/-- The name at the leftmost opening bracket that a name, perhaps with an offset, follows up to the
end of the piece. -/
def candidate? (piece : Text) : Option Symbol := (openings piece).findSome? nameIn?

/-! ## One opening bracket -/

def Reads (inner : Text) (name : Symbol) : Prop :=
  ∃ tail, inner = name ++ tail ∧ IsReferenceName name ∧ IsTail tail

section
variable {inner tail piece text : Text} {name : Symbol}

theorem isHexadecimal_marked (digits : Text) : isHexadecimal ('0' :: 'x' :: digits) = false := by
  have foreign : Text.isHexDigit 'x' = false := by decide
  simp [isHexadecimal, foreign]

theorem isOptionalOffset_plus (offset : Text) : isOptionalOffset ('+' :: offset) = isOffset offset := by
  have marks : isOptionalOffset ('+' :: offset) = (isHexadecimal offset ||
      (['0', 'x'].isPrefixOf offset && isHexadecimal (offset.drop 2))) := by simp [isOptionalOffset]
  rw [marks]
  unfold isOffset
  split
  · rename_i digits
    rw [isHexadecimal_marked, Bool.false_or]
    rfl
  · rename_i unmarked
    have plain : ['0', 'x'].isPrefixOf offset = false := by
      rw [Bool.eq_false_iff, ne_eq, List.isPrefixOf_iff_prefix]
      rintro ⟨digits, rfl⟩
      exact unmarked digits rfl
    rw [plain, Bool.false_and, Bool.or_false]
    rfl

theorem isOptionalOffset_iff : isOptionalOffset tail = true ↔ IsTail tail := by
  cases tail with
  | nil => simp [isOptionalOffset, IsTail]
  | cons c offset =>
      by_cases plus : c = '+'
      · subst plus
        rw [isOptionalOffset_plus]
        simp [IsTail]
      · simp [isOptionalOffset, IsTail, plus, Ne.symm plus]

theorem referenceHere?_closed (unclosed : '>' ∉ inner) (rest : Text) :
    referenceHere? (inner ++ '>' :: rest) = some name ↔ Reads inner name := by
  constructor
  · intro named
    have isName := isReferenceName_of_referenceHere? named
    by_cases plus : '+' ∈ inner
    · obtain ⟨first, offset, rfl, plain⟩ := List.eq_append_cons_of_mem plus
      rw [List.mem_append, List.mem_cons, not_or, not_or] at unclosed
      rw [List.append_assoc, List.cons_append, referenceHere?_plus unclosed.1 plain unclosed.2.2] at named
      obtain ⟨-, named⟩ := Option.ite_none_left_eq_some.mp named
      obtain ⟨shaped, named⟩ := Option.ite_none_right_eq_some.mp named
      cases named
      exact ⟨'+' :: offset, rfl, isName, .inr ⟨offset, rfl, shaped⟩⟩
    · rw [referenceHere?_closing unclosed plus] at named
      obtain ⟨-, named⟩ := Option.ite_none_left_eq_some.mp named
      cases named
      exact ⟨[], (List.append_nil inner).symm, isName, .inl rfl⟩
  · rintro ⟨tail, rfl, isName, ends⟩
    rw [List.append_assoc]
    exact referenceHere?_of_tail isName ends rest

theorem nameIn?_eq_some (unclosed : '>' ∉ inner) : nameIn? inner = some name ↔ Reads inner name := by
  have sound {name : Symbol} (named : nameIn? inner = some name) : Reads inner name := by
    have shaped := List.find?_some named
    obtain ⟨tail, rfl⟩ := (List.mem_inits _ _).mp (List.mem_of_find?_eq_some named)
    simp only [Bool.and_eq_true, List.drop_left, isOptionalOffset_iff] at shaped
    obtain ⟨⟨present, plain⟩, ends⟩ := shaped
    have closed : '>' ∉ name := fun stands => unclosed (List.mem_append_left tail stands)
    exact ⟨tail, rfl, ⟨by simpa using present, closed, by simpa using plain⟩, ends⟩
  refine ⟨sound, ?_⟩
  rintro ⟨tail, rfl, isName, ends⟩
  obtain ⟨other, named⟩ : ∃ other, nameIn? (name ++ tail) = some other := by
    rw [← Option.isSome_iff_exists, nameIn?, List.find?_isSome]
    refine ⟨name, (List.mem_inits _ _).mpr (List.prefix_append name tail), ?_⟩
    simp [isName.1, isName.2.2, isOptionalOffset_iff.mpr ends]
  have first := (referenceHere?_closed unclosed []).mpr (sound named)
  have second := (referenceHere?_closed unclosed []).mpr ⟨tail, rfl, isName, ends⟩
  rw [named, ← first, second]

theorem nameIn?_eq (unclosed : '>' ∉ inner) (rest : Text) :
    nameIn? inner = referenceHere? (inner ++ '>' :: rest) := by
  ext name
  rw [nameIn?_eq_some unclosed, referenceHere?_closed unclosed]

/-! ## One piece -/

theorem candidate?_opening (rest : Text) :
    candidate? ('<' :: rest) = (nameIn? rest).or (candidate? rest) := by
  rw [candidate?, openings, if_pos rfl, List.findSome?_cons]
  cases nameIn? rest <;> rfl

theorem candidate?_of_ne {c : Char} (other : c ≠ '<') (rest : Text) :
    candidate? (c :: rest) = candidate? rest := by
  rw [candidate?, openings, if_neg other, candidate?]

theorem referencesFrom_closed (unclosed : '>' ∉ piece) (rest : Text) :
    referencesFrom false (piece ++ '>' :: rest) =
      (candidate? piece).toList ++ referencesFrom false rest := by
  induction piece with
  | nil => rfl
  | cons c piece ih =>
      rw [List.mem_cons, not_or] at unclosed
      by_cases opens : c = '<'
      · subst opens
        rw [candidate?_opening, nameIn?_eq unclosed.2 rest]
        cases named : referenceHere? (piece ++ '>' :: rest) with
        | none => simpa [referencesFrom, named] using ih unclosed.2
        | some name =>
            -- The scanner goes on behind the closing bracket, past the rest of the piece.
            simpa [referencesFrom, named] using referencesFrom_inside unclosed.2 rest
      · rw [candidate?_of_ne opens]
        simpa [referencesFrom, opens] using ih unclosed.2

theorem closing_mem_of_referenceHere? (named : referenceHere? text = some name) : '>' ∈ text := by
  have rest := List.dropWhile_subset (fun c => c ≠ '>' && c ≠ '+') (l := text)
  simp only [referenceHere?] at named
  obtain ⟨-, named⟩ := Option.ite_none_left_eq_some.mp named
  split at named
  · rename_i dropped
    exact rest (dropped ▸ List.mem_cons_self)
  · rename_i offset dropped
    obtain ⟨closed, -⟩ := Option.ite_none_right_eq_some.mp named
    have stands : '>' ∈ offset := by simp_all
    exact rest (dropped ▸ List.mem_cons_of_mem '+' stands)
  · cases named

theorem referenceHere?_unclosed (unclosed : '>' ∉ text) : referenceHere? text = none := by
  rw [Option.eq_none_iff_forall_ne_some]
  exact fun name named => unclosed (closing_mem_of_referenceHere? named)

theorem referencesFrom_unclosed (unclosed : '>' ∉ text) : referencesFrom false text = [] := by
  induction text with
  | nil => rfl
  | cons c text ih =>
      rw [List.mem_cons, not_or] at unclosed
      simp [referencesFrom, referenceHere?_unclosed unclosed.2, ih unclosed.2]

/-! ## The pieces of a line -/

theorem splitOn_unclosed (unclosed : '>' ∉ text) : List.splitOn '>' text = [text] := by
  apply List.splitOnP_eq_singleton
  intro c stands
  rw [beq_eq_false_iff_ne]
  rintro rfl
  exact unclosed stands

theorem closedPieces_unclosed (unclosed : '>' ∉ text) : closedPieces text = [] := by
  rw [closedPieces, splitOn_unclosed unclosed]
  rfl

theorem closedPieces_closed (unclosed : '>' ∉ piece) (rest : Text) :
    closedPieces (piece ++ '>' :: rest) = piece :: closedPieces rest := by
  have cut : List.splitOn '>' (piece ++ '>' :: rest) = List.splitOn '>' piece ++ List.splitOn '>' rest :=
    List.splitOnP_append_cons _ _ rfl
  rw [closedPieces, cut, splitOn_unclosed unclosed]
  exact List.dropLast_cons_of_ne_nil (List.splitOn_ne_nil '>' rest)

end

theorem piece_induction {motive : Text → Prop} (unclosed : ∀ text, '>' ∉ text → motive text)
    (closed : ∀ piece rest, '>' ∉ piece → motive rest → motive (piece ++ '>' :: rest)) (line : Text) :
    motive line := by
  by_cases closing : '>' ∈ line
  · obtain ⟨piece, rest, cut, absent⟩ := List.eq_append_cons_of_mem closing
    have shorter : rest.length < line.length := by
      rw [cut, List.length_append, List.length_cons]
      omega
    rw [cut]
    exact closed piece rest absent (piece_induction unclosed closed rest)
  · exact unclosed line closing
termination_by line.length

theorem references_eq_candidates (line : Text) :
    references line = (closedPieces line).filterMap candidate? := by
  induction line using piece_induction with
  | unclosed text unclosed =>
      rw [closedPieces_unclosed unclosed]
      exact referencesFrom_unclosed unclosed
  | closed piece rest unclosed ih =>
      rw [closedPieces_closed unclosed, references, referencesFrom_closed unclosed, List.filterMap_cons,
        ← ih]
      cases candidate? piece <;> rfl

/-- A line refers to the first candidate of its pieces other than its owner. -/
theorem reference?_eq_first_candidate (line : Text) (owner : Symbol) :
    reference? line owner = ((closedPieces line).filterMap candidate?).find? (· ≠ owner) := by
  rw [reference?, references_eq_candidates]

example : (closedPieces "<a> <b+0x> <+c<d<e+0x1f> <f").map candidate? =
    [some "a".toList, none, some "d<e".toList] := by decide

end Xref.Listing
