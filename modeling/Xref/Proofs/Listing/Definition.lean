import Xref.Listing.Line
import Xref.Proofs.Text.ControlSequence

namespace Xref.Listing

@[ext]
structure DefinitionLine where
  address : Text
  gap : Text
  name : Symbol
  trailer : Text
  address_present : address ≠ []
  address_hexadecimal : ∀ c ∈ address, Text.isHexDigit c = true
  gap_present : gap ≠ []
  gap_blank : ∀ c ∈ gap, Text.isBlank c = true
  name_present : name ≠ []
  name_unclosed : '>' ∉ name
  trailer_blank : ∀ c ∈ trailer, Text.isBlank c = true

def DefinitionLine.text (parts : DefinitionLine) : Text :=
  parts.address ++ (parts.gap ++ '<' :: (parts.name ++ '>' :: ':' :: parts.trailer))

theorem isHexDigit_of_isBlank {c : Char} (blank : Text.isBlank c = true) :
    Text.isHexDigit c = false := by
  simp only [Text.isBlank, Bool.or_eq_true, Bool.and_eq_true, decide_eq_true_eq, beq_iff_eq] at blank
  have outside : c < '0' ∨ 'f' < c := by
    change c.toNat < 48 ∨ 102 < c.toNat
    omega
  rcases outside with below | above
  · have letter : c < 'a' := lt_trans below (by decide)
    have capital : c < 'A' := lt_trans below (by decide)
    simp [Text.isHexDigit, Text.isDigit, below.not_ge, letter.not_ge, capital.not_ge]
  · have digit : '9' < c := lt_trans (by decide) above
    have capital : 'F' < c := lt_trans (by decide) above
    simp [Text.isHexDigit, Text.isDigit, digit.not_ge, above.not_ge, capital.not_ge]

/-! ## The name in brackets -/

theorem takeWhile_dropWhile_until {mark : Char} {run rest : Text} (absent : mark ∉ run)
    (begins : ∀ c ∈ rest.head?, c = mark) :
    (run ++ rest).takeWhile (· ≠ mark) = run ∧ (run ++ rest).dropWhile (· ≠ mark) = rest := by
  apply Text.takeWhile_dropWhile_of_forall
  · intro c stands
    exact decide_eq_true fun same => absent (same ▸ stands)
  · intro c first
    simp [begins c first]

theorem takeWhile_dropWhile_unclosed {text : Text} (unclosed : '>' ∉ text) (rest : Text) :
    (text ++ '>' :: rest).takeWhile (· ≠ '>') = text ∧
      (text ++ '>' :: rest).dropWhile (· ≠ '>') = '>' :: rest :=
  takeWhile_dropWhile_until unclosed (by simp)

theorem definedName?_eq_some {text : Text} {name : Symbol} :
    definedName? text = some name ↔ ∃ trailer, text = '<' :: (name ++ '>' :: ':' :: trailer) ∧
      name ≠ [] ∧ '>' ∉ name ∧ ∀ c ∈ trailer, Text.isBlank c = true := by
  constructor
  · intro named
    unfold definedName? at named
    split at named
    · rename_i rest
      simp only at named
      split at named
      · rename_i trailer dropped
        obtain ⟨shaped, taken⟩ := Option.ite_none_right_eq_some.mp named
        obtain rfl := Option.some.inj taken
        refine ⟨trailer, ?_, by simp_all, ?_, by simp_all⟩
        · rw [← dropped, List.takeWhile_append_dropWhile]
        · intro closing
          simpa using List.mem_takeWhile_imp closing
      · cases named
    · cases named
  · rintro ⟨trailer, rfl, present, unclosed, blank⟩
    obtain ⟨taken, dropped⟩ := takeWhile_dropWhile_unclosed unclosed (':' :: trailer)
    simp only [definedName?, taken, dropped]
    simpa [present] using blank

/-! ## The whole line -/

namespace DefinitionLine
variable (parts : DefinitionLine)

theorem address_of_text :
    parts.text.takeWhile Text.isHexDigit = parts.address ∧
      parts.text.dropWhile Text.isHexDigit =
        parts.gap ++ '<' :: (parts.name ++ '>' :: ':' :: parts.trailer) := by
  apply Text.takeWhile_dropWhile_of_forall parts.address_hexadecimal
  intro c first
  obtain ⟨b, gap, begins⟩ := List.exists_cons_of_ne_nil parts.gap_present
  obtain rfl : b = c := by simpa [begins] using first
  exact isHexDigit_of_isBlank (parts.gap_blank b (begins ▸ List.mem_cons_self))

theorem gap_of_text (rest : Text) :
    (parts.gap ++ '<' :: rest).takeWhile Text.isBlank = parts.gap ∧
      (parts.gap ++ '<' :: rest).dropWhile Text.isBlank = '<' :: rest :=
  Text.takeWhile_dropWhile_of_forall parts.gap_blank (by simp [Text.isBlank])

theorem closing_not_mem_before : '>' ∉ parts.address ++ (parts.gap ++ '<' :: parts.name) := by
  have address : '>' ∉ parts.address :=
    fun stands => absurd (parts.address_hexadecimal '>' stands) (by decide)
  have gap : '>' ∉ parts.gap := fun stands => absurd (parts.gap_blank '>' stands) (by decide)
  simp [address, gap, parts.name_unclosed]

theorem closing_not_mem_trailer : '>' ∉ parts.trailer :=
  fun stands => absurd (parts.trailer_blank '>' stands) (by decide)

theorem definition?_text : definition? parts.text = some parts.name := by
  obtain ⟨address, afterAddress⟩ := parts.address_of_text
  obtain ⟨gap, afterGap⟩ := parts.gap_of_text (parts.name ++ '>' :: ':' :: parts.trailer)
  simp only [definition?, address, afterAddress, gap, afterGap]
  simp only [List.isEmpty_eq_false_iff.mpr parts.address_present,
    List.isEmpty_eq_false_iff.mpr parts.gap_present, Bool.not_false, Bool.and_self, if_true]
  exact definedName?_eq_some.mpr
    ⟨parts.trailer, rfl, parts.name_present, parts.name_unclosed, parts.trailer_blank⟩

theorem text_injective : Function.Injective DefinitionLine.text := by
  intro parts others same
  have address : parts.address = others.address := by
    rw [← parts.address_of_text.1, ← others.address_of_text.1, same]
  have name : parts.name = others.name :=
    Option.some.inj (by rw [← parts.definition?_text, ← others.definition?_text, same])
  have gap : parts.gap = others.gap := by
    have behind := parts.address_of_text.2
    rw [same, others.address_of_text.2] at behind
    rw [← (parts.gap_of_text _).1, ← (others.gap_of_text _).1, behind]
  have trailer : parts.trailer = others.trailer := by
    simpa [text, address, gap, name] using same
  exact DefinitionLine.ext address gap name trailer

end DefinitionLine

theorem exists_parts_of_definition? {line : Text} {name : Symbol} (defined : definition? line = some name) :
    ∃ parts : DefinitionLine, parts.text = line ∧ parts.name = name := by
  simp only [definition?] at defined
  obtain ⟨present, named⟩ := Option.ite_none_right_eq_some.mp defined
  obtain ⟨address, gap⟩ := Bool.and_eq_true_iff.mp present
  obtain ⟨trailer, rest, nonempty, unclosed, blank⟩ := definedName?_eq_some.mp named
  let parts : DefinitionLine := {
    address := line.takeWhile Text.isHexDigit
    gap := (line.dropWhile Text.isHexDigit).takeWhile Text.isBlank
    name := name
    trailer := trailer
    address_present := by simpa using address
    address_hexadecimal := fun c => List.mem_takeWhile_imp
    gap_present := by simpa using gap
    gap_blank := fun c => List.mem_takeWhile_imp
    name_present := nonempty
    name_unclosed := unclosed
    trailer_blank := blank }
  refine ⟨parts, ?_, rfl⟩
  calc
    parts.text = line.takeWhile Text.isHexDigit ++
        ((line.dropWhile Text.isHexDigit).takeWhile Text.isBlank ++
          (line.dropWhile Text.isHexDigit).dropWhile Text.isBlank) := by rw [rest]; rfl
    _ = line := by rw [List.takeWhile_append_dropWhile, List.takeWhile_append_dropWhile]

/-- A line defines the name of its parts, which the line determines, and nothing when it has none. -/
theorem definition?_reads_parts :
    (∀ line name, definition? line = some name ↔
      ∃ parts : DefinitionLine, parts.text = line ∧ parts.name = name) ∧
    Function.Injective DefinitionLine.text ∧
    ∀ line, definition? line = none ↔ ∀ parts : DefinitionLine, parts.text ≠ line := by
  have reads (line : Text) (name : Symbol) : definition? line = some name ↔
      ∃ parts : DefinitionLine, parts.text = line ∧ parts.name = name := by
    refine ⟨exists_parts_of_definition?, ?_⟩
    rintro ⟨parts, rfl, rfl⟩
    exact parts.definition?_text
  refine ⟨reads, DefinitionLine.text_injective, fun line => ?_⟩
  rw [Option.eq_none_iff_forall_ne_some]
  constructor
  · intro undefined parts same
    exact undefined parts.name ((reads line parts.name).mpr ⟨parts, same, rfl⟩)
  · intro shapeless name defined
    obtain ⟨parts, same, -⟩ := (reads line name).mp defined
    exact shapeless parts same

example : definition? "4F\u2003<a< +b>:\x0b\n" = some "a< +b".toList := by decide

end Xref.Listing
