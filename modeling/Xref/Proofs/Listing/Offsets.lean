import Xref.Graph.Basic
import Xref.Proofs.Listing.Candidates

/-!
# Offsets do not show

A listing without the offsets in its references is read as the same edges, and so as the same graph. The
removal takes the end of a piece away, after an opening bracket and a name. No bracket before that one
can gain a reference by it: what follows such a bracket either has no plus sign, then it was a name with
an offset already, or it has an opening bracket after a plus sign, which no offset has. And a line that
defines a symbol afterwards defined one before, with the offset as a part of its name.
-/

namespace Xref.Listing

inductive Region where
  | outside
  | name
  | offset

def eraseOffsetsFrom : Region → Text → Text
  | _, [] => []
  -- An opening bracket that no reference follows is a character like any other.
  | .outside, c :: rest =>
    c :: eraseOffsetsFrom (if c = '<' ∧ (referenceHere? rest).isSome then .name else .outside) rest
  | .name, c :: rest =>
    if c = '+' then eraseOffsetsFrom .offset rest
    else c :: eraseOffsetsFrom (if c = '>' then .outside else .name) rest
  | .offset, c :: rest =>
    if c = '>' then c :: eraseOffsetsFrom .outside rest else eraseOffsetsFrom .offset rest

def eraseOffsets (line : Text) : Text := eraseOffsetsFrom .outside line

def withoutOffsets (line : Text) : Text :=
  match definition? line with
  | some _ => line
  | none => eraseOffsets line

section
variable {before name offset piece plain tail text : Text}

/-! ## What is erased -/

theorem eraseOffsetsFrom_offset (unclosed : '>' ∉ offset) (rest : Text) :
    eraseOffsetsFrom .offset (offset ++ '>' :: rest) = '>' :: eraseOffsetsFrom .outside rest := by
  induction offset with
  | nil => simp [eraseOffsetsFrom]
  | cons c offset ih =>
      rw [List.mem_cons, not_or] at unclosed
      simpa [eraseOffsetsFrom, Ne.symm unclosed.1] using ih unclosed.2

theorem eraseOffsetsFrom_name (closed : '>' ∉ name) (plain : '+' ∉ name) (ends : IsTail tail)
    (rest : Text) : eraseOffsetsFrom .name (name ++ (tail ++ '>' :: rest)) =
      name ++ '>' :: eraseOffsetsFrom .outside rest := by
  induction name with
  | nil =>
      rcases ends with rfl | ⟨offset, rfl, shaped⟩
      · simp [eraseOffsetsFrom]
      · simpa [eraseOffsetsFrom] using eraseOffsetsFrom_offset (closing_not_mem_offset shaped) rest
  | cons c name ih =>
      rw [List.mem_cons, not_or] at closed plain
      simpa [eraseOffsetsFrom, Ne.symm closed.1, Ne.symm plain.1] using ih closed.2 plain.2

inductive Trimmed : Text → Text → Prop where
  | same {piece : Text} (unnamed : candidate? piece = none) : Trimmed piece piece
  | offset (before : Text) {name tail : Text} (isName : IsReferenceName name) (ends : IsTail tail)
      (named : candidate? (before ++ '<' :: (name ++ tail)) = some name) :
      Trimmed (before ++ '<' :: (name ++ tail)) (before ++ '<' :: name)

theorem Trimmed.cons (trimmed : Trimmed piece plain) {c : Char}
    (skipped : candidate? (c :: piece) = candidate? piece) : Trimmed (c :: piece) (c :: plain) := by
  cases trimmed with
  | same unnamed => exact .same (skipped.trans unnamed)
  | offset before isName ends named => exact .offset (c :: before) isName ends (skipped.trans named)

theorem candidate?_skip {c : Char} (unclosed : '>' ∉ piece) (rest : Text)
    (skipped : ¬ (c = '<' ∧ (referenceHere? (piece ++ '>' :: rest)).isSome)) :
    candidate? (c :: piece) = candidate? piece := by
  by_cases opens : c = '<'
  · subst opens
    have unnamed : nameIn? piece = none := by
      rw [nameIn?_eq unclosed rest]
      simpa using skipped
    rw [candidate?_opening, unnamed, Option.none_or]
  · exact candidate?_of_ne opens piece

theorem eraseOffsetsFrom_closed (unclosed : '>' ∉ piece) (rest : Text) :
    ∃ plain, Trimmed piece plain ∧ eraseOffsetsFrom .outside (piece ++ '>' :: rest) =
      plain ++ '>' :: eraseOffsetsFrom .outside rest := by
  induction piece with
  | nil => exact ⟨[], .same rfl, by simp [eraseOffsetsFrom]⟩
  | cons c piece ih =>
      rw [List.mem_cons, not_or] at unclosed
      by_cases refers : c = '<' ∧ (referenceHere? (piece ++ '>' :: rest)).isSome
      · obtain ⟨rfl, found⟩ := refers
        obtain ⟨name, named⟩ := Option.isSome_iff_exists.mp found
        have first : candidate? ('<' :: piece) = some name := by
          rw [candidate?_opening, nameIn?_eq unclosed.2 rest, named, Option.some_or]
        obtain ⟨tail, rfl, isName, ends⟩ := (referenceHere?_closed unclosed.2 rest).mp named
        refine ⟨'<' :: name, .offset [] isName ends first, ?_⟩
        rw [List.cons_append, eraseOffsetsFrom, if_pos ⟨rfl, found⟩, List.append_assoc,
          eraseOffsetsFrom_name isName.2.1 isName.2.2 ends rest]
        rfl
      · obtain ⟨plain, trimmed, erased⟩ := ih unclosed.2
        refine ⟨c :: plain, trimmed.cons (candidate?_skip unclosed.2 rest refers), ?_⟩
        rw [List.cons_append, eraseOffsetsFrom, if_neg refers, erased]
        rfl

theorem eraseOffsets_closed (unclosed : '>' ∉ piece) (rest : Text) :
    ∃ plain, Trimmed piece plain ∧ eraseOffsets (piece ++ '>' :: rest) = plain ++ '>' :: eraseOffsets rest :=
  eraseOffsetsFrom_closed unclosed rest

theorem eraseOffsets_unclosed (unclosed : '>' ∉ text) : eraseOffsets text = text := by
  unfold eraseOffsets
  induction text with
  | nil => rfl
  | cons c text ih =>
      rw [List.mem_cons, not_or] at unclosed
      simp [eraseOffsetsFrom, referenceHere?_unclosed unclosed.2, ih unclosed.2]

theorem Trimmed.unclosed (trimmed : Trimmed piece plain) (unclosed : '>' ∉ piece) : '>' ∉ plain := by
  cases trimmed with
  | same => exact unclosed
  | offset => simp_all

/-! ## References -/

theorem eq_of_append_eq {mark : Char} {first second more others : Text} (absent : mark ∉ first)
    (lacking : mark ∉ second) (begins : ∀ c ∈ more.head?, c = mark) (opens : ∀ c ∈ others.head?, c = mark)
    (same : first ++ more = second ++ others) : first = second ∧ more = others := by
  obtain ⟨taken, dropped⟩ := takeWhile_dropWhile_until absent begins
  obtain ⟨taken', dropped'⟩ := takeWhile_dropWhile_until lacking opens
  rw [same] at taken dropped
  exact ⟨taken.symm.trans taken', dropped.symm.trans dropped'⟩

theorem IsTail.head?_eq (ends : IsTail tail) : ∀ c ∈ tail.head?, c = '+' := by
  rcases ends with rfl | ⟨offset, rfl, -⟩ <;> simp

theorem reads_of_plain (plain : '+' ∉ text) (ends : IsTail tail) (found : Symbol) :
    Reads (text ++ tail) found ↔ found = text ∧ IsReferenceName text := by
  constructor
  · rintro ⟨other, same, isName, ends'⟩
    obtain ⟨rfl, -⟩ := eq_of_append_eq plain isName.2.2 ends.head?_eq ends'.head?_eq same
    exact ⟨rfl, isName⟩
  · rintro ⟨rfl, isName⟩
    exact ⟨tail, rfl, isName, ends⟩

theorem not_reads_of_plus (plain : '+' ∉ before) (opening : '<' ∈ text) :
    ¬ Reads (before ++ '+' :: text) name := by
  rintro ⟨tail, same, isName, ends⟩
  obtain ⟨-, rfl⟩ := eq_of_append_eq plain isName.2.2 (by simp) ends.head?_eq same
  obtain ⟨offset, shape, shaped⟩ := ends.resolve_left (by simp)
  obtain rfl : text = offset := by simpa using shape
  exact absurd (mem_offset shaped opening) (by decide)

theorem reads_trim (plain : '+' ∉ name) (ends : IsTail tail) (before : Text) (found : Symbol) :
    Reads (before ++ '<' :: name) found ↔ Reads (before ++ '<' :: (name ++ tail)) found := by
  by_cases plus : '+' ∈ before
  -- The opening bracket stands behind a plus sign, so neither text is a name with an offset.
  · obtain ⟨first, later, rfl, absent⟩ := List.eq_append_cons_of_mem plus
    have opens (inner : Text) : ¬ Reads (first ++ '+' :: later ++ '<' :: inner) found := by
      rw [List.append_assoc]
      exact not_reads_of_plus absent (by simp)
    exact iff_of_false (opens _) (opens _)
  -- The first plus sign, if there is one, begins the offset that goes.
  · have whole : '+' ∉ before ++ '<' :: name := by simp [plus, plain]
    have trimmed := reads_of_plain whole (.inl rfl) found
    have untrimmed := reads_of_plain whole ends found
    simp only [List.append_nil, List.append_assoc, List.cons_append] at trimmed untrimmed
    rw [trimmed, untrimmed]

theorem candidate?_trim (isName : IsReferenceName name) (ends : IsTail tail) (unclosed : '>' ∉ before) :
    candidate? (before ++ '<' :: name) = candidate? (before ++ '<' :: (name ++ tail)) := by
  have closed : '>' ∉ name ++ tail := List.not_mem_append isName.2.1 ends.closing_not_mem
  induction before with
  | nil =>
      have trimmed := (nameIn?_eq_some isName.2.1).mpr ⟨[], (List.append_nil name).symm, isName, .inl rfl⟩
      have untrimmed := (nameIn?_eq_some closed).mpr ⟨tail, rfl, isName, ends⟩
      simp only [List.nil_append, candidate?_opening, trimmed, untrimmed, Option.some_or]
  | cons c before ih =>
      rw [List.mem_cons, not_or] at unclosed
      have later := ih unclosed.2
      by_cases opens : c = '<'
      · subst opens
        have same : nameIn? (before ++ '<' :: name) = nameIn? (before ++ '<' :: (name ++ tail)) := by
          ext found
          rw [nameIn?_eq_some (by simp [unclosed.2, isName.2.1]), nameIn?_eq_some (by simp_all)]
          exact reads_trim isName.2.2 ends before found
        simp only [List.cons_append, candidate?_opening, same, later]
      · simp only [List.cons_append, candidate?_of_ne opens, later]

theorem Trimmed.candidate?_eq (trimmed : Trimmed piece plain) (unclosed : '>' ∉ piece) :
    candidate? plain = candidate? piece := by
  cases trimmed with
  | same => rfl
  | offset before isName ends =>
      exact candidate?_trim isName ends fun stands => unclosed (List.mem_append_left _ stands)

theorem Trimmed.plain_suffix (trimmed : Trimmed piece plain) (unclosed : '>' ∉ piece)
    (named : candidate? plain = some name) : '<' :: name <:+ plain := by
  rw [trimmed.candidate?_eq unclosed] at named
  cases trimmed with
  | same unnamed => simp [unnamed] at named
  | offset before _ _ first =>
      obtain rfl := Option.some.inj (first.symm.trans named)
      exact List.suffix_append before _

theorem references_eraseOffsets (line : Text) : references (eraseOffsets line) = references line := by
  induction line using piece_induction with
  | unclosed text unclosed => rw [eraseOffsets_unclosed unclosed]
  | closed piece rest unclosed ih =>
      obtain ⟨plain, trimmed, erased⟩ := eraseOffsets_closed unclosed rest
      have still := trimmed.unclosed unclosed
      unfold references at ih ⊢
      rw [erased, referencesFrom_closed still, referencesFrom_closed unclosed,
        trimmed.candidate?_eq unclosed, ih]

theorem suffix_of_candidate? {line : Text} :
    ∀ piece ∈ closedPieces (eraseOffsets line), ∀ name, candidate? piece = some name →
      '<' :: name <:+ piece := by
  induction line using piece_induction with
  | unclosed text unclosed =>
      rw [eraseOffsets_unclosed unclosed, closedPieces_unclosed unclosed]
      exact fun piece listed => absurd listed List.not_mem_nil
  | closed piece rest unclosed ih =>
      obtain ⟨plain, trimmed, erased⟩ := eraseOffsets_closed unclosed rest
      rw [erased, closedPieces_closed (trimmed.unclosed unclosed)]
      exact List.forall_mem_cons.mpr ⟨fun name named => trimmed.plain_suffix unclosed named, ih⟩

/-! ## Definitions -/

theorem closing_mem_eraseOffsets (closing : '>' ∈ text) : '>' ∈ eraseOffsets text := by
  obtain ⟨piece, rest, rfl, absent⟩ := List.eq_append_cons_of_mem closing
  obtain ⟨plain, -, erased⟩ := eraseOffsets_closed absent rest
  rw [erased]
  simp

theorem Trimmed.exists_tail (trimmed : Trimmed piece plain) : ∃ tail, piece = plain ++ tail := by
  cases trimmed with
  | same => exact ⟨[], (List.append_nil piece).symm⟩
  | @offset before name tail isName ends => exact ⟨tail, by simp⟩

theorem definition?_of_longer (parts : DefinitionLine) (unclosed : '>' ∉ tail) :
    definition? (parts.address ++ (parts.gap ++ '<' :: parts.name) ++ tail ++
      '>' :: ':' :: parts.trailer) = some (parts.name ++ tail) := by
  let longer : DefinitionLine := { parts with
    name := parts.name ++ tail
    name_present := List.append_ne_nil_of_left_ne_nil parts.name_present tail
    name_unclosed := List.not_mem_append parts.name_unclosed unclosed }
  have defined := longer.definition?_text
  simpa [DefinitionLine.text, longer] using defined

theorem definition?_eraseOffsets {line : Text} (undefined : definition? line = none) :
    definition? (eraseOffsets line) = none := by
  by_cases closing : '>' ∈ line
  · obtain ⟨piece, rest, rfl, absent⟩ := List.eq_append_cons_of_mem closing
    obtain ⟨plain, trimmed, erased⟩ := eraseOffsets_closed absent rest
    have still := trimmed.unclosed absent
    obtain ⟨tail, rfl⟩ := trimmed.exists_tail
    have ending : '>' ∉ tail := fun stands => absent (List.mem_append_right plain stands)
    rw [Option.eq_none_iff_forall_ne_some]
    intro name defined
    -- A definition has one closing bracket, so the first piece of the line reaches up to it.
    obtain ⟨parts, same, -⟩ := exists_parts_of_definition? defined
    have cut : (parts.address ++ (parts.gap ++ '<' :: parts.name)) ++ '>' :: ':' :: parts.trailer =
        plain ++ '>' :: eraseOffsets rest := by
      rw [← erased, ← same]
      simp [DefinitionLine.text]
    obtain ⟨rfl, behind⟩ :=
      eq_of_append_eq parts.closing_not_mem_before still (by simp) (by simp) cut
    have colon : ':' :: parts.trailer = eraseOffsets rest := List.tail_eq_of_cons_eq behind
    have last : '>' ∉ rest := by
      intro stands
      have remains := closing_mem_eraseOffsets stands
      rw [← colon] at remains
      exact parts.closing_not_mem_trailer (List.mem_of_ne_of_mem (by decide) remains)
    rw [eraseOffsets_unclosed last] at colon
    have longer := definition?_of_longer parts ending
    rw [colon, undefined] at longer
    cases longer
  · rwa [eraseOffsets_unclosed closing]

end

theorem readLine_withoutOffsets (owner : Symbol) (line : Text) :
    readLine owner (withoutOffsets line) = readLine owner line := by
  unfold withoutOffsets
  cases defined : definition? line with
  | some name => rfl
  | none =>
      simp only [readLine, definition?_eraseOffsets defined, defined, reference?, references_eraseOffsets]

theorem locatedFrom_withoutOffsets (owner : Symbol) (consumed : Nat) (lines : List Text) :
    locatedFrom owner consumed (lines.map withoutOffsets) = locatedFrom owner consumed lines := by
  induction lines generalizing owner consumed with
  | nil => rfl
  | cons line lines ih => simp only [List.map_cons, locatedFrom, readLine_withoutOffsets, ih]

/-- Without the offsets in its references, of which then none has one, a line that is no definition stays
none and refers to the same symbols. So the listing has the same edges, which come out at the same lines,
and the same graph. -/
theorem offsets_are_invisible (lines : List Text) :
    (∀ line ∈ lines, definition? line = none →
      (∀ piece ∈ closedPieces (eraseOffsets line), ∀ name, candidate? piece = some name →
        '<' :: name <:+ piece) ∧
      definition? (eraseOffsets line) = none ∧
      ∀ owner, reference? (eraseOffsets line) owner = reference? line owner) ∧
    located (lines.map withoutOffsets) = located lines ∧
    Graph.ofListing (lines.map withoutOffsets) = Graph.ofListing lines := by
  have edges : located (lines.map withoutOffsets) = located lines :=
    locatedFrom_withoutOffsets Symbol.nameless 0 lines
  refine ⟨?_, edges, ?_⟩
  · intro line _ undefined
    refine ⟨suffix_of_candidate?, definition?_eraseOffsets undefined, fun owner => ?_⟩
    rw [reference?, references_eraseOffsets, reference?]
  · rw [Graph.ofListing, Listing.edges, edges]
    rfl

/-- A self reference, a broken offset before a reference, and an offset that is broken off. -/
theorem offsets_are_invisible_nested :
    let line : Text := "jmp <f+0x8> <a+<b<c+1f> <d+0x>"
    definition? line = none ∧ eraseOffsets line = "jmp <f> <a+<b<c> <d+0x>".toList ∧
      (∀ owner, reference? "jmp <f> <a+<b<c> <d+0x>" owner = reference? line owner) ∧
      located ["0 <f+1>:", "jmp <f> <a+<b<c> <d+0x>"] = located ["0 <f+1>:", line] := by
  intro line
  have undefined : definition? line = none := by decide
  have erased : eraseOffsets line = "jmp <f> <a+<b<c> <d+0x>".toList := by decide
  have mapped : ["0 <f+1>:".toList, line].map withoutOffsets =
      ["0 <f+1>:".toList, "jmp <f> <a+<b<c> <d+0x>".toList] := by decide
  obtain ⟨each, edges, -⟩ := offsets_are_invisible ["0 <f+1>:", line]
  refine ⟨undefined, erased, ?_, ?_⟩
  · rw [← erased]
    exact (each line (by simp) undefined).2.2
  · rw [← mapped]
    exact edges

end Xref.Listing
