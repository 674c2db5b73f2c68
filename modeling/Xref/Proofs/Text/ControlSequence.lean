import Mathlib.Data.Char
import Mathlib.Data.List.TakeWhile
import Mathlib.Tactic.Common
import Xref.Text.ControlSequence

/-!
# What the removal of control sequences leaves

A text that is put together from two parts loses the control sequences of each part, and perhaps one
more that begins in the first part and ends in the second. No sequence goes on over an escape
character, and none ends in a colon. One that a label leaves open ends in the bracket after it.
-/

namespace Xref.Text

/-! ## Control sequences -/

def isParameter (c : Char) : Bool := '0' ≤ c && c ≤ '?'

def isIntermediate (c : Char) : Bool := ' ' ≤ c && c ≤ '/'

def isFinal (c : Char) : Bool := '@' ≤ c && c ≤ '~'

/-- A control sequence without its escape character and without its end. -/
def IsOpening (text : Text) : Prop :=
  ∃ parameters intermediates, text = '[' :: (parameters ++ intermediates) ∧
    (∀ c ∈ parameters, isParameter c = true) ∧ ∀ c ∈ intermediates, isIntermediate c = true

def IsSequence (text : Text) : Prop :=
  ∃ opening last, text = opening ++ [last] ∧ IsOpening opening ∧ isFinal last = true

section
variable {c : Char} {opening sequence text rest : Text}

theorem isParameter_of_isIntermediate (inside : isIntermediate c = true) : isParameter c = false := by
  simp only [isIntermediate, Bool.and_eq_true, decide_eq_true_eq] at inside
  have below : c < '0' := lt_of_le_of_lt inside.2 (by decide)
  simp [isParameter, below.not_ge]

theorem not_isFinal (within : isParameter c = true ∨ isIntermediate c = true) : isFinal c = false := by
  simp only [isParameter, isIntermediate, Bool.and_eq_true, decide_eq_true_eq] at within
  have below : c < '@' := by
    rcases within with ⟨-, parameter⟩ | ⟨-, intermediate⟩
    · exact lt_of_le_of_lt parameter (by decide)
    · exact lt_of_le_of_lt intermediate (by decide)
  simp [isFinal, below.not_ge]

theorem IsOpening.mem (opens : IsOpening opening) (stands : c ∈ opening) :
    c = '[' ∨ isParameter c = true ∨ isIntermediate c = true := by
  obtain ⟨parameters, intermediates, rfl, parameter, intermediate⟩ := opens
  rcases List.mem_cons.mp stands with bracket | inside
  · exact .inl bracket
  · exact .inr ((List.mem_append.mp inside).imp (parameter c) (intermediate c))

theorem IsSequence.escape_not_mem (complete : IsSequence sequence) : '\x1b' ∉ sequence := by
  obtain ⟨opening, last, rfl, opens, final⟩ := complete
  intro stands
  rcases List.mem_append.mp stands with inside | ends
  · exact absurd (opens.mem inside) (by decide)
  · rw [← List.mem_singleton.mp ends] at final
    exact absurd final (by decide)

theorem IsOpening.append (opens : IsOpening opening) (intermediate : isIntermediate c = true) :
    IsOpening (opening ++ [c]) := by
  obtain ⟨parameters, intermediates, rfl, first, second⟩ := opens
  refine ⟨parameters, intermediates ++ [c], by simp, first, ?_⟩
  exact List.forall_mem_append.mpr ⟨second, List.forall_mem_singleton.mpr intermediate⟩

theorem IsOpening.of_prefix (opens : IsOpening opening) (begins : text <+: opening) :
    text = [] ∨ IsOpening text := by
  obtain ⟨parameters, intermediates, rfl, first, second⟩ := opens
  rcases List.prefix_cons_iff.mp begins with empty | ⟨inner, rfl, within⟩
  · exact .inl empty
  · refine .inr ?_
    rcases List.prefix_or_prefix_of_prefix within (List.prefix_append parameters intermediates) with
      short | ⟨more, rfl⟩
    · exact ⟨inner, [], by simp, fun c stands => first c (short.subset stands), by simp⟩
    · have later : more <+: intermediates := (List.prefix_append_right_inj parameters).mp within
      exact ⟨parameters, more, rfl, first, fun c stands => second c (later.subset stands)⟩

theorem takeWhile_dropWhile_of_forall {p : Char → Bool} (all : ∀ c ∈ text, p c = true)
    (ends : ∀ c ∈ rest.head?, p c = false) :
    (text ++ rest).takeWhile p = text ∧ (text ++ rest).dropWhile p = rest := by
  have stops : rest.takeWhile p = [] ∧ rest.dropWhile p = rest := by
    cases rest with
    | nil => exact ⟨rfl, rfl⟩
    | cons c rest => simp [ends c rfl]
  rw [List.takeWhile_append_of_pos all, List.dropWhile_append_of_pos all, stops.1, stops.2,
    List.append_nil]
  exact ⟨rfl, rfl⟩

theorem sequenceLength?_bracket (text : Text) : sequenceLength? ('[' :: text) =
    match (text.dropWhile isParameter).dropWhile isIntermediate with
    | last :: _ =>
      if '@' ≤ last ∧ last ≤ '~' then
        some ((text.takeWhile isParameter).length +
          ((text.dropWhile isParameter).takeWhile isIntermediate).length + 2)
      else none
    | [] => none := rfl

theorem sequenceLength?_append (complete : IsSequence sequence) (rest : Text) :
    sequenceLength? (sequence ++ rest) = some sequence.length := by
  obtain ⟨_, last, rfl, ⟨parameters, intermediates, rfl, first, second⟩, final⟩ := complete
  have afterSecond : ∀ c ∈ (last :: rest).head?, isIntermediate c = false := by
    intro c head
    cases head
    by_contra inside
    simp [not_isFinal (.inr ((Bool.not_eq_false _).mp inside))] at final
  have afterFirst : ∀ c ∈ (intermediates ++ last :: rest).head?, isParameter c = false := by
    intro c head
    cases intermediates with
    | nil =>
        cases head
        by_contra inside
        simp [not_isFinal (.inl ((Bool.not_eq_false _).mp inside))] at final
    | cons i intermediates =>
        cases head
        exact isParameter_of_isIntermediate (second c List.mem_cons_self)
  obtain ⟨taken, dropped⟩ := takeWhile_dropWhile_of_forall first afterFirst
  obtain ⟨taken', dropped'⟩ := takeWhile_dropWhile_of_forall second afterSecond
  have shape : '[' :: (parameters ++ intermediates) ++ [last] ++ rest =
      '[' :: (parameters ++ (intermediates ++ last :: rest)) := by simp
  rw [shape, sequenceLength?_bracket, taken, dropped, taken', dropped']
  simp only [isFinal, Bool.and_eq_true, decide_eq_true_eq] at final
  simp only [final, and_self, if_true, List.length_append, List.length_cons, List.length_nil]

theorem isSequence_of_sequenceLength? {length : Nat} (found : sequenceLength? text = some length) :
    ∃ sequence rest, text = sequence ++ rest ∧ IsSequence sequence ∧ sequence.length = length := by
  obtain ⟨text, rfl⟩ : ∃ inner, text = '[' :: inner := by
    unfold sequenceLength? at found
    split at found
    · exact ⟨_, rfl⟩
    · cases found
  rw [sequenceLength?_bracket] at found
  split at found
  · rename_i last rest ends
    split_ifs at found with final
    cases found
    refine ⟨'[' :: (text.takeWhile isParameter ++
      (text.dropWhile isParameter).takeWhile isIntermediate) ++ [last], rest, ?_, ?_, ?_⟩
    · calc
        '[' :: text = '[' :: (text.takeWhile isParameter ++ text.dropWhile isParameter) := by
          rw [List.takeWhile_append_dropWhile]
        _ = '[' :: (text.takeWhile isParameter ++
              ((text.dropWhile isParameter).takeWhile isIntermediate ++ last :: rest)) := by
          rw [← ends, List.takeWhile_append_dropWhile, List.takeWhile_append_dropWhile,
            List.takeWhile_append_dropWhile]
        _ = _ := by simp
    · refine ⟨_, last, rfl, ⟨_, _, rfl, fun c taken => List.mem_takeWhile_imp taken,
        fun c taken => List.mem_takeWhile_imp taken⟩, ?_⟩
      simpa [isFinal] using final
    · simp only [List.length_append, List.length_cons, List.length_nil]
  · cases found

theorem sequenceLength?_eq_some {length : Nat} : sequenceLength? text = some length ↔
    ∃ sequence rest, text = sequence ++ rest ∧ IsSequence sequence ∧ sequence.length = length := by
  constructor
  · exact isSequence_of_sequenceLength?
  · rintro ⟨sequence, rest, rfl, complete, rfl⟩
    exact sequenceLength?_append complete rest

theorem withoutSequencesFrom_sublist (skip : Nat) (text : Text) :
    (withoutSequencesFrom skip text).Sublist text := by
  fun_induction withoutSequencesFrom skip text with
  | case1 => exact .slnil
  | case2 skip c rest ih => exact ih.cons c
  | case3 rest length found ih => exact ih.cons _
  | case4 rest none ih => exact ih.cons_cons _
  | case5 c rest other ih => exact ih.cons_cons c

theorem subset_of_withoutSequences (text : Text) : text.withoutSequences ⊆ text :=
  (withoutSequencesFrom_sublist 0 text).subset

theorem withoutSequences_cons (other : c ≠ '\x1b') (rest : Text) :
    withoutSequences (c :: rest) = c :: withoutSequences rest := by
  simp [withoutSequences, withoutSequencesFrom, other]

theorem withoutSequencesFrom_append (text rest : Text) :
    withoutSequencesFrom text.length (text ++ rest) = withoutSequences rest := by
  induction text with
  | nil => rfl
  | cons c text ih => exact ih

theorem withoutSequences_sequence (complete : IsSequence sequence) (rest : Text) :
    withoutSequences ('\x1b' :: (sequence ++ rest)) = withoutSequences rest := by
  rw [withoutSequences, withoutSequencesFrom, if_pos rfl, sequenceLength?_append complete]
  exact withoutSequencesFrom_append sequence rest

end

/-! ## Two parts of a text -/

/-- No control sequence that begins in the first text goes on in the second one. -/
def Separate (first second : Text) : Prop :=
  ∀ rest, '\x1b' :: rest <:+ first →
    ∀ sequence, IsSequence sequence → sequence <+: rest ++ second → sequence <+: rest

def Unfinished (text : Text) : Prop :=
  ∃ before opening, text = before ++ '\x1b' :: opening ∧ IsOpening opening

section
variable {first second text rest sequence : Text}

theorem Separate.tail {c : Char} (separate : Separate (c :: first) second) : Separate first second :=
  fun rest suffix => separate rest (suffix.trans (List.suffix_cons c first))

theorem Separate.sequenceLength?_eq (separate : Separate ('\x1b' :: rest) second) :
    sequenceLength? (rest ++ second) = sequenceLength? rest := by
  apply Option.ext
  intro length
  simp only [sequenceLength?_eq_some]
  constructor
  · rintro ⟨sequence, more, split, complete, rfl⟩
    obtain ⟨left, rfl⟩ := separate rest List.suffix_rfl sequence complete ⟨more, split.symm⟩
    exact ⟨sequence, left, rfl, complete, rfl⟩
  · rintro ⟨sequence, more, rfl, complete, rfl⟩
    exact ⟨sequence, more ++ second, List.append_assoc .., complete, rfl⟩

theorem withoutSequencesFrom_append_of_separate {skip : Nat} (separate : Separate first second)
    (inside : skip ≤ first.length) :
    withoutSequencesFrom skip (first ++ second) =
      withoutSequencesFrom skip first ++ withoutSequences second := by
  induction first generalizing skip with
  | nil =>
      obtain rfl := Nat.le_zero.mp inside
      rfl
  | cons c rest ih =>
      cases skip with
      | succ skip => exact ih separate.tail (Nat.le_of_succ_le_succ inside)
      | zero =>
          rw [List.cons_append, withoutSequencesFrom, withoutSequencesFrom]
          split_ifs with escape
          · subst escape
            rw [separate.sequenceLength?_eq]
            split
            · rename_i length found
              obtain ⟨sequence, more, rfl, -, rfl⟩ := sequenceLength?_eq_some.mp found
              exact ih separate.tail (by simp)
            · rw [ih separate.tail (Nat.zero_le _), List.cons_append]
          · rw [ih separate.tail (Nat.zero_le _), List.cons_append]

theorem withoutSequences_append (separate : Separate first second) :
    withoutSequences (first ++ second) = withoutSequences first ++ withoutSequences second :=
  withoutSequencesFrom_append_of_separate separate (Nat.zero_le _)

/-- A control sequence either ends in the first part, or the whole first part is the beginning of
it. -/
theorem IsSequence.prefix_or (complete : IsSequence sequence) (begins : sequence <+: rest ++ second) :
    sequence <+: rest ∨
      (rest = [] ∨ IsOpening rest) ∧ ∃ c more, sequence = rest ++ c :: more ∧ c :: more <+: second := by
  rcases List.prefix_or_prefix_of_prefix begins (List.prefix_append rest second) with
    short | ⟨more, rfl⟩
  · exact .inl short
  · cases more with
    | nil => exact .inl (by simp)
    | cons c more =>
        refine .inr ⟨?_, c, more, rfl, (List.prefix_append_right_inj rest).mp begins⟩
        obtain ⟨opening, last, split, opens, -⟩ := complete
        apply opens.of_prefix
        have longer : rest.length ≤ opening.length := by
          have lengths := congrArg List.length split
          simp only [List.length_append, List.length_cons, List.length_nil] at lengths
          omega
        have within : rest <+: opening ++ [last] := split ▸ List.prefix_append rest (c :: more)
        exact List.prefix_of_prefix_length_le within (List.prefix_append opening [last]) longer

theorem separate_escape (first second : Text) : Separate first ('\x1b' :: second) := by
  intro rest _ sequence complete begins
  rcases complete.prefix_or begins with within | ⟨-, c, more, rfl, further⟩
  · exact within
  · obtain ⟨rfl, -⟩ := List.cons_prefix_cons.mp further
    exact absurd (by simp) complete.escape_not_mem

theorem separate_colon (first : Text) : Separate first [':'] := by
  intro rest _ sequence complete begins
  rcases complete.prefix_or begins with within | ⟨-, c, more, rfl, further⟩
  · exact within
  · obtain ⟨rfl, ending⟩ := List.cons_prefix_cons.mp further
    obtain rfl := List.prefix_nil.mp ending
    obtain ⟨opening, last, split, -, final⟩ := complete
    obtain ⟨-, same⟩ := List.append_inj' split rfl
    cases same
    exact absurd final (by decide)

theorem separate_of_mem {c : Char} (foreign : ¬ (c = '[' ∨ isParameter c = true ∨ isIntermediate c = true))
    (stands : ∀ rest, '\x1b' :: rest <:+ first → c ∈ rest) : Separate first second := by
  intro rest suffix sequence complete begins
  have inside := stands rest suffix
  rcases complete.prefix_or begins with within | ⟨rfl | opens, -⟩
  · exact within
  · exact absurd inside List.not_mem_nil
  · exact absurd (opens.mem inside) foreign

theorem separate_label (finished : ¬ Unfinished text) : Separate text "\"];".toList := by
  rintro rest ⟨before, rfl⟩ sequence complete begins
  rcases complete.prefix_or begins with within | ⟨rfl | opens, c, more, split, further⟩
  · exact within
  · -- A control sequence does not begin with the quote.
    obtain ⟨_, last, rfl, ⟨parameters, intermediates, rfl, -⟩, -⟩ := complete
    simp at begins
  · exact absurd ⟨before, rest, rfl, opens⟩ finished

theorem withoutSequences_unfinished (before : Text) {opening : Text} (opens : IsOpening opening) :
    withoutSequences (before ++ '\x1b' :: opening ++ "\"];".toList) =
      withoutSequences before ++ ";".toList := by
  have quoted : IsOpening (opening ++ ['"']) := opens.append (by decide)
  have complete : IsSequence (opening ++ ['"'] ++ [']']) := ⟨_, ']', rfl, quoted, by decide⟩
  calc
    withoutSequences (before ++ '\x1b' :: opening ++ "\"];".toList) =
        withoutSequences (before ++ '\x1b' :: (opening ++ ['"'] ++ [']'] ++ [';'])) := by simp
    _ = withoutSequences before ++
        withoutSequences ('\x1b' :: (opening ++ ['"'] ++ [']'] ++ [';'])) :=
      withoutSequences_append (separate_escape before _)
    _ = withoutSequences before ++ [';'] := by
      rw [withoutSequences_sequence complete]
      rfl

end

end Xref.Text
