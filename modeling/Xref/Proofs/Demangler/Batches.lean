import Xref.Proofs.Demangler.LineFilters

/-!
# Batches of names

A filter that answers line by line may print any text for a line, one with breaks of its own included,
and a name may be spread over several lines. Only the number of all lines is checked. Yet each name is
answered by one line at least, so the number is right for a batch exactly when each of its names alone
gets one line, and then no line is taken for the answer to another name.
-/

namespace Xref.Demangler

def linesFor (answer : Text → Text) (name : Symbol) : List Text :=
  (Text.lines (name ++ "\n")).flatMap fun line => (answer line ++ "\n".toList).displayLines

/-- The filter shows a single line for the name, and the display name is that line, unless it is empty. -/
def ShowsAs (answer : Text → Text) (name : Symbol) (display : Text) : Prop :=
  ∃ line, linesFor answer name = [line] ∧ (if line.isEmpty then name else line) = display

section
variable {tools : Tools} {words : List Text} {names : List Symbol} {name : Symbol} {displays : List Text}
  {journal : Journal} {answer : Text → Text}

theorem linesFor_ne_nil (answer : Text → Text) (name : Symbol) : linesFor answer name ≠ [] := by
  obtain ⟨line, lines, begun⟩ := List.exists_cons_of_ne_nil (Text.linesAt_ne_nil (· == '\n')
    (List.append_ne_nil_of_right_ne_nil name (List.cons_ne_nil '\n' [])))
  have first : Text.lines (name ++ "\n") = line :: lines := begun
  rw [linesFor, first, List.flatMap_cons]
  exact List.append_ne_nil_of_left_ne_nil (Text.displayLines_ne_nil _) _

theorem displayLines_answers (answer : Text → Text) (names : List Symbol) :
    Text.displayLines ((filterInput names).lines.flatMap fun line => answer line ++ "\n") =
      names.flatMap (linesFor answer) := by
  have asked : (filterInput names).lines = names.flatMap fun name => Text.lines (name ++ "\n") :=
    Text.cut_flatMap rfl (Text.linesAt_append rfl) names
  rw [asked, ← List.flatMap_map answer (fun line => line ++ "\n".toList),
    Text.cut_flatMap rfl Text.displayLines_append, List.flatMap_map, List.flatMap_assoc]
  rfl

theorem length_le_linesFor (answer : Text → Text) (names : List Symbol) :
    names.length ≤ (names.flatMap (linesFor answer)).length := by
  induction names with
  | nil => exact Nat.le_refl 0
  | cons name names ih =>
      have one := List.length_pos_of_ne_nil (linesFor_ne_nil answer name)
      rw [List.flatMap_cons, List.length_append, List.length_cons]
      omega

theorem forall₂_showsAs (answered : (names.flatMap (linesFor answer)).length = names.length) :
    List.Forall₂ (ShowsAs answer) names (List.zipWith
      (fun name line => if line.isEmpty then name else line) names (names.flatMap (linesFor answer))) := by
  induction names with
  | nil => exact .nil
  | cons name names ih =>
      have others := length_le_linesFor answer names
      -- The other names have as many lines as they are, at least, so no line is left over for this one.
      obtain ⟨line, more, begun⟩ := List.exists_cons_of_ne_nil (linesFor_ne_nil answer name)
      rw [List.flatMap_cons, begun, List.length_append, List.length_cons, List.length_cons] at answered
      obtain rfl : more = [] := List.eq_nil_of_length_eq_zero (by omega)
      have rest : (names.flatMap (linesFor answer)).length = names.length := by
        rw [List.length_nil] at answered
        omega
      rw [List.flatMap_cons, begun]
      exact .cons ⟨line, begun, rfl⟩ (ih rest)

theorem zipWith_of_forall₂ (shown : List.Forall₂ (ShowsAs answer) names displays) :
    (names.flatMap (linesFor answer)).length = names.length ∧ List.zipWith
      (fun name line => if line.isEmpty then name else line) names (names.flatMap (linesFor answer)) =
        displays := by
  induction shown with
  | nil => exact ⟨rfl, rfl⟩
  | cons first _ ih =>
      obtain ⟨line, single, rfl⟩ := first
      rw [List.flatMap_cons, single]
      exact ⟨by simp [ih.1], congrArg _ ih.2⟩

theorem readAnswer_eq_displays {output : Text}
    (shown : output.displayLines = names.flatMap (linesFor answer)) :
    readAnswer names output = .displays displays ↔ List.Forall₂ (ShowsAs answer) names displays := by
  simp only [readAnswer, shown]
  constructor
  · intro read
    split_ifs at read with miscounted
    cases read
    exact forall₂_showsAs (not_not.mp miscounted)
  · intro each
    obtain ⟨answered, rfl⟩ := zipWith_of_forall₂ each
    rw [if_neg (not_not.mpr answered)]

theorem isCommand_of_runFilter (accepted : (runFilter tools words names journal).1 = .displays displays) :
    IsCommand words := by
  cases words with
  | nil => cases accepted
  | cons program arguments =>
      refine ⟨List.cons_ne_nil program arguments, ?_⟩
      by_contra embedded
      rw [Bool.not_eq_false] at embedded
      simp [runFilter, Command.ofWords?, embedded] at accepted

theorem runFilter_eq_displays (behaves : Behaves tools words (.perLine answer)) :
    (runFilter tools words names journal).1 = .displays displays ↔
      IsCommand words ∧ List.Forall₂ (ShowsAs answer) names displays := by
  have accepts (command : IsCommand words) : (runFilter tools words names journal).1 = .displays displays ↔
      List.Forall₂ (ShowsAs answer) names displays := by
    obtain ⟨program, history, after, run⟩ := runFilter_of_command command
    obtain ⟨errors, ⟨message, decoded⟩, ran⟩ := behaves history (filterInput names)
    rw [run, ran]
    simp only [judge, judgeFinished, Utf8.decode_encode, decoded]
    exact readAnswer_eq_displays (displayLines_answers answer names)
  constructor
  · intro accepted
    have command := isCommand_of_runFilter accepted
    exact ⟨command, (accepts command).mp accepted⟩
  · rintro ⟨command, shown⟩
    exact (accepts command).mpr shown

theorem exists_forall₂ {related : Symbol → Text → Prop} :
    (∃ displays, List.Forall₂ related names displays) ↔ ∀ name ∈ names, ∃ display, related name display := by
  induction names with
  | nil => simp
  | cons name names ih => simp [List.forall₂_cons_left_iff, ← ih]

theorem accepts_iff (behaves : Behaves tools words (.perLine answer)) :
    (∃ displays, (runFilter tools words names journal).1 = .displays displays) ↔
      IsCommand words ∧ ∀ name ∈ names, ∃ display, ShowsAs answer name display := by
  simp only [runFilter_eq_displays behaves, exists_and_left, exists_forall₂]

theorem displays_alone (behaves : Behaves tools words (.perLine answer))
    (accepted : (runFilter tools words names journal).1 = .displays displays) (alone : Journal) :
    List.Forall₂ (fun name display => (runFilter tools words [name] alone).1 = .displays [display])
      names displays := by
  obtain ⟨command, shown⟩ := (runFilter_eq_displays behaves).mp accepted
  refine shown.imp fun name display shows => ?_
  exact (runFilter_eq_displays behaves).mpr ⟨command, .cons shows .nil⟩

/-! ## Display names that are kept -/

def IsOwn (tools : Tools) (stages : List (List Text × Nat)) (alone : Journal) (entry : Symbol × Text) :
    Prop :=
  entry.2 = entry.1 ∨
    ∃ stage ∈ stages, (runFilter tools stage.1 [entry.1] alone).1 = .displays [entry.2]

variable {demangler : Demangler} {stages : List (List Text × Nat)} {alone : Journal}
  {entry : Symbol × Text}

theorem IsOwn.cons (own : IsOwn tools stages alone entry) (stage : List Text × Nat) :
    IsOwn tools (stage :: stages) alone entry :=
  own.imp_right fun ⟨other, listed, shown⟩ => ⟨other, List.mem_cons_of_mem stage listed, shown⟩

theorem isOwn_of_keepChanged {stage : List Text × Nat} (behaves : Behaves tools stage.1 (.perLine answer))
    (accepted : (runFilter tools stage.1 names journal).1 = .displays displays)
    (kept : entry ∈ (demangler.keepChanged names displays).cache) :
    entry ∈ demangler.cache ∨ IsOwn tools (stage :: stages) alone entry := by
  rcases List.mem_append.mp kept with old | changed
  · exact .inl old
  · have each := List.forall₂_iff_zip.mp (displays_alone behaves accepted alone)
    have paired := (List.mem_filter.mp changed).1
    exact .inr (.inr ⟨stage, List.mem_cons_self, each.2 paired⟩)

theorem isOwn_of_sendThrough
    (perLine : ∀ stage ∈ stages, ∃ answer, Behaves tools stage.1 (.perLine answer))
    (kept : entry ∈ (sendThrough tools stages names demangler journal).demangler.cache) :
    entry ∈ demangler.cache ∨ IsOwn tools stages alone entry := by
  induction stages generalizing names demangler journal with
  | nil =>
      rcases List.mem_append.mp kept with old | raw
      · exact .inl old
      · obtain ⟨name, -, rfl⟩ := List.mem_map.mp raw
        exact .inr (.inl rfl)
  | cons stage rest ih =>
      obtain ⟨⟨answer, behaves⟩, others⟩ := List.forall_mem_cons.mp perLine
      rcases eq_or_ne names [] with rfl | waiting
      · rw [sendThrough_empty] at kept
        exact .inl kept
      · rcases sendThrough_cases tools stage.1 stage.2 rest demangler journal waiting with
          ⟨-, step⟩ | ⟨-, after, ⟨displays, ran, step⟩ | ⟨rejection, -, step⟩ | ⟨failure, -, step⟩⟩
        · rw [step] at kept
          exact (ih others kept).imp_right (IsOwn.cons · stage)
        · rw [step] at kept
          rcases ih others kept with known | own
          · exact isOwn_of_keepChanged behaves (congrArg Prod.fst ran) known
          · exact .inr (own.cons stage)
        · rw [step] at kept
          exact (ih others kept).imp_right (IsOwn.cons · stage)
        · rw [step] at kept
          exact .inl kept

end

/-- A filter that answers line by line accepts a batch exactly when it accepts each of its names alone,
and gives every name of the batch the display name that the name has alone. So a demangler with this
filter keeps no other display name for a name. -/
theorem batch_answered_name_by_name {tools : Tools} {words : List Text} {answer : Text → Text}
    (behaves : Behaves tools words (.perLine answer)) {names : List Symbol} (asked : names ≠ [])
    (journal alone : Journal) :
    ((∃ displays, (runFilter tools words names journal).1 = .displays displays) ↔
      ∀ name ∈ names, ∃ displays, (runFilter tools words [name] alone).1 = .displays displays) ∧
    (∀ displays, (runFilter tools words names journal).1 = .displays displays →
      List.Forall₂ (fun name display => (runFilter tools words [name] alone).1 = .displays [display])
        names displays) ∧
    ∀ demangler : Demangler, demangler.chain = [words] →
      ∀ entry ∈ (demangler.prime tools names journal).demangler.cache,
        entry ∈ demangler.cache ∨ entry.2 = entry.1 ∨
          (runFilter tools words [entry.1] alone).1 = .displays [entry.2] := by
  refine ⟨?_, fun displays accepted => displays_alone behaves accepted alone, ?_⟩
  · simp only [accepts_iff behaves, List.forall_mem_singleton]
    constructor
    · rintro ⟨command, shown⟩ name listed
      exact ⟨command, shown name listed⟩
    · intro each
      obtain ⟨first, listed⟩ := List.exists_mem_of_ne_nil names asked
      exact ⟨(each first listed).1, fun name listed => (each name listed).2⟩
  · intro demangler single entry kept
    rw [prime, single] at kept
    have perLine : ∀ stage ∈ [words].zipIdx, ∃ answer, Behaves tools stage.1 (.perLine answer) := by
      simpa using ⟨answer, behaves⟩
    have own : entry ∈ demangler.cache ∨ IsOwn tools [words].zipIdx alone entry :=
      isOwn_of_sendThrough perLine kept
    simpa [IsOwn] using own

/-- A carriage return at the end of an answer belongs to the end of its line, a line separator ends a
line of its own. -/
theorem batch_answered_name_by_name_separators :
    let answer (line : Text) : Text :=
      if line = "_Za".toList then "a()\r" else if line = "_Zb".toList then "b()\u2028" else line
    let tools : Tools := {
      filter _ _ input :=
        .finished 0 (Utf8.encode ((Text.lines input).flatMap fun line => answer line ++ "\n")) []
      disassembler _ _ := .failed .noEntry }
    (∃ displays, (runFilter tools ["c++filt"] ["x", "_Za"] []).1 = .displays displays) ∧
      ¬ ∃ displays, (runFilter tools ["c++filt"] ["_Za", "_Zb"] []).1 = .displays displays := by
  intro answer tools
  have behaves : Behaves tools ["c++filt"] (.perLine answer) := fun _ _ => ⟨[], ⟨[], rfl⟩, rfl⟩
  constructor
  · apply (batch_answered_name_by_name behaves (by decide) [] []).1.mpr
    exact List.forall_mem_cons.mpr
      ⟨⟨["x".toList], rfl⟩, List.forall_mem_singleton.mpr ⟨["a()".toList], rfl⟩⟩
  · intro accepted
    obtain ⟨displays, alone⟩ := (batch_answered_name_by_name behaves (by decide) [] []).1.mp accepted
      "_Zb".toList (by decide)
    have miscounted : (runFilter tools ["c++filt"] ["_Zb"] []).1 = .rejected (.miscounted 2 1) := rfl
    rw [miscounted] at alone
    cases alone

end Xref.Demangler
