import Xref.Listing.Bytes
import Xref.Proofs.Demangler.Answers
import Xref.Proofs.Demangler.Batches
import Xref.Proofs.Graph.Listing

namespace Xref.Demangler

theorem lineEnd_not_mem_symbol {bytes : Bytes} {name : Symbol}
    (listed : name ∈ (Graph.ofListing (Listing.ofBytes bytes)).symbols) : '\n' ∉ name ∧ '\r' ∉ name := by
  rcases Graph.symbol_subset_line listed with rfl | ⟨line, among, within⟩
  · exact ⟨List.not_mem_nil, List.not_mem_nil⟩
  · have chars := Text.chars_of_mem_linesAt among
    constructor
    · intro stands
      exact absurd (chars _ (within stands)).2 (by decide)
    · intro stands
      exact Text.return_not_mem_unifyLineEnds _ (chars _ (within stands)).1

section
variable {tools : Tools} {words : List Text} {names : List Symbol} {name : Symbol} {display : Text}
  {answer : Text → Text}

/-! ## The lines for one name -/

theorem linesFor_of_newline_not_mem (whole : '\n' ∉ name) :
    linesFor answer name = (answer name ++ "\n".toList).displayLines := by
  have alone : Text.lines (name ++ "\n") = [name] := by
    simpa using Text.lines_flatMap (List.forall_mem_singleton.mpr whole)
  rw [linesFor, alone, List.flatMap_singleton]

theorem showsAs_shown (whole : '\n' ∉ name) (single : (answer name).IsSingleLine) :
    ShowsAs answer name (Behaviour.shown answer name) := by
  have line : (answer name ++ "\n".toList).displayLines = [answer name] := by
    simpa using Text.displayLines_flatMap (List.forall_mem_singleton.mpr single)
  refine ⟨answer name, by rw [linesFor_of_newline_not_mem whole, line], ?_⟩
  simp [Behaviour.shown]

theorem isSingleLine_of_showsAs (whole : '\n' ∉ name) (absent : '\r' ∉ name) (same : answer name = name)
    (shown : ShowsAs answer name display) : name.IsSingleLine := by
  obtain ⟨line, single, -⟩ := shown
  rw [linesFor_of_newline_not_mem whole, same] at single
  exact Text.isSingleLine_of_displayLines absent single

theorem usable_of_perLine (command : IsCommand words) (behaves : Behaves tools words (.perLine answer)) :
    Usable tools words := by
  refine ⟨command, fun history input => .inr ?_⟩
  obtain ⟨errors, readable, ran⟩ := behaves history input
  exact ⟨0, _, errors, ⟨_, Utf8.decode_encode _⟩, readable, ran⟩

/-! ## The pass of a single filter -/

theorem firstReplacement_single : firstReplacement [.perLine answer] name =
    if name = [] then [] else Behaviour.shown answer name := by
  rw [firstReplacement, List.findSome?_singleton, replacement?_perLine]
  split_ifs with empty same
  · rfl
  · exact same.symm
  · rfl

theorem kept_eq_self {demangler : Demangler} (raw : ∀ entry ∈ demangler.cache, entry.2 = entry.1) :
    demangler.kept name = name :=
  (demangler.kept_eq_or_mem name).elim id fun cached => raw _ cached

theorem prime_single_cases (usable : Usable tools words) (names : List Symbol) (journal : Journal) :
    let new := ofChain [words]
    let primed := (new.prime tools names journal).demangler
    (new.pending names = [] ∧ primed = new) ∨
    (∃ displays, (runFilter tools words (new.pending names) journal).1 = .displays displays ∧
      primed = (new.keepChanged (new.pending names) displays).keepRaw
        (unchanged (new.pending names) displays)) ∨
    (∃ rejection, (runFilter tools words (new.pending names) journal).1 = .rejected rejection ∧
      primed = { new with disabled := [0] }.keepRaw (new.pending names)) := by
  intro new primed
  have pass : primed = (sendThrough tools [(words, 0)] (new.pending names) new journal).demangler := rfl
  rcases eq_or_ne (new.pending names) [] with none | waiting
  · rw [none, sendThrough_empty] at pass
    exact .inl ⟨none, pass⟩
  · rcases sendThrough_cases tools words 0 [] new journal waiting with
      ⟨skipped, -⟩ | ⟨-, after, ⟨displays, ran, step⟩ | ⟨rejection, ran, step⟩ | ⟨failure, ran, -⟩⟩
    · exact absurd skipped List.not_mem_nil
    · rw [step] at pass
      exact .inr (.inl ⟨displays, congrArg Prod.fst ran, pass⟩)
    · rw [step] at pass
      exact .inr (.inr ⟨rejection, congrArg Prod.fst ran, pass⟩)
    · exact absurd ran (runFilter_ne_raised usable)

theorem faithful_of_unbroken (command : IsCommand words) (behaves : Behaves tools words (.perLine answer))
    (whole : ∀ name ∈ names, '\n' ∉ name) (single : ∀ name ∈ names, (answer name).IsSingleLine)
    (journal : Journal) :
    Faithful tools [.perLine answer] ((ofChain [words]).prime tools names journal).demangler := by
  have new : Faithful tools [.perLine answer] (ofChain [words]) :=
    faithful_ofChain (.cons ⟨command, behaves⟩ .nil)
  have shown : ∀ name ∈ (ofChain [words]).pending names,
      firstReplacement [.perLine answer] name = Behaviour.shown answer name := by
    intro name pending
    rw [firstReplacement_single, if_neg (mem_pending.mp pending).2.1]
  have accepted : (runFilter tools words ((ofChain [words]).pending names) journal).1 =
      .displays (((ofChain [words]).pending names).map (Behaviour.shown answer)) := by
    refine (runFilter_eq_displays behaves).mpr ⟨command, ?_⟩
    rw [List.forall₂_map_right_iff, List.forall₂_same]
    intro name pending
    have listed := (mem_pending.mp pending).1
    exact showsAs_shown (whole name listed) (single name listed)
  rcases prime_single_cases (usable_of_perLine command behaves) names journal with
    ⟨-, pass⟩ | ⟨displays, ran, pass⟩ | ⟨rejection, ran, -⟩
  · rw [pass]
    exact new
  · obtain rfl := Verdict.displays.inj (ran.symm.trans accepted)
    rw [pass]
    refine (new.keepChanged fun name pending _ => shown name pending).keepRaw fun name left => ?_
    obtain ⟨pending, same⟩ := mem_unchanged_map left
    rw [shown name pending, same]
  · cases ran.symm.trans accepted

theorem raw_of_broken (command : IsCommand words) (behaves : Behaves tools words (.perLine answer))
    (listed : name ∈ names) (whole : '\n' ∉ name) (absent : '\r' ∉ name) (same : answer name = name)
    (broken : ¬ name.IsSingleLine) (journal : Journal) :
    let primed := ((ofChain [words]).prime tools names journal).demangler
    primed.disabled = [0] ∧ ∀ other, primed.kept other = other := by
  intro primed
  have present : name ≠ [] := by
    rintro rfl
    exact broken (List.forall_mem_nil _)
  have waiting : name ∈ (ofChain [words]).pending names := mem_pending.mpr ⟨listed, present, rfl⟩
  rcases prime_single_cases (usable_of_perLine command behaves) names journal with
    ⟨none, -⟩ | ⟨displays, ran, -⟩ | ⟨rejection, -, pass⟩
  · exact absurd waiting (none ▸ List.not_mem_nil)
  · obtain ⟨-, each⟩ := (accepts_iff behaves).mp ⟨displays, ran⟩
    obtain ⟨display, shown⟩ := each name waiting
    exact absurd (isSingleLine_of_showsAs whole absent same shown) broken
  · have raw : ∀ entry ∈ primed.cache, entry.2 = entry.1 := by
      simp only [primed, pass]
      intro entry kept
      obtain ⟨name, -, rfl⟩ := List.mem_map.mp kept
      rfl
    exact ⟨congrArg Demangler.disabled pass, fun other => kept_eq_self raw⟩

theorem Faithful.disabled_eq_nil {demangler : Demangler}
    (faithful : Faithful tools [.perLine answer] demangler) : demangler.disabled = [] := by
  rw [List.eq_nil_iff_forall_not_mem]
  intro index disabled
  have failing := faithful.disabled index disabled
  cases index <;> cases failing

end

/-- A single filter leaves unknown names as they are and gives the others display names of one line. It
stays in use, and every symbol of a listing is shown as it answers, exactly when no symbol that it leaves
as it is breaks a line. One that does costs all symbols their display names. -/
theorem listing_named_unless_broken {tools : Tools} {words : List Text} {answer : Text → Text}
    (command : IsCommand words) (behaves : Behaves tools words (.perLine answer))
    (renames : ∀ name, answer name = name ∨ (answer name).IsSingleLine) (bytes : Bytes)
    (journal : Journal) :
    let symbols := (Graph.ofListing (Listing.ofBytes bytes)).symbols
    let primed := (ofChain [words]).prime tools symbols journal
    let broken := ∃ name ∈ symbols, answer name = name ∧ ¬ name.IsSingleLine
    primed.result = .ok () ∧
    (¬ broken → primed.demangler.disabled = [] ∧ ∀ name ∈ symbols, ∀ later,
      primed.demangler.demangle tools name later =
        ⟨.ok (if name = [] then [] else Behaviour.shown answer name), primed.demangler, later⟩) ∧
    (broken → primed.demangler.disabled = [0] ∧ ∀ name ∈ symbols, ∀ later,
      primed.demangler.demangle tools name later = ⟨.ok name, primed.demangler, later⟩) := by
  intro symbols primed broken
  have finished : primed.result = .ok () :=
    prime_of_usable (List.forall_mem_singleton.mpr (usable_of_perLine command behaves))
  have known := knows_of_prime finished
  refine ⟨finished, ?_, ?_⟩
  · intro unbroken
    have single : ∀ name ∈ symbols, (answer name).IsSingleLine := by
      intro name listed
      rcases renames name with same | single
      · rw [same]
        by_contra breaks
        exact unbroken ⟨name, listed, same, breaks⟩
      · exact single
    have faithful := faithful_of_unbroken command behaves
      (fun name listed => (lineEnd_not_mem_symbol listed).1) single journal
    refine ⟨faithful.disabled_eq_nil, fun name listed later => ?_⟩
    rw [demangle_of_knows (known name listed), faithful.kept (known name listed),
      firstReplacement_single]
  · rintro ⟨name, listed, same, breaks⟩
    obtain ⟨whole, absent⟩ := lineEnd_not_mem_symbol listed
    obtain ⟨disabled, raw⟩ := raw_of_broken command behaves listed whole absent same breaks journal
    refine ⟨disabled, fun name listed later => ?_⟩
    rw [demangle_of_knows (known name listed), raw]

theorem listing_named_unless_broken_known :
    let answer (line : Text) : Text :=
      if line = "_Za".toList then "a()" else if line = "b\u2028c".toList then "b" else line
    let tools : Tools := {
      filter _ _ input :=
        .finished 0 (Utf8.encode ((Text.lines input).flatMap fun line => answer line ++ "\n")) []
      disassembler _ _ := .failed .noEntry }
    let symbols := (Graph.ofListing (Listing.ofBytes
      (Utf8.encode "0 <_Za>:\ncall <b\u2028c>\ncall <d>\n".toList))).symbols
    let primed := ((ofChain [["filt".toList]]).prime tools symbols []).demangler
    symbols = ["_Za".toList, "b\u2028c".toList, "d".toList] ∧ primed.disabled = [] ∧
      primed.demangle tools "b\u2028c".toList [] = ⟨.ok "b".toList, primed, []⟩ := by
  intro answer tools symbols primed
  have command : IsCommand ["filt".toList] := ⟨by decide, by decide⟩
  have behaves : Behaves tools ["filt".toList] (.perLine answer) := fun _ _ => ⟨[], ⟨[], rfl⟩, rfl⟩
  have renames (name : Symbol) : answer name = name ∨ (answer name).IsSingleLine := by
    simp only [answer]
    split_ifs
    · exact .inr (by decide +kernel)
    · exact .inr (by decide +kernel)
    · exact .inl rfl
  have listed : symbols = ["_Za".toList, "b\u2028c".toList, "d".toList] := by decide +kernel
  have unbroken : ¬ ∃ name ∈ symbols, answer name = name ∧ ¬ name.IsSingleLine := by
    rw [listed]
    decide +kernel
  obtain ⟨disabled, shown⟩ := (listing_named_unless_broken command behaves renames _ []).2.1 unbroken
  have known : "b\u2028c".toList ∈ symbols := by
    rw [listed]
    decide
  exact ⟨listed, disabled, shown _ known []⟩

/-- A line separator in a name that the filter does not know takes `_Za` its display name. -/
theorem line_separator_spoils_listing :
    let answer (line : Text) : Text := if line = "_Za".toList then "a()" else line
    let tools : Tools := {
      filter _ _ input :=
        .finished 0 (Utf8.encode ((Text.lines input).flatMap fun line => answer line ++ "\n")) []
      disassembler _ _ := .failed .noEntry }
    let symbols := (Graph.ofListing (Listing.ofBytes
      (Utf8.encode "0 <_Za>:\ncall <b\u2028c>\n".toList))).symbols
    let primed := ((ofChain [["filt".toList]]).prime tools symbols []).demangler
    Behaves tools ["filt".toList] (.perLine answer) ∧
      (∀ name, answer name = name ∨ (answer name).IsSingleLine) ∧ "_Za".toList ∈ symbols ∧
      answer "_Za".toList = "a()".toList ∧ primed.kept "_Za".toList = "_Za".toList ∧
      primed.disabled = [0] := by
  intro answer tools symbols primed
  refine ⟨fun _ _ => ⟨[], ⟨[], rfl⟩, rfl⟩, ?_, by decide +kernel, rfl, by decide +kernel,
    by decide +kernel⟩
  intro name
  simp only [answer]
  split_ifs
  · exact .inr (by decide +kernel)
  · exact .inl rfl

end Xref.Demangler
