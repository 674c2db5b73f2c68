import Xref.Proofs.Demangler.Disabling
import Xref.Proofs.Demangler.WriteOnce

namespace Xref.Demangler

namespace Execution

def added (run : Execution) : List (Symbol × Text) :=
  match run.verdict with
  | .displays displays => (run.names.zip displays).filter fun (name, display) => display ≠ name
  | _ => []

/-- The filter ended well and printed a line for each of its names, the display name for this one. -/
def Answers (run : Execution) (name : Symbol) (display : Text) : Prop :=
  ∃ output errors printed, run.ending = .ran (.finished 0 output errors) ∧
    Utf8.decode output = .ok printed ∧ printed.displayLines.length = run.names.length ∧
    (name, display) ∈ run.names.zip printed.displayLines

def Raises (run : Execution) (failure : Failure) : Prop :=
  (run.words = [] ∧ failure = .noProgram) ∨
  (run.words.any hasNul = true ∧ failure = .embeddedNul) ∨
  (run.ending = .ran .interrupted ∧ failure = .interrupted) ∨
  ∃ status output errors error, run.ending = .ran (.finished status output errors) ∧
    (Utf8.decode output = .error error ∨ Utf8.decode errors = .error error) ∧
    failure = .undecodable error

section
variable {run : Execution} {failure : Failure}

theorem leaves_cache (run : Execution) : run.leaves.cache = run.found.cache ++ run.added := by
  unfold leaves added
  cases run.verdict <;> simp [keepChanged]

theorem verdict_of_failure? (raised : run.failure? = some failure) : run.verdict = .raised failure := by
  unfold failure? at raised
  split at raised
  · rename_i other verdict
    cases raised
    exact verdict
  · cases raised

theorem exists_line_of_mem_zip {shows : Symbol → Text → Text} {names : List Symbol} {lines : List Text}
    {entry : Symbol × Text} (paired : entry ∈ names.zip (List.zipWith shows names lines)) :
    ∃ line, (entry.1, line) ∈ names.zip lines ∧ entry.2 = shows entry.1 line := by
  rw [List.mem_iff_getElem] at paired
  obtain ⟨i, inside, rfl⟩ := paired
  simp only [List.length_zip, List.length_zipWith] at inside
  refine ⟨lines[i], ?_, by simp⟩
  rw [List.mem_iff_getElem]
  exact ⟨i, by simp; omega, by simp⟩

theorem printed_of_verdict {displays : List Text} (answered : run.verdict = .displays displays) :
    ∃ output errors printed, run.ending = .ran (.finished 0 output errors) ∧
      Utf8.decode output = .ok printed ∧ printed.displayLines.length = run.names.length ∧
      displays = List.zipWith (fun name line => if line.isEmpty then name else line) run.names
        printed.displayLines := by
  unfold verdict at answered
  split at answered
  · cases answered
  · rename_i outcome ending
    cases outcome with
    | failed cause => cases answered
    | interrupted => cases answered
    | finished status output errors =>
        simp only [judge, judgeFinished, readAnswer] at answered
        split at answered
        · cases answered
        · rename_i printed readable
          split at answered
          · cases answered
          · split_ifs at answered with failed miscounted
            obtain rfl := not_not.mp failed
            cases answered
            exact ⟨output, errors, printed, ending, readable, not_not.mp miscounted, rfl⟩

theorem answers_of_added {entry : Symbol × Text} (new : entry ∈ run.added) :
    entry.1 ∈ run.names ∧ entry.2 ≠ [] ∧ entry.2 ≠ entry.1 ∧ run.Answers entry.1 entry.2 := by
  unfold added at new
  split at new
  · rename_i displays answered
    obtain ⟨output, errors, printed, ending, readable, counted, rfl⟩ := printed_of_verdict answered
    obtain ⟨paired, changed⟩ := List.mem_filter.mp new
    obtain ⟨line, listed, shown⟩ := exists_line_of_mem_zip paired
    have other : entry.2 ≠ entry.1 := by simpa using changed
    -- An empty line leaves its name as it is, so the line for a changed name is its display name.
    by_cases empty : line.isEmpty = true
    · rw [if_pos empty] at shown
      exact absurd shown other
    · rw [if_neg empty] at shown
      rw [shown]
      refine ⟨(List.of_mem_zip listed).1, ?_, shown ▸ other, ?_⟩
      · simpa using empty
      · exact ⟨output, errors, printed, ending, readable, counted, listed⟩
  · exact absurd new List.not_mem_nil

theorem added_remaining_perm (run : Execution) :
    (run.added.map Prod.fst ++ run.remaining).Perm run.names := by
  have moved := known_leaves_perm run
  rw [known, leaves_cache, List.map_append, List.append_assoc] at moved
  exact (List.perm_append_left_iff _).mp moved

theorem leaves_of_failure? (raised : run.failure? = some failure) :
    run.added = [] ∧ run.givenUp = [] ∧ run.leaves = run.found := by
  have verdict := verdict_of_failure? raised
  simp [added, givenUp, rejection?, leaves, verdict]

end

end Execution

theorem judge_eq_raised {program : Text} {names : List Symbol} {outcome : FilterOutcome}
    {failure : Failure} (raised : judge program names outcome = .raised failure) :
    (outcome = .interrupted ∧ failure = .interrupted) ∨
    ∃ status output errors error, outcome = .finished status output errors ∧
      (Utf8.decode output = .error error ∨ Utf8.decode errors = .error error) ∧
      failure = .undecodable error := by
  cases outcome with
  | failed cause => cases raised
  | interrupted =>
      cases raised
      exact .inl ⟨rfl, rfl⟩
  | finished status output errors =>
      simp only [judge, judgeFinished, readAnswer] at raised
      split at raised
      · rename_i error unreadable
        cases raised
        exact .inr ⟨status, output, errors, error, rfl, .inl unreadable, rfl⟩
      · split at raised
        · rename_i error unreadable
          cases raised
          exact .inr ⟨status, output, errors, error, rfl, .inr unreadable, rfl⟩
        · split_ifs at raised

theorem raises_of_execute {tools : Tools} {words : List Text} {index : Nat} {names : List Symbol}
    {demangler : Demangler} {journal : Journal} {run : Execution} {failure : Failure}
    (executed : run = execute tools words index names demangler journal)
    (raised : run.failure? = some failure) : run.Raises failure := by
  have verdict := Execution.verdict_of_failure? raised
  have ending := congrArg Execution.ending executed
  obtain ⟨rfl, -⟩ := fields_of_execute executed
  simp only [execute] at ending
  unfold Execution.verdict at verdict
  split_ifs at ending with empty nul
  · simp only [ending, Verdict.raised.injEq] at verdict
    exact .inl ⟨empty, verdict.symm⟩
  · simp only [ending, Verdict.raised.injEq] at verdict
    exact .inr (.inl ⟨nul, verdict.symm⟩)
  · simp only [ending] at verdict
    rcases judge_eq_raised verdict with
      ⟨interrupted, rfl⟩ | ⟨status, output, errors, error, finished, unreadable, rfl⟩
    · exact .inr (.inr (.inl ⟨by rw [ending, interrupted], rfl⟩))
    · exact .inr (.inr (.inr ⟨status, output, errors, error, by rw [ending, finished], unreadable, rfl⟩))

/-! ## The pass -/

/-- What is left of a pass that ends with a failure in its last execution. -/
structure BrokenOff (names : List Symbol) (demangler : Demangler) (earlier : List Execution)
    (last : Execution) (failure : Failure) (left : Demangler) : Prop where
  raised : last.failure? = some failure
  raises : last.Raises failure
  cache : left.cache = demangler.cache ++ earlier.flatMap Execution.added
  shared : ((earlier.flatMap Execution.added).map Prod.fst ++ last.names).Perm names
  ordered : last.names.Sublist names

section
variable {tools : Tools} {stages : List (List Text × Nat)} {names : List Symbol}
  {demangler left : Demangler} {journal : Journal} {runs earlier : List Execution}
  {run last : Execution} {outcome : Outcome Unit} {failure : Failure}

theorem brokenOff_here {words : List Text} {index : Nat}
    (executed : run = execute tools words index names demangler journal)
    (raised : run.failure? = some failure) : BrokenOff names demangler [] run failure run.leaves := by
  obtain ⟨-, -, unanswered⟩ := Execution.leaves_of_failure? raised
  have raises := raises_of_execute executed raised
  obtain ⟨-, -, rfl, rfl⟩ := fields_of_execute executed
  exact ⟨raised, raises, by simp [unanswered], by simp, .refl _⟩

theorem BrokenOff.cons (broken : BrokenOff run.remaining run.leaves earlier last failure left) :
    BrokenOff run.names run.found (run :: earlier) last failure left where
  raised := broken.raised
  raises := broken.raises
  cache := by rw [broken.cache, Execution.leaves_cache, List.flatMap_cons, List.append_assoc]
  shared := by
    rw [List.flatMap_cons, List.map_append, List.append_assoc]
    exact (broken.shared.append_left _).trans run.added_remaining_perm
  ordered := broken.ordered.trans (remaining_sublist run)

theorem brokenOff_of_passes (passes : Passes tools stages names demangler journal runs outcome)
    (failed : outcome.result = .error failure) :
    ∃ earlier last, runs = earlier ++ [last] ∧
      BrokenOff names demangler earlier last failure outcome.demangler := by
  induction passes with
  | settled => cases failed
  | through => cases failed
  | skipped _ _ ih => exact ih failed
  | @failed _ _ _ _ _ _ run _ _ executed raised =>
      cases failed
      exact ⟨[], run, rfl, brokenOff_here executed raised⟩
  | @further _ _ _ _ _ _ run _ _ _ executed _ ih =>
      obtain ⟨earlier, last, rfl, broken⟩ := ih failed
      obtain ⟨-, -, rfl, rfl⟩ := fields_of_execute executed
      exact ⟨run :: earlier, last, rfl, broken.cons⟩

theorem BrokenOff.pending_eq
    (broken : BrokenOff (demangler.pending names) demangler earlier last failure left) :
    left.pending names = last.names := by
  have distinct := broken.shared.nodup_iff.mpr (nodup_pending demangler names)
  have kept (name : Symbol) : left.cache.lookup name = none ↔ demangler.cache.lookup name = none ∧
      name ∉ (earlier.flatMap Execution.added).map Prod.fst := by
    rw [← Option.not_isSome_iff_eq_none, ← Option.not_isSome_iff_eq_none, isSome_lookup, isSome_lookup,
      known, known, broken.cache, List.map_append, List.mem_append, not_or]
  have waiting : ∀ name ∈ last.names, name ∈ left.pending names := by
    intro name sent
    obtain ⟨asked, present, unknown⟩ := mem_pending.mp (broken.ordered.subset sent)
    have unanswered : name ∉ (earlier.flatMap Execution.added).map Prod.fst :=
      fun answered => (List.nodup_append.mp distinct).2.2 name answered name sent rfl
    exact mem_pending.mpr ⟨asked, present, (kept name).mpr ⟨unknown, unanswered⟩⟩
  have sent : left.pending names ⊆ last.names := by
    intro name pending
    obtain ⟨asked, present, unknown⟩ := mem_pending.mp pending
    obtain ⟨unknown, unanswered⟩ := (kept name).mp unknown
    have before := broken.shared.mem_iff.mpr (mem_pending.mpr ⟨asked, present, unknown⟩)
    exact (List.mem_append.mp before).resolve_left unanswered
  have ordered : last.names.Sublist (left.pending names) := by
    have among : last.names.Sublist (firstSeen names) := broken.ordered.trans List.filter_sublist
    have all := List.filter_eq_self.mpr fun name sent => (List.mem_filter.mp (waiting name sent)).2
    rw [← all]
    exact among.filter _
  exact (ordered.eq_of_length_le ((nodup_pending left names).subperm sent).length_le).symm

theorem index_lt_of_passes (passes : Passes tools demangler.chain.zipIdx names demangler journal
    (earlier ++ [last]) outcome) : ∀ run ∈ earlier, run.index < last.index := by
  have positions := index_of_passes passes
  rw [List.zipIdx_map_snd] at positions
  have ascending : (List.range' 0 demangler.chain.length).Pairwise (· < ·) := List.pairwise_lt_range'
  have rising := ascending.sublist positions
  rw [List.map_append, List.pairwise_append] at rising
  intro run made
  exact rising.2.2 run.index (List.mem_map_of_mem made) last.index (by simp)

end

/-- A pass that fails leaves the cache as it was, with display names at its end that filters before the
failed one had answered. None of them is a name's own form, and no filter is given up but those that
failed before. What waits afterwards is the batch on which the pass failed. -/
theorem broken_pass_keeps_answers {tools : Tools} {demangler : Demangler} {names : List Symbol}
    {journal : Journal} {failure : Failure}
    (failed : (demangler.prime tools names journal).result = .error failure) :
    let left := demangler.prime tools names journal
    ∃ earlier last added,
      primeRuns tools demangler names journal = earlier ++ [last] ∧
      left.journal = journal ++ (earlier ++ [last]).flatMap Execution.events ∧
      last.Raises failure ∧
      (∀ run ∈ earlier ++ [last], demangler.chain[run.index]? = some run.words) ∧
      (∀ run ∈ earlier, run.index < last.index) ∧
      left.demangler.cache = demangler.cache ++ added ∧
      (added.map Prod.fst).Nodup ∧
      (∀ entry ∈ added, (entry.1 ∈ names ∧ entry.1 ≠ [] ∧ demangler.cache.lookup entry.1 = none) ∧
        (entry.2 ≠ [] ∧ entry.2 ≠ entry.1) ∧ ∃ run ∈ earlier, run.Answers entry.1 entry.2) ∧
      (∀ index, index ∈ left.demangler.disabled ↔
        index ∈ demangler.disabled ∨ ∃ run ∈ earlier, run.index = index ∧ run.Disables) ∧
      left.demangler.pending names = last.names := by
  intro left
  have passes := passes_prime tools demangler names journal
  have spans := spans_of_passes passes fun stage listed => List.mem_zipIdx_iff_getElem?.mp listed
  obtain ⟨earlier, last, runs, broken⟩ := brokenOff_of_passes passes failed
  rw [runs] at passes spans
  obtain ⟨-, kept, -⟩ := Execution.leaves_of_failure? broken.raised
  refine ⟨earlier, last, earlier.flatMap Execution.added, runs, journal_of_passes passes, broken.raises,
    spans.words, index_lt_of_passes passes, broken.cache, ?_, ?_, ?_, broken.pending_eq⟩
  · exact (broken.shared.nodup_iff.mpr (nodup_pending demangler names)).of_append_left
  · intro entry new
    have waited : entry.1 ∈ demangler.pending names :=
      broken.shared.subset (List.mem_append_left _ (List.mem_map_of_mem new))
    obtain ⟨run, made, new⟩ := List.mem_flatMap.mp new
    obtain ⟨-, present, changed, answers⟩ := Execution.answers_of_added new
    exact ⟨mem_pending.mp waited, ⟨present, changed⟩, run, made, answers⟩
  · intro index
    rw [spans.disabled, List.flatMap_append, List.flatMap_singleton, kept, List.append_nil,
      List.mem_append, List.mem_flatMap]
    simp only [Execution.mem_givenUp]

/-- The first filter is missing, the second one knows `_Za`, and the third one prints a byte that is no
text. -/
theorem broken_pass_keeps_answers_undecodable :
    let tools : Tools := {
      filter _ words _ :=
        if words = ["none".toList] then .failed .noEntry
        else if words = ["c++filt".toList] then .finished 0 (Utf8.encode "a()\nx\n".toList) []
        else .finished 0 [0xff] []
      disassembler _ _ := .failed .noEntry }
    let demangler : Demangler :=
      ⟨[["none".toList], ["c++filt".toList], ["odd".toList]], [("y".toList, "Y".toList)], []⟩
    let names : List Symbol := ["_Za".toList, "y".toList, [], "x".toList, "_Za".toList]
    let left := (demangler.prime tools names []).demangler
    ∃ earlier last, primeRuns tools demangler names [] = earlier ++ [last] ∧ last.index = 2 ∧
      left.cache = [("y".toList, "Y".toList), ("_Za".toList, "a()".toList)] ∧
      (∃ run ∈ earlier, run.Answers "_Za".toList "a()".toList) ∧
      (∃ run ∈ earlier, run.index = 0 ∧ run.Disables) ∧
      left.pending names = last.names ∧ last.names = ["x".toList] := by
  intro tools demangler names left
  have failed : (demangler.prime tools names []).result =
      .error (.undecodable ⟨0, [0xff], .invalidStart⟩) := by
    decide +kernel
  have kept : left.cache = [("y".toList, "Y".toList), ("_Za".toList, "a()".toList)] := by
    decide +kernel
  have sent : (primeRuns tools demangler names []).getLast?.map (fun run => (run.index, run.names)) =
      some (2, ["x".toList]) := by
    decide +kernel
  have lost : 0 ∈ left.disabled := by decide +kernel
  obtain ⟨earlier, last, added, runs, -, -, -, -, cache, -, answered, disabled, pending⟩ :=
    broken_pass_keeps_answers failed
  rw [runs, List.getLast?_concat] at sent
  obtain ⟨third, waiting⟩ : last.index = 2 ∧ last.names = ["x".toList] := by simpa using sent
  obtain rfl : [("_Za".toList, "a()".toList)] = added := (List.cons.inj (kept.symm.trans cache)).2
  obtain ⟨-, -, run, made, answers⟩ := answered ("_Za".toList, "a()".toList) (by simp)
  have gone := ((disabled 0).mp lost).resolve_left List.not_mem_nil
  exact ⟨earlier, last, runs, third, kept, ⟨run, made, answers⟩, gone, pending, waiting⟩

end Xref.Demangler
