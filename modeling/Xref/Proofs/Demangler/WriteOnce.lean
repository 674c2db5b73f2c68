import Mathlib.Data.List.Perm.Subperm
import Xref.Proofs.Demangler.Executions
import Xref.Proofs.Demangler.Pass

namespace Xref.Demangler

def known (demangler : Demangler) : List Symbol := demangler.cache.map Prod.fst

structure WellKept (demangler : Demangler) : Prop where
  distinct : demangler.known.Nodup
  named : [] ∉ demangler.known

def sentTo (index : Nat) (runs : List Execution) : List Symbol :=
  (runs.filter fun run => run.index == index).flatMap Execution.names

section
variable {tools : Tools} {stages : List (List Text × Nat)} {names : List Symbol} {name : Symbol}
  {demangler last : Demangler} {journal later : Journal} {runs more : List Execution}
  {run : Execution} {outcome : Outcome Unit} {index : Nat}

theorem isSome_lookup : (demangler.cache.lookup name).isSome = true ↔ name ∈ demangler.known := by
  rw [List.lookup_isSome_iff, known, List.mem_map]
  simp only [beq_iff_eq, eq_comm (a := name)]

theorem sentTo_append : sentTo index (runs ++ more) = sentTo index runs ++ sentTo index more := by
  rw [sentTo, List.filter_append, List.flatMap_append]
  rfl

theorem sentTo_cons : sentTo index (run :: runs) =
    (if run.index = index then run.names else []) ++ sentTo index runs := by
  by_cases same : run.index = index <;> simp [sentTo, same]

theorem subset_sentTo (made : run ∈ runs) : run.names ⊆ sentTo run.index runs := by
  intro name sent
  rw [sentTo, List.mem_flatMap]
  exact ⟨run, List.mem_filter.mpr ⟨made, beq_self_eq_true run.index⟩, sent⟩

/-! ## One execution -/

theorem length_of_verdict {displays : List Text} (answered : run.verdict = .displays displays) :
    displays.length = run.names.length := by
  unfold Execution.verdict at answered
  split at answered
  · cases answered
  · obtain ⟨output, read⟩ := readAnswer_of_judge answered
    exact length_of_readAnswer read

theorem remaining_sublist (run : Execution) : run.remaining.Sublist run.names := by
  unfold Execution.remaining
  split
  · exact sublist_unchanged (length_of_verdict ‹_›)
  · exact .refl _

theorem cache_prefix_leaves (run : Execution) : run.found.cache <+: run.leaves.cache := by
  unfold Execution.leaves
  cases run.verdict with
  | displays displays => exact List.prefix_append _ _
  | rejected rejection => exact List.prefix_rfl
  | raised failure => exact List.prefix_rfl

theorem known_leaves_perm (run : Execution) :
    (run.leaves.known ++ run.remaining).Perm (run.found.known ++ run.names) := by
  unfold Execution.leaves Execution.remaining
  cases answered : run.verdict with
  | displays displays =>
      have firsts : (run.names.zip displays).map Prod.fst = run.names :=
        List.map_fst_zip (length_of_verdict answered).ge
      have parts := (List.filter_append_perm (fun entry => decide (entry.2 ≠ entry.1))
        (run.names.zip displays)).map Prod.fst
      rw [firsts, List.map_append] at parts
      simp only [known, keepChanged, unchanged, List.map_append, List.append_assoc]
      apply List.Perm.append_left
      simpa using parts
  | rejected rejection => exact .refl _
  | raised failure => exact .refl _

/-! ## One pass -/

theorem cache_of_passes (passes : Passes tools stages names demangler journal runs outcome) :
    demangler.cache <+: outcome.demangler.cache := by
  induction passes with
  | settled => exact List.prefix_rfl
  | through => exact List.prefix_append _ _
  | skipped _ _ ih => exact ih
  | failed rest enabled executed _ =>
      obtain ⟨-, -, -, rfl⟩ := fields_of_execute executed
      exact cache_prefix_leaves _
  | further enabled executed _ ih =>
      obtain ⟨-, -, -, rfl⟩ := fields_of_execute executed
      exact (cache_prefix_leaves _).trans ih

theorem known_of_passes (passes : Passes tools stages names demangler journal runs outcome) :
    ∃ left, (outcome.demangler.known ++ left).Perm (demangler.known ++ names) ∧
      (outcome.result = .ok () → left = []) := by
  induction passes with
  | settled => exact ⟨[], .refl _, fun _ => rfl⟩
  | through names demangler _ =>
      exact ⟨[], by simp [known, keepRaw, Function.comp_def], fun _ => rfl⟩
  | skipped _ _ ih => exact ih
  | failed rest enabled executed _ =>
      obtain ⟨-, -, rfl, rfl⟩ := fields_of_execute executed
      exact ⟨_, known_leaves_perm _, fun finished => by cases finished⟩
  | further enabled executed _ ih =>
      obtain ⟨left, known, finished⟩ := ih
      obtain ⟨-, -, rfl, rfl⟩ := fields_of_execute executed
      exact ⟨left, known.trans (known_leaves_perm _), finished⟩

theorem index_of_passes (passes : Passes tools stages names demangler journal runs outcome) :
    (runs.map Execution.index).Sublist (stages.map Prod.snd) := by
  induction passes with
  | settled => exact List.nil_sublist _
  | through => exact .refl _
  | skipped _ _ ih => exact ih.cons _
  | failed rest enabled executed _ =>
      obtain ⟨-, rfl, -⟩ := fields_of_execute executed
      exact (List.nil_sublist _).cons_cons _
  | further enabled executed _ ih =>
      obtain ⟨-, rfl, -⟩ := fields_of_execute executed
      exact ih.cons_cons _

theorem sentTo_of_passes (passes : Passes tools stages names demangler journal runs outcome)
    (distinct : (stages.map Prod.snd).Nodup) (index : Nat) : (sentTo index runs).Sublist names := by
  induction passes with
  | settled => exact .refl _
  | through => exact List.nil_sublist _
  | skipped _ _ ih => exact ih (List.nodup_cons.mp distinct).2
  | @failed _ _ _ _ _ _ run _ enabled executed _ =>
      obtain ⟨-, -, rfl, -⟩ := fields_of_execute executed
      rw [sentTo_cons]
      split_ifs <;> simp [sentTo]
  | @further _ _ _ _ _ _ run runs _ enabled executed passes ih =>
      obtain ⟨-, rfl, rfl, -⟩ := fields_of_execute executed
      obtain ⟨other, distinct⟩ := List.nodup_cons.mp distinct
      by_cases same : run.index = index
      · -- The filters after this one stand at other positions.
        have none : sentTo index runs = [] := by
          rw [sentTo, List.filter_eq_nil_iff.mpr, List.flatMap_nil]
          intro later made again
          have listed : later.index ∈ runs.map Execution.index := List.mem_map_of_mem made
          rw [eq_of_beq again, ← same] at listed
          exact other ((index_of_passes passes).mem listed)
        rw [sentTo_cons, if_pos same, none, List.append_nil]
      · rw [sentTo_cons, if_neg same, List.nil_append]
        exact (ih distinct).trans (remaining_sublist run)

/-! ## Many passes -/

theorem nil_not_mem_pending : [] ∉ demangler.pending names :=
  fun waiting => (mem_pending.mp waiting).2.1 rfl

theorem nodup_zipIdx_positions {α : Type} (items : List α) : (items.zipIdx.map Prod.snd).Nodup := by
  rw [List.zipIdx_map_snd]
  exact List.nodup_range'

theorem WellKept.distinct_pending (kept : demangler.WellKept) (names : List Symbol) :
    (demangler.known ++ demangler.pending names).Nodup := by
  refine List.nodup_append.mpr ⟨kept.distinct, nodup_pending demangler names, ?_⟩
  rintro name old _ new rfl
  rw [← isSome_lookup, (mem_pending.mp new).2.2] at old
  cases old

theorem WellKept.prime (kept : demangler.WellKept) (names : List Symbol) :
    (demangler.prime tools names journal).demangler.WellKept := by
  obtain ⟨left, moved, -⟩ := known_of_passes (passes_prime tools demangler names journal)
  constructor
  · exact (moved.nodup_iff.mpr (kept.distinct_pending names)).of_append_left
  · intro empty
    rcases List.mem_append.mp (moved.mem_iff.mp (List.mem_append_left left empty)) with old | new
    · exact kept.named old
    · exact nil_not_mem_pending new

structure Keeps (demangler : Demangler) (runs : List Execution) (last : Demangler) : Prop where
  cache : demangler.cache <+: last.cache
  wellKept : demangler.WellKept → last.WellKept
  named : ∀ run ∈ runs, [] ∉ run.names

theorem keeps_of_primings {smooth : Prop}
    (primings : Primings tools smooth demangler journal runs last later) :
    Keeps demangler runs last := by
  induction primings with
  | none => exact ⟨List.prefix_rfl, id, by simp⟩
  | @prime demangler _ journal _ _ names _ _ ih =>
      have passes := passes_prime tools demangler names journal
      have cache := (cache_of_passes passes).trans ih.cache
      refine ⟨cache, fun kept => ih.wellKept (kept.prime names), ?_⟩
      refine List.forall_mem_append.mpr ⟨fun run made empty => ?_, ih.named⟩
      have sent := sentTo_of_passes passes (nodup_zipIdx_positions _) run.index
      exact nil_not_mem_pending (sent.mem (subset_sentTo made empty))

theorem sentTo_of_primings {smooth : Prop}
    (primings : Primings tools smooth demangler journal runs last later) (fine : smooth)
    (index : Nat) : (demangler.known ++ sentTo index runs).Subperm last.known := by
  induction primings with
  | none demangler _ => simpa [sentTo] using List.Subperm.refl demangler.known
  | @prime demangler last journal _ runs names finished _ ih =>
      have passes := passes_prime tools demangler names journal
      have sent := sentTo_of_passes passes (nodup_zipIdx_positions _) index
      obtain ⟨left, moved, answered⟩ := known_of_passes passes
      rw [answered (finished fine), List.append_nil] at moved
      have filled :
          (demangler.known ++ sentTo index (primeRuns tools demangler names journal)).Subperm
            (demangler.prime tools names journal).demangler.known :=
        (sent.append_left demangler.known).subperm.trans moved.symm.subperm
      rw [sentTo_append, ← List.append_assoc]
      exact ((List.subperm_append_right _).mpr filled).trans ih

/-! ## Answers -/

theorem knows_of_demangle {shown : Text}
    (answered : (demangler.demangle tools name journal).result = .ok shown) :
    (demangler.demangle tools name journal).demangler.Knows name ∧
      (demangler.demangle tools name journal).demangler.kept name = shown := by
  by_cases knows : demangler.Knows name
  · rw [demangle_of_knows knows] at answered ⊢
    exact ⟨knows, Except.ok.inj answered⟩
  · have missing : ¬ (demangler.cache.lookup name).isSome = true :=
      fun cached => knows (.inr cached)
    rw [demangle, if_neg missing] at answered ⊢
    obtain ⟨_, primed, rfl⟩ := map_eq_ok.mp answered
    exact ⟨knows_of_prime primed name List.mem_cons_self, rfl⟩

theorem kept_of_prefix (grown : demangler.cache <+: last.cache) (named : [] ∉ last.known)
    (knows : demangler.Knows name) : last.Knows name ∧ last.kept name = demangler.kept name := by
  obtain ⟨more, grown⟩ := grown
  unfold kept
  rcases knows with rfl | cached
  · have missing : last.cache.lookup [] = none := by
      rwa [← Option.not_isSome_iff_eq_none, isSome_lookup]
    have before : demangler.cache.lookup [] = none := by
      rw [← grown, List.lookup_append, Option.or_eq_none_iff] at missing
      exact missing.1
    exact ⟨.inl rfl, by rw [missing, before]⟩
  · obtain ⟨display, found⟩ := Option.isSome_iff_exists.mp cached
    have later : last.cache.lookup name = some display := grown ▸ lookup_append_of_some found
    exact ⟨.inr (by rw [later, Option.isSome_some]), by rw [later, found]⟩

theorem text_of_showLines {report : List Report.Line} {texts : List Text} {line : Report.Line}
    {place : Nat} (wellKept : demangler.WellKept) (knows : demangler.Knows name)
    (shown : (showLines tools report demangler journal).result = .ok texts)
    (listed : report[place]? = some line) (displayed : line.displayed? = some name) :
    texts[place]? = some (line.write (demangler.kept name)) := by
  induction report generalizing demangler journal texts place with
  | nil => cases listed
  | cons first rest ih =>
      simp only [showLines] at shown
      cases written : (demangler.showLine tools first journal).result with
      | error failure => simp [written] at shown
      | ok text =>
          simp only [written] at shown
          obtain ⟨others, rested, rfl⟩ := map_eq_ok.mp shown
          cases place with
          | zero =>
              obtain rfl : first = line := Option.some.inj listed
              simp only [showLine, displayed, demangle_of_knows knows] at written
              rw [List.getElem?_cons_zero, ← Except.ok.inj written]
          | succ place =>
              have keeps : Keeps demangler (lineRuns tools demangler first journal) _ :=
                keeps_of_primings (primings_showLine False.elim)
              obtain ⟨knows, same⟩ :=
                kept_of_prefix keeps.cache (keeps.wellKept wellKept).named knows
              rw [List.getElem?_cons_succ, ← same]
              exact ih (keeps.wellKept wellKept) knows rested listed

/-! ## Many operations -/

theorem keeps_operations (tools : Tools) (operations : List Operation) (demangler : Demangler)
    (journal : Journal) :
    Keeps demangler (Operation.allRuns tools operations demangler journal)
      (Operation.leftBy tools operations demangler journal).1 :=
  keeps_of_primings (primings_operations tools operations demangler journal)

theorem cache_leftBy_append (tools : Tools) (earlier later : List Operation) (demangler : Demangler)
    (journal : Journal) : (Operation.leftBy tools earlier demangler journal).1.cache <+:
      (Operation.leftBy tools (earlier ++ later) demangler journal).1.cache := by
  rw [Operation.leftBy_append]
  exact (keeps_operations tools later _ _).cache

theorem knows_of_answered (wellKept : demangler.WellKept) (earlier between : List Operation)
    {shown : Text} (answered :
      ((Operation.leftBy tools earlier demangler journal).1.demangle tools name
        (Operation.leftBy tools earlier demangler journal).2).result = .ok shown) :
    let left := Operation.leftBy tools (earlier ++ .demangle name :: between) demangler journal
    left.1.Knows name ∧ left.1.kept name = shown := by
  intro left
  obtain ⟨knows, kept⟩ := knows_of_demangle answered
  have reached : (Operation.leftBy tools (earlier ++ [.demangle name]) demangler journal).1 =
      ((Operation.leftBy tools earlier demangler journal).1.demangle tools name
        (Operation.leftBy tools earlier demangler journal).2).demangler := by
    rw [Operation.leftBy_append]
    rfl
  have grown := cache_leftBy_append tools (earlier ++ [.demangle name]) between demangler journal
  rw [reached, List.append_assoc, List.singleton_append] at grown
  have last : left.1.WellKept := (keeps_operations tools _ demangler journal).wellKept wellKept
  obtain ⟨knows, same⟩ := kept_of_prefix grown last.named knows
  exact ⟨knows, same.trans kept⟩

end

theorem wellKept_ofChain (commands : List (List Text)) : (ofChain commands).WellKept :=
  ⟨by simp [known, ofChain], by simp [known, ofChain]⟩

/-- Whatever the filters answer, and however often an operation fails, the cache never has two
entries for a name and never loses or changes one: the first answer about a name is the answer for
good, alone and in a report. The empty name is never sent, and as long as no operation fails no name
is sent twice to the same filter. -/
theorem display_names_are_final (tools : Tools) (commands : List (List Text))
    (operations : List Operation) (journal : Journal) :
    let runs := Operation.allRuns tools operations (ofChain commands) journal
    let left := Operation.leftBy tools operations (ofChain commands) journal
    left.2 = journal ++ runs.flatMap Execution.events ∧
    left.1.known.Nodup ∧
    (∀ earlier later, operations = earlier ++ later →
      (Operation.leftBy tools earlier (ofChain commands) journal).1.cache <+: left.1.cache) ∧
    (∀ earlier between name shown, operations = earlier ++ .demangle name :: between →
      let before := Operation.leftBy tools earlier (ofChain commands) journal
      (before.1.demangle tools name before.2).result = .ok shown →
        left.1.demangle tools name left.2 = ⟨.ok shown, left.1, left.2⟩ ∧
        ∀ report texts, (showLines tools report left.1 left.2).result = .ok texts →
          ∀ (place : Nat) line, report[place]? = some line → line.displayed? = some name →
            texts[place]? = some (line.write shown)) ∧
    (∀ run ∈ runs, [] ∉ run.names) ∧
    ((∀ result ∈ Operation.performAll tools operations (ofChain commands) journal,
        ∃ texts, result = .ok texts) →
      ∀ index, (sentTo index runs).Nodup) := by
  intro runs left
  have keeps := keeps_operations tools operations (ofChain commands) journal
  have wellKept : left.1.WellKept := keeps.wellKept (wellKept_ofChain commands)
  refine ⟨journal_of_primings (primings_operations tools operations (ofChain commands) journal),
    wellKept.distinct, ?_, ?_, keeps.named, ?_⟩
  · rintro earlier later rfl
    exact cache_leftBy_append tools earlier later _ journal
  · rintro earlier between name shown rfl before answered
    obtain ⟨knows, kept⟩ := knows_of_answered (wellKept_ofChain commands) earlier between answered
    refine ⟨by rw [demangle_of_knows knows, kept], ?_⟩
    intro report texts written place line listed displayed
    rw [text_of_showLines wellKept knows written listed displayed, kept]
  · intro fine index
    obtain ⟨names, sent, among⟩ :=
      sentTo_of_primings (primings_performAll fun _ => fine) trivial index
    exact sent.nodup_iff.mp (wellKept.distinct.sublist among)

/-- The filter gives a longer answer each time it is run, and it is not run on `x` again. -/
theorem display_names_are_final_counting :
    let tools : Tools := {
      filter history _ input := .finished 0 (Utf8.encode ((Text.lines input).flatMap fun line =>
        line ++ List.replicate history.length '!' ++ "\n")) []
      disassembler _ _ := .failed .noEntry }
    let operations : List Operation := [.demangle "x", .prime ["y", "", "x"], .demangle "y"]
    let runs := Operation.allRuns tools operations (ofChain []) []
    let left := Operation.leftBy tools operations (ofChain []) []
    left.1.demangle tools "x" left.2 = ⟨.ok "x!".toList, left.1, left.2⟩ ∧
      (∀ run ∈ runs, [] ∉ run.names) ∧ sentTo 0 runs = ["x".toList, "y".toList] ∧
      (sentTo 0 runs).Nodup := by
  intro tools operations runs left
  obtain ⟨-, -, -, answers, named, once⟩ := display_names_are_final tools [] operations []
  have answered : ((ofChain []).demangle tools "x" []).result = .ok "x!".toList :=
    eq_ok_of_toOption (by decide +kernel)
  have fine : ∀ result ∈ Operation.performAll tools operations (ofChain []) [],
      ∃ texts, result = .ok texts := by
    have given : ∀ result ∈ Operation.performAll tools operations (ofChain []) [],
        result.toOption.isSome = true := by decide +kernel
    intro result listed
    obtain ⟨texts, given⟩ := Option.isSome_iff_exists.mp (given result listed)
    exact ⟨texts, eq_ok_of_toOption given⟩
  exact ⟨(answers [] _ "x" "x!" rfl answered).1, named, by decide +kernel, once fine 0⟩

end Xref.Demangler
