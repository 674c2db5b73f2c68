import Xref.Proofs.Demangler.Executions

namespace Xref.Demangler

namespace Execution

def Disables (run : Execution) : Prop :=
  (∃ cause, run.ending = .ran (.failed cause)) ∨
  ∃ status output errors printed message, run.ending = .ran (.finished status output errors) ∧
    Utf8.decode output = .ok printed ∧ Utf8.decode errors = .ok message ∧
    (status ≠ 0 ∨ printed.displayLines.length ≠ run.names.length)

theorem disables_iff {run : Execution} : run.Disables ↔ run.rejection?.isSome = true := by
  obtain ⟨index, words, names, found, ending⟩ := run
  cases ending with
  | refused failure => simp [Disables, rejection?, verdict]
  | ran outcome =>
      cases outcome with
      | failed cause => simp [Disables, rejection?, verdict, judge]
      | interrupted => simp [Disables, rejection?, verdict, judge]
      | finished status output errors =>
          simp only [Disables, rejection?, verdict, judge, judgeFinished, readAnswer]
          cases readable : Utf8.decode output with
          | error error => simp [readable]
          | ok printed =>
              cases decoded : Utf8.decode errors with
              | error error => simp [decoded]
              | ok message =>
                  by_cases succeeded : status = 0
                  · by_cases counted : printed.displayLines.length = names.length
                    · simp [readable, decoded, succeeded, counted]
                    · simp [readable, decoded, succeeded, counted]
                  · simp [readable, decoded, succeeded]

def givenUp (run : Execution) : List Nat := (run.rejection?.map fun _ => run.index).toList

theorem mem_givenUp {run : Execution} {index : Nat} :
    index ∈ run.givenUp ↔ run.index = index ∧ run.Disables := by
  rw [disables_iff, givenUp]
  cases run.rejection? <;> simp [eq_comm]

theorem leaves_disabled (run : Execution) :
    run.leaves.disabled = run.found.disabled ++ run.givenUp := by
  unfold leaves givenUp rejection?
  cases run.verdict <;> simp [keepChanged]

theorem leaves_chain (run : Execution) : run.leaves.chain = run.found.chain := by
  unfold leaves
  cases run.verdict <;> rfl

end Execution

/-- What lies between two moments in the life of a demangler. -/
structure Spans (demangler : Demangler) (runs : List Execution) (last : Demangler) : Prop where
  chain : last.chain = demangler.chain
  disabled : last.disabled = demangler.disabled ++ runs.flatMap Execution.givenUp
  distinct : demangler.disabled.Nodup → last.disabled.Nodup
  words : ∀ run ∈ runs, demangler.chain[run.index]? = some run.words
  enabled : ∀ run ∈ runs, run.index ∉ run.found.disabled
  -- Nothing that was given up before is in use again.
  remembered : ∀ run ∈ runs, demangler.disabled ⊆ run.found.disabled
  apart : runs.Pairwise fun earlier later => earlier.Disables → later.index ≠ earlier.index

section
variable {tools : Tools} {demangler middle last : Demangler} {journal later : Journal}
  {runs more : List Execution} {run : Execution}

theorem spans_nothing (chain : last.chain = demangler.chain)
    (disabled : last.disabled = demangler.disabled) : Spans demangler [] last where
  chain := chain
  disabled := by simp [disabled]
  distinct := by simp [disabled]
  words := by simp
  enabled := by simp
  remembered := by simp
  apart := .nil

theorem spans_execution {words : List Text} {index : Nat} {names : List Symbol}
    (executed : run = execute tools words index names demangler journal)
    (located : demangler.chain[index]? = some words) (enabled : index ∉ demangler.disabled) :
    Spans demangler [run] run.leaves := by
  obtain ⟨rfl, rfl, -, rfl⟩ := fields_of_execute executed
  constructor
  · exact run.leaves_chain
  · simp [run.leaves_disabled]
  · intro distinct
    rw [run.leaves_disabled, List.nodup_append]
    refine ⟨distinct, by unfold Execution.givenUp; cases run.rejection? <;> simp, ?_⟩
    rintro other given _ new rfl
    rw [← (Execution.mem_givenUp.mp new).1] at given
    exact enabled given
  · simpa using located
  · simpa using enabled
  · simp
  · exact List.pairwise_singleton _ run

theorem Spans.disables_mem (spans : Spans demangler runs last) (made : run ∈ runs)
    (disables : run.Disables) : run.index ∈ last.disabled := by
  rw [spans.disabled]
  exact List.mem_append_right _
    (List.mem_flatMap.mpr ⟨run, made, Execution.mem_givenUp.mpr ⟨rfl, disables⟩⟩)

theorem Spans.trans (first : Spans demangler runs middle) (second : Spans middle more last) :
    Spans demangler (runs ++ more) last where
  chain := second.chain.trans first.chain
  disabled := by rw [second.disabled, first.disabled, List.flatMap_append, List.append_assoc]
  distinct := second.distinct ∘ first.distinct
  words := List.forall_mem_append.mpr ⟨first.words, first.chain ▸ second.words⟩
  enabled := List.forall_mem_append.mpr ⟨first.enabled, second.enabled⟩
  remembered := by
    refine List.forall_mem_append.mpr ⟨first.remembered, fun run made => ?_⟩
    have kept : demangler.disabled ⊆ middle.disabled := by
      rw [first.disabled]
      exact List.subset_append_left _ _
    exact List.Subset.trans kept (second.remembered run made)
  apart := by
    refine List.pairwise_append.mpr ⟨first.apart, second.apart, ?_⟩
    intro earlier made run again disables same
    have given := second.remembered run again (first.disables_mem made disables)
    exact second.enabled run again (same ▸ given)

theorem spans_of_passes {stages : List (List Text × Nat)} {names : List Symbol}
    {outcome : Outcome Unit} (passes : Passes tools stages names demangler journal runs outcome)
    (located : ∀ stage ∈ stages, demangler.chain[stage.2]? = some stage.1) :
    Spans demangler runs outcome.demangler := by
  induction passes with
  | settled => exact spans_nothing rfl rfl
  | through names demangler _ =>
      have chain : (demangler.keepRaw names).chain = demangler.chain := rfl
      exact spans_nothing chain rfl
  | skipped _ _ ih => exact ih (List.forall_mem_cons.mp located).2
  | failed rest enabled executed _ =>
      exact spans_execution executed (List.forall_mem_cons.mp located).1 enabled
  | further enabled executed _ ih =>
      obtain ⟨first, others⟩ := List.forall_mem_cons.mp located
      have one := spans_execution executed first enabled
      exact one.trans (ih (one.chain ▸ others))

theorem spans_of_primings {smooth : Prop}
    (primings : Primings tools smooth demangler journal runs last later) :
    Spans demangler runs last := by
  induction primings with
  | none => exact spans_nothing rfl rfl
  | @prime demangler _ journal _ _ names _ _ ih =>
      have located : ∀ stage ∈ demangler.chain.zipIdx, demangler.chain[stage.2]? = some stage.1 :=
        fun stage listed => List.mem_zipIdx_iff_getElem?.mp listed
      exact (spans_of_passes (passes_prime tools demangler names journal) located).trans ih

def warningsAbout (index : Nat) (runs : List Execution) : List (Level × Text) :=
  Journal.logs false ((runs.filter fun run => run.index == index).flatMap Execution.events)

theorem logs_events (run : Execution) : Journal.logs false run.events =
    (run.rejection?.map fun rejection => (.warning, rejection.message run.words)).toList := by
  unfold Execution.events
  cases run.rejection? <;> simp [Journal.logs, announcement]

theorem length_warningsAbout (index : Nat) (runs : List Execution) :
    (warningsAbout index runs).length = (runs.flatMap Execution.givenUp).count index := by
  induction runs with
  | nil => rfl
  | cons run runs ih =>
      have logs (first rest : Journal) : Journal.logs false (first ++ rest) =
          Journal.logs false first ++ Journal.logs false rest := List.filterMap_append
      unfold warningsAbout at ih ⊢
      by_cases same : run.index = index
      · simp only [List.filter_cons, same, beq_self_eq_true, if_true, List.flatMap_cons, logs,
          List.length_append, ih, List.count_append, logs_events, Execution.givenUp]
        cases run.rejection? <;> simp
      · simp only [List.filter_cons, beq_eq_false_iff_ne.mpr same, Bool.false_eq_true, if_false, ih,
          List.flatMap_cons, List.count_append, Execution.givenUp]
        cases run.rejection? <;> simp [same]

end

/-- Over the whole life of a demangler, a filter is given up exactly by an execution that disables
it. It is not run again, and it has one warning if it was given up and none otherwise. -/
theorem filters_given_up_once (tools : Tools) (commands : List (List Text))
    (operations : List Operation) (journal : Journal) :
    let runs := Operation.allRuns tools operations (ofChain commands) journal
    let left := Operation.leftBy tools operations (ofChain commands) journal
    left.2 = journal ++ runs.flatMap Execution.events ∧
    (∀ run ∈ runs, (ofChain commands).chain[run.index]? = some run.words) ∧
    (∀ index, index ∈ left.1.disabled ↔ ∃ run ∈ runs, run.index = index ∧ run.Disables) ∧
    (∀ run ∈ runs, run.index ∉ run.found.disabled ∧
      (run.index ∈ run.leaves.disabled ↔ run.Disables)) ∧
    (runs.Pairwise fun earlier later => earlier.Disables → later.index ≠ earlier.index) ∧
    ∀ index, (warningsAbout index runs).length = if index ∈ left.1.disabled then 1 else 0 := by
  intro runs left
  have primings : Primings tools False (ofChain commands) journal runs left.1 left.2 :=
    primings_operations tools operations _ journal
  have spans := spans_of_primings primings
  have given : left.1.disabled = runs.flatMap Execution.givenUp := by
    simpa [ofChain] using spans.disabled
  have distinct : left.1.disabled.Nodup := spans.distinct (by simp [ofChain])
  refine ⟨journal_of_primings primings, spans.words, ?_, ?_, spans.apart, ?_⟩
  · intro index
    rw [given, List.mem_flatMap]
    simp only [Execution.mem_givenUp]
  · intro run made
    have enabled := spans.enabled run made
    refine ⟨enabled, ?_⟩
    rw [run.leaves_disabled, List.mem_append, or_iff_right enabled, Execution.mem_givenUp,
      and_iff_right rfl]
  · intro index
    rw [length_warningsAbout, ← given, distinct.count]

/-- The second filter is interrupted when it is first run and stays in use. When it is run again it
prints two lines for one name, and that is its end. -/
theorem filters_given_up_once_interrupted :
    let tools : Tools := {
      filter history words _ :=
        if words = ["none".toList] then .failed .noEntry
        else if history.length < 6 then .interrupted
        else .finished 0 (Utf8.encode "a\nb\n") []
      disassembler _ _ := .failed .noEntry }
    let operations : List Operation := [.demangle "x", .demangle "x", .prime ["x", "y"]]
    let runs := Operation.allRuns tools operations (ofChain [["none"], ["odd"]]) []
    runs.map Execution.index = [0, 1, 1] ∧
      (∃ run ∈ runs, run.ending = .ran .interrupted ∧ run.index = 1 ∧
        run.index ∉ run.leaves.disabled) ∧
      (∃ run ∈ runs, run.index = 1 ∧ run.Disables) ∧ (warningsAbout 1 runs).length = 1 := by
  intro tools operations runs
  obtain ⟨-, -, given, moments, -, warned⟩ :=
    filters_given_up_once tools [["none"], ["odd"]] operations []
  have disabled : 1 ∈ (Operation.leftBy tools operations (ofChain [["none"], ["odd"]])
      []).1.disabled := by
    decide +kernel
  have interrupted : ∃ run ∈ runs, run.ending = .ran .interrupted ∧ run.index = 1 := by
    decide +kernel
  refine ⟨by decide +kernel, ?_, (given 1).mp disabled, by rw [warned 1, if_pos disabled]⟩
  obtain ⟨run, made, ending, position⟩ := interrupted
  refine ⟨run, made, ending, position, fun listed => ?_⟩
  have disables := (moments run made).2.mp listed
  simp [Execution.Disables, ending] at disables

end Xref.Demangler
