import Xref.Proofs.CommandLine.Output
import Xref.Proofs.Listing.File

namespace Xref

structure Tools.Uninterrupted (tools : Tools) : Prop where
  filter : ∀ history words input, tools.filter history words input ≠ .interrupted
  disassembler : ∀ history words, tools.disassembler history words ≠ .interrupted

/-! ## Where an interrupt can come from -/

section
variable {tree : FileTree} {directory : Place} {failure : Failure}

theorem ne_interrupted_of_lookUp {spelled : Text}
    (failed : tree.lookUp directory spelled = .error failure) : failure ≠ .interrupted := by
  unfold FileTree.lookUp at failed
  split_ifs at failed
  · cases failed
    simp
  · split at failed
    · cases failed
      simp
    · split at failed
      · cases failed
      · cases failed
        simp

theorem ne_interrupted_of_read {path : Path} (failed : tree.read directory path = .error failure) :
    failure ≠ .interrupted := by
  unfold FileTree.read at failed
  split at failed
  · rename_i lookUp
    cases failed
    exact ne_interrupted_of_lookUp lookUp
  · cases failed
    simp
  · cases failed

theorem ne_interrupted_of_ofBytes {bytes : Bytes} (failed : Config.ofBytes bytes = .error failure) :
    failure ≠ .interrupted := by
  unfold Config.ofBytes Config.parse at failed
  split at failed
  · cases failed
    simp
  · split at failed
    · cases failed
      simp
    · rename_i value _
      cases checked : Config.ofValue value with
      | error faults =>
          rw [checked] at failed
          cases failed
          simp
      | ok config =>
          rw [checked] at failed
          cases failed

theorem ne_interrupted_of_load {path : Path}
    (failed : Config.load tree directory path = .error failure) : failure ≠ .interrupted := by
  unfold Config.load at failed
  split at failed
  · rename_i read
    cases failed
    exact ne_interrupted_of_read read
  · exact ne_interrupted_of_ofBytes failed

theorem ne_interrupted_of_firstPresent {places : List Place}
    (failed : Config.firstPresent tree places = .error failure) : failure ≠ .interrupted := by
  induction places with
  | nil => cases failed
  | cons place rest ih =>
      unfold Config.firstPresent at failed
      split at failed
      · cases failed
      · split_ifs at failed
        · exact ih failed
        · cases failed
          simp
      · rename_i lookUp
        cases failed
        exact ne_interrupted_of_lookUp lookUp

theorem ne_interrupted_of_find {start : Path}
    (failed : Config.find tree directory start = .error failure) : failure ≠ .interrupted := by
  unfold Config.find at failed
  split_ifs at failed
  · cases failed
    simp
  · split at failed
    · rename_i nearest
      cases failed
      exact ne_interrupted_of_firstPresent nearest
    · cases failed
    · exact ne_interrupted_of_load (map_eq_error.mp failed)

end

section
variable {tools : Tools} {words : List Text} {names : List Symbol} {journal : Journal}
  {failure : Failure}

theorem ne_interrupted_of_disassembler {command : Command} (calm : tools.Uninterrupted)
    (failed : (Disassembler.read tools command none journal).failure = some failure) :
    failure ≠ .interrupted := by
  simp only [Disassembler.read, reduceCtorEq, if_false] at failed
  split_ifs at failed
  · cases failed
    simp
  · split at failed
    · cases failed
      simp [Disassembler.cannotRun]
    · rename_i interrupted
      exact absurd interrupted (calm.disassembler _ _)
    · cases failed
      simp [Disassembler.cannotRun]
    · simp only [Disassembler.readStarted, Option.filter_none] at failed
      split_ifs at failed
      cases failed
      simp

namespace Demangler

theorem ne_interrupted_of_judge {program : Text} {outcome : FilterOutcome}
    (calm : outcome ≠ .interrupted) (raised : judge program names outcome = .raised failure) :
    failure ≠ .interrupted := by
  cases outcome with
  | failed cause => cases raised
  | interrupted => contradiction
  | finished status output errors =>
      simp only [judge, judgeFinished, readAnswer] at raised
      split at raised
      · cases raised
        simp
      · split at raised
        · cases raised
          simp
        · split_ifs at raised

theorem ne_interrupted_of_runFilter {after : Journal} (calm : tools.Uninterrupted)
    (ran : runFilter tools words names journal = (.raised failure, after)) :
    failure ≠ .interrupted := by
  obtain ⟨raised, -⟩ := Prod.mk.inj ran
  split at raised
  · cases raised
    simp
  · split_ifs at raised
    · cases raised
      simp
    · exact ne_interrupted_of_judge (calm.filter _ _ _) raised

theorem ne_interrupted_of_sendThrough {stages : List (List Text × Nat)} {demangler : Demangler}
    (calm : tools.Uninterrupted)
    (failed : (sendThrough tools stages names demangler journal).result = .error failure) :
    failure ≠ .interrupted := by
  induction stages generalizing names demangler journal with
  | nil => cases failed
  | cons stage rest ih =>
      -- A stage that is skipped, answers or is given up leaves the rest to raise the failure.
      rcases eq_or_ne names [] with rfl | waiting
      · rw [sendThrough_empty] at failed
        cases failed
      · rcases sendThrough_cases tools stage.1 stage.2 rest demangler journal waiting with
          ⟨-, step⟩ | ⟨-, after, ⟨displays, -, step⟩ | ⟨rejection, -, step⟩ | ⟨failure, ran, step⟩⟩
        · exact ih (step ▸ failed)
        · exact ih (step ▸ failed)
        · exact ih (step ▸ failed)
        · rw [step] at failed
          cases failed
          exact ne_interrupted_of_runFilter calm ran

end Demangler

end

namespace CommandLine

section
variable {world : World} {invocation : Invocation} {config : Config} {failure : Failure}

theorem ne_interrupted_of_configure (failed : configure world invocation = .error failure) :
    failure ≠ .interrupted := by
  simp only [configure, map_eq_error] at failed
  split at failed
  · exact ne_interrupted_of_load failed
  · exact ne_interrupted_of_find (map_eq_error.mp failed)

theorem ne_interrupted_of_readLines {journal : Journal} (calm : world.tools.Uninterrupted)
    (failed : readLines world invocation config = (.error failure, journal)) :
    failure ≠ .interrupted := by
  simp only [readLines] at failed
  split_ifs at failed
  · rcases Listing.read_eq_error (Prod.mk.inj failed).1 with ⟨error, rfl⟩ | read
    · simp
    · exact ne_interrupted_of_read read
  · split at failed
    · rename_i disassembled
      cases failed
      exact ne_interrupted_of_disassembler calm disassembled
    · cases failed

theorem ne_interrupted_of_nameSymbols {g : Graph} {before after : Journal}
    (calm : world.tools.Uninterrupted)
    (failed : nameSymbols world config g before = (.error failure, after)) :
    failure ≠ .interrupted := by
  simp only [nameSymbols] at failed
  split_ifs at failed
  · obtain ⟨primed, -⟩ := Prod.mk.inj failed
    exact Demangler.ne_interrupted_of_sendThrough calm (map_eq_error.mp primed)
  · cases failed

theorem ne_interrupted_of_reportOf (calm : world.tools.Uninterrupted)
    (failed : reportOf world invocation = .error failure) : failure ≠ .interrupted := by
  unfold reportOf at failed
  split at failed
  · rename_i configured
    cases failed
    exact ne_interrupted_of_configure configured
  · split at failed
    · cases failed
      simp
    · split at failed
      · rename_i read
        cases failed
        exact ne_interrupted_of_readLines calm read
      · rename_i lines _ _
        cases rendered : Report.render (Graph.ofListing lines) invocation.options with
        | error error =>
            rw [rendered] at failed
            cases failed
            simp
        | ok report =>
            rw [rendered] at failed
            cases failed

/-! ## The status of a run -/

theorem status_of_analysis (calm : world.tools.Uninterrupted) (invocation : Invocation)
    (verbose : Bool) :
    (Result.ofAnalysis verbose (analyse world invocation)).status = 0 ∨
      (Result.ofAnalysis verbose (analyse world invocation)).status = 2 := by
  rcases analyse_outcomes world invocation with
    ⟨failure, journal, reported, failed⟩ | ⟨config, g, before, failure, after, -, unnamed, failed⟩ |
      ⟨rendering, -⟩
  · refine .inr ?_
    rw [failed]
    exact (ofAnalysis_failed (ne_interrupted_of_reportOf calm reported) verbose journal).1
  · refine .inr ?_
    rw [failed]
    exact (ofAnalysis_failed (ne_interrupted_of_nameSymbols calm unnamed) verbose after).1
  · exact .inl (result_of_rendering rendering verbose).1

end

def EndsAtUsage (world : World) (arguments : List Text) : Prop :=
  ∃ result, run world arguments = .ok result ∧ result.status = 1 ∧ result.journal = [] ∧
    result.logs = []

theorem endsAtUsage_of_no_analysis {world : World} {arguments : List Text}
    (plain : ∀ argument ∈ arguments, hasNul argument = false)
    (none : ∀ invocation, read world.tree world.directory arguments ≠ .ok (.analysis invocation)) :
    EndsAtUsage world arguments := by
  rcases meaning : read world.tree world.directory arguments with refusal | _ | invocation
  · obtain ⟨error, rfl⟩ := read_usage plain meaning
    exact ⟨.ofUsageError error, by simp only [run, meaning], rfl, rfl, rfl⟩
  · exact ⟨.ofHelp world.stdout, by simp only [run, meaning], rfl, rfl, rfl⟩
  · exact absurd meaning (none invocation)

theorem selectOptions_exclusive {sorted : Sorted} (reachable : sorted.has .reachableFrom = true)
    (unreachable : sorted.has .unreachableFrom = true) :
    selectOptions sorted = .error .exclusive := by
  unfold Sorted.has at reachable unreachable
  simp [selectOptions, Report.Options.ofSelectors, reachable, unreachable]

theorem interpret_exclusive {tree : FileTree} {directory : Place} {sorted : Sorted}
    {invocation : Invocation} (reachable : sorted.has .reachableFrom = true)
    (unreachable : sorted.has .unreachableFrom = true) :
    interpret tree directory sorted ≠ .ok (.analysis invocation) := by
  simp only [interpret, selectOptions_exclusive reachable unreachable]
  split_ifs
  · simp
  · split
    · simp
    · split
      · simp
      · split_ifs <;> simp [Except.mapError, Except.map]

/-- Without an interrupt a run ends with the status zero, one or two, and with one exactly when its
command line asks for no analysis. Then nothing was done before. Two symbols to choose from are always
such a case. -/
theorem usage_errors_come_first {arguments : List Text}
    (plain : ∀ argument ∈ arguments, hasNul argument = false) (world : World) :
    (world.tools.Uninterrupted → ∃ result, run world arguments = .ok result ∧
      (result.status = 0 ∨ result.status = 1 ∨ result.status = 2) ∧
      (result.status = 1 ↔
        ∀ invocation, read world.tree world.directory arguments ≠ .ok (.analysis invocation)) ∧
      (result.status = 1 → result.journal = [] ∧ result.logs = [])) ∧
    ∀ sorted, sortArguments arguments = .ok sorted → sorted.has .reachableFrom = true →
      sorted.has .unreachableFrom = true → EndsAtUsage world arguments := by
  constructor
  · intro calm
    by_cases asks : ∃ invocation, read world.tree world.directory arguments = .ok (.analysis invocation)
    · obtain ⟨invocation, meaning⟩ := asks
      refine ⟨.ofAnalysis invocation.verbose (analyse world invocation), by simp only [run, meaning], ?_⟩
      rcases status_of_analysis calm invocation invocation.verbose with zero | two
      · simp [zero, meaning]
      · simp [two, meaning]
    · rw [not_exists] at asks
      obtain ⟨result, ran, status, journal, logs⟩ := endsAtUsage_of_no_analysis plain asks
      exact ⟨result, ran, .inr (.inl status), ⟨fun _ => asks, fun _ => status⟩, fun _ => ⟨journal, logs⟩⟩
  · intro sorted done reachable unreachable
    apply endsAtUsage_of_no_analysis plain
    intro invocation
    rw [read, done]
    exact interpret_exclusive reachable unreachable

theorem usage_errors_come_first_exclusive :
    (∃ result, run highlighted ["a.out"] = .ok result ∧
      (result.status = 0 ∨ result.status = 1 ∨ result.status = 2)) ∧
    EndsAtUsage highlighted ["-u", "b", "-f", "rdeps", "-r", "a", "a.out"] := by
  have calm : highlighted.tools.Uninterrupted := ⟨by simp [highlighted], by simp [highlighted]⟩
  have single : ∀ argument ∈ (["a.out"] : List Text), hasNul argument = false := by decide
  have several : ∀ argument ∈ (["-u", "b", "-f", "rdeps", "-r", "a", "a.out"] : List Text),
      hasNul argument = false := by decide
  have sorted : sortArguments ["-u", "b", "-f", "rdeps", "-r", "a", "a.out"] =
      .ok ⟨[(.unreachableFrom, "b"), (.format, "rdeps"), (.reachableFrom, "a")], ["a.out"]⟩ :=
    eq_ok_of_toOption (by decide +kernel)
  obtain ⟨result, ran, status, -⟩ := (usage_errors_come_first single highlighted).1 calm
  exact ⟨⟨result, ran, status⟩,
    (usage_errors_come_first several highlighted).2 _ sorted (by decide) (by decide)⟩

end CommandLine

end Xref
