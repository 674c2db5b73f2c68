import Xref.Proofs.CommandLine.Processes

namespace Xref.CommandLine

def World.closingAfter (world : World) (count : Nat) : World :=
  { world with stdout := { world.stdout with capacity := some count } }

def closingNote (count total : Nat) : Journal :=
  if count < total then [.log .debug "Output closed early"] else []

theorem processes_closingNote (count total : Nat) : (closingNote count total).processes = [] := by
  unfold closingNote
  split_ifs <;> rfl

theorem Analysis.printing_of_accepting {stdout : Stdout} (accepting : stdout.capacity = none)
    (texts : List Text) (journal : Journal) :
    printing stdout texts journal = ⟨texts, false, journal, none⟩ := by
  simp only [printing, accepting]

theorem Analysis.printing_closing (stdout : Stdout) (count : Nat) (texts : List Text)
    (journal : Journal) :
    printing { stdout with capacity := some count } texts journal =
      ⟨texts.take count, decide (count < texts.length) && stdout.hasDescriptor,
        journal ++ closingNote count texts.length, none⟩ := by
  simp only [printing, closingNote]
  split_ifs with short
  · simp [short]
  · simp [short, List.take_of_length_le (not_lt.mp short)]

section
variable {world : World} {invocation : Invocation} {arguments : List Text} {result : Result}

/-- What comes before printing does not look at standard output. -/
def Rendering.closing (rendering : Rendering world invocation) (count : Nat) :
    Rendering (world.closingAfter count) invocation where
  config := rendering.config
  lines := rendering.lines
  names := rendering.names
  report := rendering.report
  texts := rendering.texts
  afterReading := rendering.afterReading
  afterNaming := rendering.afterNaming
  configured := rendering.configured
  read := rendering.read
  named := rendering.named
  rendered := rendering.rendered
  shown := rendering.shown

theorem Rendering.analyse_of_accepting (rendering : Rendering world invocation)
    (accepting : world.stdout.capacity = none) :
    analyse world invocation =
      ⟨rendering.texts.map Text.withoutSequences, false, rendering.afterNaming, none⟩ := by
  rw [rendering.analyse_eq, Analysis.printing_of_accepting accepting]

theorem Rendering.analyse_closing (rendering : Rendering world invocation) (count : Nat) :
    let texts := rendering.texts.map Text.withoutSequences
    analyse (world.closingAfter count) invocation =
      ⟨texts.take count, decide (count < texts.length) && world.stdout.hasDescriptor,
        rendering.afterNaming ++ closingNote count texts.length, none⟩ := by
  rw [(rendering.closing count).analyse_eq]
  exact Analysis.printing_closing world.stdout count _ _

theorem rendering_of_success (ran : run world arguments = .ok result) (succeeded : result.status = 0) :
    ∃ invocation, read world.tree world.directory arguments = .ok (.analysis invocation) ∧
      result = .ofAnalysis invocation.verbose (analyse world invocation) ∧
      Nonempty (Rendering world invocation) := by
  unfold run at ran
  split at ran
  · cases ran
  · cases ran
    exact absurd succeeded Nat.one_ne_zero
  · cases ran
    exact absurd succeeded Nat.one_ne_zero
  · rename_i invocation meaning
    cases ran
    exact ⟨invocation, meaning, rfl, (succeeds_iff_rendering _).mp succeeded⟩

end

/-- A run that succeeds on a standard output that takes every line also succeeds on one whose reader goes
away. It prints the lines that are taken, runs the same processes and says nothing on standard error;
standard output is pointed at nothing if lines are left over and it has a descriptor. -/
theorem closed_output_cuts_report {world : World} {arguments : List Text} {full : Result}
    (accepting : world.stdout.capacity = none) (ran : run world arguments = .ok full)
    (succeeded : full.status = 0) (count : Nat) :
    ∃ cut, run (world.closingAfter count) arguments = .ok cut ∧ cut.status = 0 ∧
      cut.written = full.written.take (min count full.written.length) ∧
      cut.journal.processes = full.journal.processes ∧
      cut.errors = [] ∧
      (cut.silenced = true ↔ count < full.written.length ∧ world.stdout.hasDescriptor = true) ∧
      cut.journal = full.journal ++ closingNote count full.written.length ∧
      ∃ verbose, full.logs = full.journal.logs verbose ∧ cut.logs = cut.journal.logs verbose := by
  obtain ⟨invocation, meaning, rfl, ⟨rendering⟩⟩ := rendering_of_success ran succeeded
  have started : run (world.closingAfter count) arguments =
      .ok (.ofAnalysis invocation.verbose (analyse (world.closingAfter count) invocation)) := by
    have same : read (world.closingAfter count).tree (world.closingAfter count).directory arguments =
        .ok (.analysis invocation) := meaning
    simp only [run, same]
  refine ⟨_, started, ?_⟩
  rw [rendering.analyse_closing, rendering.analyse_of_accepting accepting]
  refine ⟨rfl, ?_, ?_, rfl, ?_, rfl, invocation.verbose, rfl, rfl⟩
  · exact List.take_eq_take_min
  · simp only [Result.ofAnalysis, Journal.processes_append, processes_closingNote, List.append_nil]
  · simp [Result.ofAnalysis]

theorem closed_output_cuts_report_highlighted :
    ∃ full cut, run highlighted ["--listing", "-"] = .ok full ∧
      run (highlighted.closingAfter 1) ["--listing", "-"] = .ok cut ∧
      full.written.length = 3 ∧ cut.status = 0 ∧ cut.written = full.written.take 1 ∧
      full.journal.processes.length = 2 ∧ cut.journal.processes = full.journal.processes ∧
      cut.errors = [] ∧ cut.silenced = true := by
  have accepting : highlighted.stdout.capacity = none := rfl
  have shape : (run highlighted ["--listing", "-"]).toOption.map (fun full =>
      (full.status, full.written.length, full.journal.processes.length)) = some (0, 3, 2) := by
    decide +kernel
  cases ran : run highlighted ["--listing", "-"] with
  | error failure =>
      rw [ran] at shape
      cases shape
  | ok full =>
      rw [ran] at shape
      obtain ⟨zero, three, two⟩ : full.status = 0 ∧ full.written.length = 3 ∧
          full.journal.processes.length = 2 := by simpa [Except.toOption] using shape
      obtain ⟨cut, cutRan, status, written, processes, errors, silenced, -⟩ :=
        closed_output_cuts_report accepting ran zero 1
      rw [three] at written silenced
      exact ⟨full, cut, rfl, cutRan, three, status, written, two, processes, errors,
        silenced.mpr ⟨by decide, rfl⟩⟩

end Xref.CommandLine
