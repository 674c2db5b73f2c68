import Xref.CommandLine.Run
import Xref.Proofs.CommandLine.Arguments
import Xref.Proofs.Demangler.Cache
import Xref.Proofs.Report.Selection

/-!
# Output is all or nothing

Everything that can fail happens before the first line is printed. Rendering only asks for names of
symbols of the graph, and priming has found those names, so that printing runs no filter.
-/

namespace Xref.CommandLine

/-! ## Printing -/

def Stdout.taken {α : Type} (stdout : Stdout) (items : List α) : List α :=
  match stdout.capacity with
  | none => items
  | some count => items.take count

theorem Stdout.taken_nil {α : Type} (stdout : Stdout) : stdout.taken ([] : List α) = [] := by
  unfold Stdout.taken
  split
  · rfl
  · exact List.take_nil

theorem Stdout.taken_map {α β : Type} (stdout : Stdout) (f : α → β) (items : List α) :
    stdout.taken (items.map f) = (stdout.taken items).map f := by
  unfold Stdout.taken
  split
  · rfl
  · rw [List.map_take]

theorem Stdout.taken_subset {α : Type} (stdout : Stdout) (items : List α) :
    stdout.taken items ⊆ items := by
  unfold Stdout.taken
  split
  · exact List.Subset.refl items
  · exact List.take_subset _ items

def Analysis.printing (stdout : Stdout) (texts : List Text) (journal : Journal) : Analysis :=
  match stdout.capacity with
  | none => ⟨texts, false, journal, none⟩
  | some taken =>
    if taken < texts.length then
      ⟨texts.take taken, stdout.hasDescriptor, journal ++ [.log .debug "Output closed early"], none⟩
    else ⟨texts, false, journal, none⟩

theorem Analysis.writing_printing (stdout : Stdout) (left : Nat) (line : Text) (texts : List Text)
    (journal : Journal) :
    writing line (printing { stdout with capacity := some left } texts journal) =
      printing { stdout with capacity := some (left + 1) } (line :: texts) journal := by
  simp only [printing, List.length_cons, Nat.add_lt_add_iff_right]
  split_ifs <;> rfl

theorem Analysis.printing_taken (stdout : Stdout) (texts : List Text) (journal : Journal) :
    (printing stdout texts journal).failure = none ∧
      (printing stdout texts journal).written = stdout.taken texts := by
  cases taking : stdout.capacity with
  | none => simp only [printing, Stdout.taken, taking, and_self]
  | some count =>
      simp only [printing, Stdout.taken, taking]
      split_ifs with short
      · exact ⟨rfl, rfl⟩
      · exact ⟨rfl, (List.take_of_length_le (not_lt.mp short)).symm⟩

def display : Option Demangler → Symbol → Text
  | none => id
  | some demangler => demangler.kept

def Knows (names : Option Demangler) (name : Symbol) : Prop :=
  ∀ demangler ∈ names, demangler.Knows name

def showReport (tools : Tools) (names : Option Demangler) (report : List Report.Line)
    (journal : Journal) : Except Failure (List Text) :=
  match names with
  | none => .ok (report.map (Report.Line.text id))
  | some demangler => (demangler.showLines tools report journal).result

section
variable {names : Option Demangler} {report : List Report.Line}

theorem lineText_of_knows {line : Report.Line} (tools : Tools) (journal : Journal)
    (known : ∀ name, line.displayed? = some name → Knows names name) :
    lineText tools names line journal = (.ok (line.text (display names)), names, journal) := by
  cases names with
  | none => rfl
  | some demangler =>
      simp only [lineText, Demangler.showLine_of_knows fun name shown => known name shown demangler rfl]
      rfl

theorem printLines_of_knows (world : World) (capacity : Option Nat) (journal : Journal)
    (known : ∀ line ∈ report, ∀ name, line.displayed? = some name → Knows names name) :
    printLines world report capacity names journal =
      .printing { world.stdout with capacity }
        ((report.map (Report.Line.text (display names))).map Text.withoutSequences) journal := by
  induction report generalizing capacity with
  | nil => cases capacity <;> rfl
  | cons line rest ih =>
      obtain ⟨first, others⟩ := List.forall_mem_cons.mp known
      simp only [printLines, lineText_of_knows world.tools journal first, ih _ others, List.map_cons]
      rcases capacity with _ | _ | left
      · rfl
      · rfl
      · simp only [Option.map_some, Nat.add_sub_cancel, Option.some.injEq, Nat.add_one_ne_zero, if_false]
        exact Analysis.writing_printing world.stdout left _ _ journal

theorem showReport_of_knows (tools : Tools) (journal : Journal)
    (known : ∀ line ∈ report, ∀ name, line.displayed? = some name → Knows names name) :
    showReport tools names report journal = .ok (report.map (Report.Line.text (display names))) := by
  cases names with
  | none => rfl
  | some demangler =>
      rw [showReport, Demangler.showLines_of_knows
        fun line listed name shown => known line listed name shown demangler rfl]
      rfl

theorem knows_of_nameSymbols {world : World} {config : Config} {g : Graph} {before after : Journal}
    (named : nameSymbols world config g before = (.ok names, after)) :
    ∀ name ∈ g.symbols, Knows names name := by
  simp only [nameSymbols] at named
  split_ifs at named
  · rw [Prod.mk.injEq, map_eq_ok] at named
    obtain ⟨⟨_, finished, rfl⟩, -⟩ := named
    intro name listed demangler primed
    obtain rfl := Option.some.inj primed
    exact Demangler.knows_of_prime finished name listed
  · cases named
    rintro name listed _ ⟨⟩

end

section
variable {world : World} {config : Config} {options : Report.Options} {g : Graph}
  {before after : Journal}

theorem knows_of_render {names : Option Demangler} {shown : List Report.Line}
    (named : nameSymbols world config g before = (.ok names, after))
    (rendered : Report.render g options = .ok shown) :
    ∀ line ∈ shown, ∀ name, line.displayed? = some name → Knows names name := by
  intro line listed name asked
  apply knows_of_nameSymbols named
  exact Report.displayed_mem_symbols rendered line listed name asked

def Analysis.ofNames (stdout : Stdout) (options : Report.Options) (g : Graph) :
    Except Failure (Option Demangler) × Journal → Analysis
  | (.error failure, journal) => .failed journal failure
  | (.ok names, journal) =>
    match Report.render g options with
    | .error error => .failed journal (.report error)
    | .ok shown =>
      .printing stdout ((shown.map (Report.Line.text (display names))).map Text.withoutSequences) journal

theorem report_eq (world : World) (config : Config) (options : Report.Options) (lines : List Text)
    (before : Journal) :
    report world config options lines before =
      .ofNames world.stdout options (Graph.ofListing lines)
        (nameSymbols world config (Graph.ofListing lines)
          (before ++ [.log .debug ("Built " ++ (Graph.ofListing lines).summary)])) := by
  rcases named : nameSymbols world config (Graph.ofListing lines)
      (before ++ [.log .debug ("Built " ++ (Graph.ofListing lines).summary)]) with
    ⟨failure | names, after⟩
  · simp only [report, named, Analysis.ofNames]
  · cases rendered : Report.render (Graph.ofListing lines) options with
    | error error => simp only [report, named, rendered, Analysis.ofNames]
    | ok shown =>
        have known := knows_of_render named rendered
        simp only [report, named, rendered, Analysis.ofNames, printLines_of_knows world _ after known]

end

/-! ## The report that an invocation asks for -/

/-- How an invocation comes to the texts of its report: its configuration, the lines that it reads,
the names that it finds for the symbols of their graph, and the report on the graph. -/
structure Rendering (world : World) (invocation : Invocation) where
  config : Config
  lines : List Text
  names : Option Demangler
  report : List Report.Line
  texts : List Text
  afterReading : Journal
  afterNaming : Journal
  configured : configure world invocation = .ok config
  read : readLines world invocation config = (.ok lines, afterReading)
  named : nameSymbols world config (Graph.ofListing lines)
    (afterReading ++ [.log .debug ("Built " ++ (Graph.ofListing lines).summary)]) =
      (.ok names, afterNaming)
  rendered : Report.render (Graph.ofListing lines) invocation.options = .ok report
  shown : showReport world.tools names report afterNaming = .ok texts

section
variable {world : World} {invocation : Invocation}

theorem Rendering.unique (first second : Rendering world invocation) : first = second := by
  obtain ⟨_, _, _, _, _, _, _, configured, read, named, rendered, shown⟩ := first
  obtain ⟨_, _, _, _, _, _, _, configured', read', named', rendered', shown'⟩ := second
  cases configured.symm.trans configured'
  cases read.symm.trans read'
  cases named.symm.trans named'
  cases rendered.symm.trans rendered'
  cases shown.symm.trans shown'
  rfl

theorem Rendering.texts_unique (first second : Rendering world invocation) :
    first.texts = second.texts := congrArg texts (first.unique second)

theorem Rendering.known (rendering : Rendering world invocation) :
    ∀ line ∈ rendering.report, ∀ name, line.displayed? = some name → Knows rendering.names name :=
  knows_of_render rendering.named rendering.rendered

theorem Rendering.texts_eq (rendering : Rendering world invocation) :
    rendering.texts = rendering.report.map (Report.Line.text (display rendering.names)) := by
  have shown := rendering.shown
  rw [showReport_of_knows world.tools _ rendering.known] at shown
  exact (Except.ok.inj shown).symm

theorem Rendering.analyse_eq (rendering : Rendering world invocation) :
    analyse world invocation =
      .printing world.stdout (rendering.texts.map Text.withoutSequences) rendering.afterNaming := by
  obtain ⟨supported, -⟩ := Report.render_eq_ok rendering.rendered
  simp only [analyse, rendering.configured, supported, rendering.read, report_eq, rendering.named,
    Analysis.ofNames, rendering.rendered, rendering.texts_eq]

def reportOf (world : World) (invocation : Invocation) : Except Failure (List Report.Line) :=
  match configure world invocation with
  | .error failure => .error failure
  | .ok config =>
    match Report.checkSupported invocation.options.format with
    | .error error => .error (.report error)
    | .ok () =>
      match readLines world invocation config with
      | (.error failure, _) => .error failure
      | (.ok lines, _) =>
        (Report.render (Graph.ofListing lines) invocation.options).mapError .report

theorem analyse_outcomes (world : World) (invocation : Invocation) :
    (∃ failure journal, reportOf world invocation = .error failure ∧
      analyse world invocation = .failed journal failure) ∨
    (∃ config g before failure after, configure world invocation = .ok config ∧
      nameSymbols world config g before = (.error failure, after) ∧
      analyse world invocation = .failed after failure) ∨
    ∃ rendering : Rendering world invocation, reportOf world invocation = .ok rendering.report := by
  cases configured : configure world invocation with
  | error failure =>
      exact .inl ⟨failure, [], by simp only [reportOf, configured], by simp only [analyse, configured]⟩
  | ok config =>
      cases supported : Report.checkSupported invocation.options.format with
      | error error =>
          exact .inl ⟨.report error, [], by simp only [reportOf, configured, supported],
            by simp only [analyse, configured, supported]⟩
      | ok _ =>
          rcases read : readLines world invocation config with ⟨failure | lines, before⟩
          · exact .inl ⟨failure, before, by simp only [reportOf, configured, supported, read],
              by simp only [analyse, configured, supported, read]⟩
          · rcases named : nameSymbols world config (Graph.ofListing lines)
                (before ++ [.log .debug ("Built " ++ (Graph.ofListing lines).summary)]) with
              ⟨failure | names, after⟩
            · exact .inr (.inl ⟨config, _, _, failure, after, rfl, named,
                by simp only [analyse, configured, supported, read, report, named]⟩)
            · cases rendered : Report.render (Graph.ofListing lines) invocation.options with
              | error error =>
                  exact .inl ⟨.report error, after,
                    by simp only [reportOf, configured, supported, read, rendered, Except.mapError],
                    by simp only [analyse, configured, supported, read, report, named, rendered]⟩
              | ok shown =>
                  have texts := showReport_of_knows world.tools after (knows_of_render named rendered)
                  refine .inr (.inr ⟨⟨_, _, _, _, _, _, _, configured, read, named, rendered, texts⟩, ?_⟩)
                  simp only [reportOf, configured, supported, read, rendered, Except.mapError]

theorem analyse_cases (world : World) (invocation : Invocation) :
    (∃ journal failure, analyse world invocation = .failed journal failure) ∨
      Nonempty (Rendering world invocation) := by
  rcases analyse_outcomes world invocation with
    ⟨failure, journal, -, failed⟩ | ⟨_, _, _, failure, after, -, -, failed⟩ | ⟨rendering, -⟩
  · exact .inl ⟨journal, failure, failed⟩
  · exact .inl ⟨after, failure, failed⟩
  · exact .inr ⟨rendering⟩

end

/-! ## How a run ends -/

theorem status_ofAnalysis (verbose : Bool) (analysis : Analysis) :
    (Result.ofAnalysis verbose analysis).status = 0 ↔ analysis.failure = none := by
  simp only [Result.ofAnalysis]
  split <;> simp_all

theorem written_ofAnalysis (verbose : Bool) (analysis : Analysis) :
    (Result.ofAnalysis verbose analysis).written = analysis.written := by
  simp only [Result.ofAnalysis]
  split <;> rfl

theorem ofAnalysis_failed {failure : Failure} (ended : failure ≠ .interrupted) (verbose : Bool)
    (journal : Journal) :
    (Result.ofAnalysis verbose (.failed journal failure)).status = 2 ∧
      (Result.ofAnalysis verbose (.failed journal failure)).journal =
        journal ++ [.log .debug "Analysis failed"] := by
  cases failure with
  | interrupted => contradiction
  | _ => exact ⟨rfl, rfl⟩

def AsksForHelp (arguments : List Text) : Prop :=
  ∃ sorted, sortArguments arguments = .ok sorted ∧ sorted.has .help = true

theorem asksForHelp_of_read {tree : FileTree} {directory : Place} {arguments : List Text}
    (asked : read tree directory arguments = .ok .help) : AsksForHelp arguments := by
  unfold read at asked
  split at asked
  · cases asked
  · rename_i sorted done
    refine ⟨sorted, done, ?_⟩
    by_contra other
    simp only [interpret, other, if_false] at asked
    split at asked
    · cases asked
    · split at asked
      · cases asked
      · split_ifs at asked
        obtain ⟨options, -, analysis⟩ := map_eq_ok.mp asked
        cases analysis

def Fails (tools : Tools) (words : List Text) : Prop :=
  ∀ history, ∃ output status, status ≠ 0 ∧ tools.disassembler history words = .started output status

theorem unfiltered_of_readLines {world : World} {invocation : Invocation} {config : Config}
    {result : Except Failure (List Text)} {journal : Journal}
    (done : readLines world invocation config = (result, journal)) :
    ∀ words input, Event.filter words input ∉ journal := by
  have unfiltered (command : Command) : ∀ words input,
      Event.filter words input ∉ (Disassembler.read world.tools command none []).journal := by
    intro words input
    simp only [Disassembler.read, reduceCtorEq, if_false]
    split_ifs
    · simp
    · split
      · simp
      · simp
      · simp
      · simp only [Disassembler.readStarted, Option.filter_none]
        split_ifs <;> simp
  simp only [readLines] at done
  split_ifs at done
  · cases done
    simp
  · split at done <;> cases done <;> exact unfiltered _

theorem readLines_of_fails {world : World} {invocation : Invocation} {config : Config}
    (fromObject : invocation.fromListing = false)
    (fails : Fails world.tools (config.command invocation.objectFile).words) :
    ∃ failure journal, readLines world invocation config = (.error failure, journal) ∧
      failure ≠ .interrupted := by
  simp only [readLines, fromObject, Bool.false_eq_true, if_false, Disassembler.read, reduceCtorEq]
  split_ifs with nul
  · exact ⟨_, _, rfl, by simp⟩
  · obtain ⟨output, status, failed, started⟩ := fails
      ([] ++ [.log .debug ("Running " ++ shownWords (config.command invocation.objectFile).words)])
    simp only [started, Disassembler.readStarted, Option.filter_none, failed, ne_eq,
      not_false_eq_true, if_true]
    exact ⟨_, _, rfl, by simp⟩

theorem analyse_of_fails {world : World} {invocation : Invocation} {config : Config}
    (configured : configure world invocation = .ok config) (fromObject : invocation.fromListing = false)
    (fails : Fails world.tools (config.command invocation.objectFile).words) :
    ∃ failure journal, analyse world invocation = .failed journal failure ∧
      failure ≠ .interrupted ∧ ∀ words input, Event.filter words input ∉ journal := by
  cases supported : Report.checkSupported invocation.options.format with
  | error error =>
      exact ⟨.report error, [], by simp only [analyse, configured, supported], by simp, by simp⟩
  | ok _ =>
      obtain ⟨failure, journal, listed, ended⟩ := readLines_of_fails fromObject fails
      exact ⟨failure, journal, by simp only [analyse, configured, supported, listed], ended,
        unfiltered_of_readLines listed⟩

section
variable {world : World} {invocation : Invocation}

theorem result_of_rendering (rendering : Rendering world invocation) (verbose : Bool) :
    (Result.ofAnalysis verbose (analyse world invocation)).status = 0 ∧
      (Result.ofAnalysis verbose (analyse world invocation)).written =
        world.stdout.taken (rendering.texts.map Text.withoutSequences) := by
  rw [status_ofAnalysis, written_ofAnalysis, rendering.analyse_eq]
  exact Analysis.printing_taken world.stdout _ rendering.afterNaming

theorem written_of_rendering (accepting : world.stdout.capacity = none)
    (rendering : Rendering world invocation) (verbose : Bool) :
    (Result.ofAnalysis verbose (analyse world invocation)).written =
      rendering.texts.map Text.withoutSequences := by
  rw [(result_of_rendering rendering verbose).2]
  simp only [Stdout.taken, accepting]

theorem succeeds_iff_rendering (verbose : Bool) :
    (Result.ofAnalysis verbose (analyse world invocation)).status = 0 ↔
      Nonempty (Rendering world invocation) := by
  constructor
  · intro succeeded
    rcases analyse_cases world invocation with ⟨journal, failure, failed⟩ | rendering
    · rw [status_ofAnalysis, failed] at succeeded
      cases succeeded
    · exact rendering
  · rintro ⟨rendering⟩
    exact (result_of_rendering rendering verbose).1

theorem written_of_failure {verbose : Bool}
    (failed : (Result.ofAnalysis verbose (analyse world invocation)).status ≠ 0) :
    (Result.ofAnalysis verbose (analyse world invocation)).written = [] := by
  rw [ne_eq, succeeds_iff_rendering] at failed
  rcases analyse_cases world invocation with ⟨journal, failure, ended⟩ | rendering
  · rw [written_ofAnalysis, ended]
    rfl
  · exact absurd rendering failed

end

/-- On a standard output that takes every line, a run has the status zero exactly when its report can be
rendered, and then it prints the whole report, without control sequences. Any other run prints nothing
unless it was asked for help. Display names are not even looked for when the disassembler fails, whatever
it printed before. -/
theorem run_all_or_nothing {world : World} {arguments : List Text}
    (accepting : world.stdout.capacity = none)
    (plain : ∀ argument ∈ arguments, hasNul argument = false) :
    ∃ result, run world arguments = .ok result ∧
      (result.status = 0 ↔ ∃ invocation,
        read world.tree world.directory arguments = .ok (.analysis invocation) ∧
          Nonempty (Rendering world invocation)) ∧
      (∀ invocation, read world.tree world.directory arguments = .ok (.analysis invocation) →
        ∀ rendering : Rendering world invocation,
          result.written = rendering.texts.map Text.withoutSequences) ∧
      (result.status ≠ 0 → ¬ AsksForHelp arguments → result.written = []) ∧
      ∀ invocation config, read world.tree world.directory arguments = .ok (.analysis invocation) →
        invocation.fromListing = false → configure world invocation = .ok config →
        Fails world.tools (config.command invocation.objectFile).words →
        result.status = 2 ∧ result.written = [] ∧
          ∀ words input, Event.filter words input ∉ result.journal := by
  unfold run
  rcases meaning : read world.tree world.directory arguments with refusal | _ | invocation
  · obtain ⟨error, rfl⟩ := read_usage plain meaning
    refine ⟨_, rfl, ⟨fun zero => absurd zero Nat.one_ne_zero, ?_⟩, ?_, fun _ _ => rfl, ?_⟩
    · rintro ⟨_, ⟨⟩, -⟩
    · rintro _ ⟨⟩
    · rintro _ _ ⟨⟩
  · refine ⟨_, rfl, ⟨fun zero => absurd zero Nat.one_ne_zero, ?_⟩, ?_, ?_, ?_⟩
    · rintro ⟨_, ⟨⟩, -⟩
    · rintro _ ⟨⟩
    · exact fun _ quiet => absurd (asksForHelp_of_read meaning) quiet
    · rintro _ _ ⟨⟩
  · refine ⟨_, rfl, ⟨?_, ?_⟩, ?_, ?_, ?_⟩
    · exact fun succeeded => ⟨invocation, rfl, (succeeds_iff_rendering _).mp succeeded⟩
    · rintro ⟨_, ⟨⟩, rendering⟩
      exact (succeeds_iff_rendering _).mpr rendering
    · rintro _ ⟨⟩ rendering
      exact written_of_rendering accepting rendering _
    · exact fun failed _ => written_of_failure failed
    · rintro _ config ⟨⟩ fromObject configured fails
      obtain ⟨failure, journal, analysed, ended, unfiltered⟩ :=
        analyse_of_fails configured fromObject fails
      obtain ⟨status, events⟩ := ofAnalysis_failed ended invocation.verbose journal
      rw [analysed, status, written_ofAnalysis, events]
      exact ⟨rfl, rfl, by simpa using unfiltered⟩

/-! ## A listing with a control sequence -/

/-- A listing with a control sequence stands on standard input; the disassembler prints a listing
and fails, and filters change nothing. -/
def highlighted : World where
  tree := ⟨[]⟩
  directory := []
  stdin := ⟨"0 <a>:\ncall <\x1b[1mb>\n", none⟩
  tools := {
    filter _ _ input := .finished 0 (Utf8.encode input) []
    disassembler _ _ := .started (Utf8.encode ("0 <a>:\ncall <b>\n" : String)) 1 }
  stdout := ⟨none, true⟩

def plainInvocation (name : Text) : Invocation where
  objectFile := ⟨[], [name]⟩
  options := {}
  fromListing := false
  disassembler := none
  rawNames := false
  config := none
  verbose := false

def undecoded : World :=
  { highlighted with stdin := ⟨"0 <a>:\ncall <b>\n", some ⟨16, [0xff], .invalidStart⟩⟩ }

theorem run_all_or_nothing_highlighted :
    (∃ result, run highlighted ["a.out"] = .ok result ∧ result.status = 2 ∧ result.written = [] ∧
      ∀ words input, Event.filter words input ∉ result.journal) ∧
    (∃ result, run highlighted ["--listing", "-"] = .ok result ∧ result.status = 0 ∧
      ∃ invocation, ∃ rendering : Rendering highlighted invocation,
        result.written = rendering.texts.map Text.withoutSequences) ∧
    ∃ result, run undecoded ["--listing", "-"] = .ok result ∧ result.status = 2 ∧
      result.written = [] := by
  have plain : ∀ argument ∈ (["--listing", "-"] : List Text), hasNul argument = false := by decide
  refine ⟨?_, ?_, ?_⟩
  · have plain : ∀ argument ∈ (["a.out"] : List Text), hasNul argument = false := by decide
    have meaning : read highlighted.tree highlighted.directory ["a.out"] =
      .ok (.analysis (plainInvocation "a.out")) := eq_ok_of_toOption (by decide +kernel)
    have configured : configure highlighted (plainInvocation "a.out") = .ok {} :=
      eq_ok_of_toOption (by decide +kernel)
    have fails (words : List Text) : Fails highlighted.tools words :=
      fun _ => ⟨_, 1, by decide, rfl⟩
    obtain ⟨result, ran, -, -, -, failing⟩ :=
      run_all_or_nothing (rfl : highlighted.stdout.capacity = none) plain
    exact ⟨result, ran, failing _ {} meaning rfl configured (fails _)⟩
  · have status : (run highlighted ["--listing", "-"]).toOption.map Result.status = some 0 := by
      decide +kernel
    obtain ⟨result, ran, succeeds, printed, -⟩ :=
      run_all_or_nothing (rfl : highlighted.stdout.capacity = none) plain
    rw [ran] at status
    have zero : result.status = 0 := Option.some.inj status
    obtain ⟨invocation, meaning, ⟨rendering⟩⟩ := succeeds.mp zero
    exact ⟨result, ran, zero, invocation, rendering, printed invocation meaning rendering⟩
  · have status : (run undecoded ["--listing", "-"]).toOption.map Result.status = some 2 := by
      decide +kernel
    have quiet : ¬ AsksForHelp ["--listing", "-"] := by
      rintro ⟨sorted, done, help⟩
      cases done
      exact absurd help (by decide)
    obtain ⟨result, ran, -, -, nothing, -⟩ :=
      run_all_or_nothing (rfl : undecoded.stdout.capacity = none) plain
    rw [ran] at status
    have two : result.status = 2 := Option.some.inj status
    exact ⟨result, ran, two, nothing (by simp [two]) quiet⟩

def highlightedRendering :
    Rendering highlighted { plainInvocation "-" with fromListing := true, rawNames := true } where
  config := { demangle := false }
  lines := ["0 <a>:", "call <\x1b[1mb>"]
  names := none
  report := [.header "a", .dependency "\x1b[1mb", .separator]
  texts := ["a:", "\t\x1b[1mb", ""]
  afterReading := []
  afterNaming := [.log .debug "Built SymbolGraph(1 symbols, 1 edges)"]
  configured := eq_ok_of_toOption (by decide +kernel)
  read := Prod.ext (eq_ok_of_toOption (by decide +kernel)) rfl
  named := Prod.ext rfl (by decide +kernel)
  rendered := eq_ok_of_toOption (by decide +kernel)
  shown := rfl

theorem highlighted_printed_ne_rendered :
    ∃ result, run highlighted ["--listing", "--no-demangle", "-"] = .ok result ∧ result.status = 0 ∧
      ∀ invocation, ∀ rendering : Rendering highlighted invocation,
        read highlighted.tree highlighted.directory ["--listing", "--no-demangle", "-"] =
          .ok (.analysis invocation) → result.written ≠ rendering.texts := by
  have meaning : read highlighted.tree highlighted.directory ["--listing", "--no-demangle", "-"] =
      .ok (.analysis { plainInvocation "-" with fromListing := true, rawNames := true }) :=
    eq_ok_of_toOption (by decide +kernel)
  have printed : run highlighted ["--listing", "--no-demangle", "-"] =
      .ok ⟨0, ["a:", "\tb", ""], [], false, highlightedRendering.afterNaming, []⟩ :=
    eq_ok_of_toOption (by decide +kernel)
  refine ⟨_, printed, rfl, ?_⟩
  intro invocation rendering read
  cases meaning.symm.trans read
  rw [rendering.texts_unique highlightedRendering]
  decide

end Xref.CommandLine
