import Xref.Proofs.CommandLine.Output
import Xref.Proofs.Demangler.History
import Xref.Proofs.Listing.File

namespace Xref

structure Disassembler.Prints (tools : Tools) (command : Command) (output : Bytes) : Prop where
  plain : command.words.any hasNul = false
  started : ∀ history, tools.disassembler history command.words = .started output 0

/-- A file with the given content is at the path. The dash is no file but standard input. -/
structure Listing.SavedAt (tree : FileTree) (directory : Place) (path : Path) (content : Bytes) :
    Prop where
  named : path.text ≠ ['-']
  stored : tree.read directory path = .ok content

section
variable {tools : Tools} {command : Command} {tree : FileTree} {directory : Place} {path : Path}
  {bytes : Bytes}

theorem Listing.SavedAt.read_eq (saved : Listing.SavedAt tree directory path bytes) (stdin : Stdin) :
    Listing.read tree directory stdin path = .ok (Listing.ofBytes bytes) := by
  rw [Listing.read_file saved.named, saved.stored]
  rfl

theorem Disassembler.Prints.read_eq (prints : Disassembler.Prints tools command bytes)
    {limit : Option Nat} (asked : limit ≠ some 0) (journal : Journal) :
    ∃ before, Disassembler.read tools command limit journal =
      Disassembler.readStarted command limit bytes 0 before := by
  simp only [Disassembler.read, asked, prints.plain, prints.started, Bool.false_eq_true, if_false]
  exact ⟨_, rfl⟩

theorem read_eq_pullFile (prints : Disassembler.Prints tools command bytes)
    (saved : Listing.SavedAt tree directory path bytes) (stdin : Stdin) (limit : Option Nat)
    (journal : Journal) :
    let reading := Disassembler.read tools command limit journal
    (reading.lines, reading.failure) = Listing.pullFile tree directory stdin path limit := by
  intro reading
  rw [Listing.pullFile, Listing.source_file saved.named saved.stored]
  by_cases unasked : limit = some 0
  · simp [reading, Disassembler.read, unasked, Option.filter_some]
  · obtain ⟨before, read⟩ := prints.read_eq unasked journal
    simp only [reading, read, Disassembler.readStarted]
    cases limit.filter fun limit => limit ≤ (Listing.ofBytes bytes).length <;> rfl

end

namespace CommandLine

/-! ## After the reading -/

def Analysis.onlyFilters (analysis : Analysis) : Analysis :=
  { analysis with journal := analysis.journal.filters }

def Result.withoutLogs (result : Result) : Result :=
  { result with journal := result.journal.filters, logs := [] }

section
variable {world : World} {first second : Journal}

theorem onlyFilters_printing (stdout : Stdout) (texts : List Text)
    (same : first.filters = second.filters) :
    (Analysis.printing stdout texts first).onlyFilters =
      (Analysis.printing stdout texts second).onlyFilters := by
  unfold Analysis.printing
  split
  · simp only [Analysis.onlyFilters, same]
  · split_ifs <;> simp [Analysis.onlyFilters, same]

theorem onlyFilters_ofNames (stdout : Stdout) (options : Report.Options) (g : Graph)
    {live saved : Except Failure (Option Demangler) × Journal} (names : live.1 = saved.1)
    (same : live.2.filters = saved.2.filters) :
    (Analysis.ofNames stdout options g live).onlyFilters =
      (Analysis.ofNames stdout options g saved).onlyFilters := by
  rcases live with ⟨named, after⟩
  rcases saved with ⟨named', after'⟩
  obtain rfl : named = named' := names
  cases named with
  | error failure => exact congrArg (Analysis.mk [] false · (some failure)) same
  | ok names =>
      simp only [Analysis.ofNames]
      split
      · exact congrArg (Analysis.mk [] false · _) same
      · exact onlyFilters_printing stdout _ same

theorem nameSymbols_alike (apart : world.tools.FiltersApart) (config : Config) (g : Graph)
    (same : first.filters = second.filters) :
    (nameSymbols world config g first).1 = (nameSymbols world config g second).1 ∧
      (nameSymbols world config g first).2.filters = (nameSymbols world config g second).2.filters := by
  have alike := Demangler.prime_alike apart (.ofChain config.filters) g.symbols same
  simp only [Demangler.Outcome.onlyFilters, Demangler.Outcome.mk.injEq] at alike
  obtain ⟨result, demangler, journal⟩ := alike
  simp only [nameSymbols]
  split_ifs
  · exact ⟨by rw [result, demangler], journal⟩
  · exact ⟨rfl, same⟩

theorem report_alike (apart : world.tools.FiltersApart) (config : Config) (options : Report.Options)
    (lines : List Text) (same : first.filters = second.filters) :
    (report world config options lines first).onlyFilters =
      (report world config options lines second).onlyFilters := by
  have logged (text : Text) : Journal.filters (first ++ [.log .debug text]) =
      Journal.filters (second ++ [.log .debug text]) := by simp [same]
  obtain ⟨names, later⟩ := nameSymbols_alike apart config (Graph.ofListing lines)
    (logged ("Built " ++ (Graph.ofListing lines).summary))
  rw [report_eq, report_eq]
  exact onlyFilters_ofNames world.stdout options _ names later

theorem ofAnalysis_alike {live saved : Analysis} (alike : live.onlyFilters = saved.onlyFilters)
    (verbose : Bool) :
    (Result.ofAnalysis verbose live).withoutLogs = (Result.ofAnalysis verbose saved).withoutLogs := by
  simp only [Analysis.onlyFilters, Analysis.mk.injEq] at alike
  obtain ⟨written, silenced, journal, failure⟩ := alike
  simp only [Result.ofAnalysis, failure]
  split <;> simp [Result.withoutLogs, written, silenced, journal]

end

/-! ## The run on the saved output -/

def Invocation.onListing (path : Path) (invocation : Invocation) : Invocation :=
  { invocation with fromListing := true, objectFile := path }

def Request.onListing (path : Path) : Request → Request
  | .help => .help
  | .analysis invocation => .analysis (invocation.onListing path)

/-- If the command line asks for an analysis, that runs a disassembler which prints the given bytes. -/
def RunsLive (world : World) (arguments : List Text) (bytes : Bytes) : Prop :=
  ∀ invocation, read world.tree world.directory arguments = .ok (.analysis invocation) →
    invocation.fromListing = false ∧ ∀ config, configure world invocation = .ok config →
      Disassembler.Prints world.tools (config.command invocation.objectFile) bytes

section
variable {world : World} {invocation : Invocation} {config : Config} {path : Path} {bytes : Bytes}

theorem configure_onListing (world : World) (path : Path) (invocation : Invocation) :
    configure world (invocation.onListing path) = configure world invocation := rfl

theorem readLines_of_prints (fromObject : invocation.fromListing = false)
    (prints : Disassembler.Prints world.tools (config.command invocation.objectFile) bytes) :
    ∃ journal, readLines world invocation config = (.ok (Listing.ofBytes bytes), journal) := by
  obtain ⟨before, read⟩ := prints.read_eq (by simp : (none : Option Nat) ≠ some 0) []
  simp only [readLines, fromObject, read, Bool.false_eq_true, if_false]
  exact ⟨_, rfl⟩

theorem readLines_onListing
    (saved : Listing.SavedAt world.tree world.directory path bytes) :
    readLines world (invocation.onListing path) config = (.ok (Listing.ofBytes bytes), []) := by
  simp only [readLines, Invocation.onListing, if_true, saved.read_eq]

theorem analyse_alike (apart : world.tools.FiltersApart)
    (saved : Listing.SavedAt world.tree world.directory path bytes)
    (fromObject : invocation.fromListing = false)
    (prints : ∀ config, configure world invocation = .ok config →
      Disassembler.Prints world.tools (config.command invocation.objectFile) bytes) :
    (analyse world invocation).onlyFilters =
      (analyse world (invocation.onListing path)).onlyFilters := by
  have format : (invocation.onListing path).options = invocation.options := rfl
  simp only [analyse, configure_onListing, format]
  cases configured : configure world invocation with
  | error failure => rfl
  | ok config =>
      cases supported : Report.checkSupported invocation.options.format with
      | error error => rfl
      | ok _ =>
          obtain ⟨journal, read⟩ := readLines_of_prints fromObject (prints config configured)
          have unfiltered := Journal.filters_eq_nil (unfiltered_of_readLines read)
          simp only [read, readLines_onListing saved]
          exact report_alike apart config invocation.options _ unfiltered

end

/-- A process that prints some bytes and ends with the status zero gives the lines of a file with these
bytes, pull by pull. So a run with the process and the run on the file leave the same behind, log records
apart, and they run the same filters on the same input. -/
theorem sources_agree {world : World} {path : Path} {bytes : Bytes}
    (saved : Listing.SavedAt world.tree world.directory path bytes) :
    (∀ command, Disassembler.Prints world.tools command bytes → ∀ limit journal,
      let reading := Disassembler.read world.tools command limit journal
      (reading.lines, reading.failure) =
        Listing.pullFile world.tree world.directory world.stdin path limit) ∧
    (world.tools.FiltersApart → ∀ live onFile : List Text, RunsLive world live bytes →
      read world.tree world.directory onFile =
        (read world.tree world.directory live).map (Request.onListing path) →
      (run world live).map Result.withoutLogs = (run world onFile).map Result.withoutLogs) := by
  refine ⟨fun command prints limit journal =>
    read_eq_pullFile prints saved world.stdin limit journal, ?_⟩
  intro apart live onFile runsLive meaning
  unfold run
  rw [meaning]
  -- Refusals and help look at the command line alone.
  rcases asked : read world.tree world.directory live with refusal | _ | invocation
  · cases refusal <;> rfl
  · rfl
  · obtain ⟨fromObject, prints⟩ := runsLive invocation asked
    have alike := analyse_alike apart saved fromObject prints
    exact congrArg Except.ok (ofAnalysis_alike alike invocation.verbose)

/-- A listing with two kinds of line ends, a byte that is no text and no line end after the last line. -/
def mixedListing : Bytes :=
  Utf8.encode ("0 <a>:\r\ncall <b" : String) ++ [0xff] ++ Utf8.encode (">\rjmp <c>" : String)

def recorded : World where
  tree := ⟨[(["saved"], .file mixedListing)]⟩
  directory := []
  stdin := ⟨[], none⟩
  tools := {
    filter _ _ input := .finished 0 (Utf8.encode input) []
    disassembler _ _ := .started mixedListing 0 }
  stdout := ⟨none, true⟩

theorem sources_agree_recorded :
    let reading := Disassembler.read recorded.tools ⟨"objdump", ["-d", "prog"]⟩ (some 2) []
    reading.lines = (["0 <a>:", "call <b\ufffd>"] : List Text) ∧
      (reading.lines, reading.failure) =
        Listing.pullFile recorded.tree recorded.directory ⟨[], none⟩ ⟨[], ["saved"]⟩ (some 2) ∧
      (run recorded ["-r", "a", "prog"]).toOption.map Result.written =
        some (["a:", "\tb\ufffd", "\tc", ""] : List Text) ∧
      (run recorded ["-r", "a", "prog"]).map Result.withoutLogs =
        (run recorded ["--listing", "-r", "a", "saved"]).map Result.withoutLogs := by
  intro reading
  have saved : Listing.SavedAt recorded.tree recorded.directory ⟨[], ["saved"]⟩ mixedListing :=
    ⟨by decide, eq_ok_of_toOption (by decide +kernel)⟩
  have meaning : read recorded.tree recorded.directory ["-r", "a", "prog"] = .ok (.analysis
      { plainInvocation "prog" with options := .reachableFrom "a" .deps }) :=
    eq_ok_of_toOption (by decide +kernel)
  have onFile : read recorded.tree recorded.directory ["--listing", "-r", "a", "saved"] =
      (read recorded.tree recorded.directory ["-r", "a", "prog"]).map
        (Request.onListing ⟨[], ["saved"]⟩) := by
    rw [meaning]
    exact eq_ok_of_toOption (by decide +kernel)
  have configured : configure recorded
      { plainInvocation "prog" with options := .reachableFrom "a" .deps } = .ok {} :=
    eq_ok_of_toOption (by decide +kernel)
  have prints : Disassembler.Prints recorded.tools ⟨"objdump", ["-d", "prog"]⟩ mixedListing :=
    ⟨by decide +kernel, fun _ => rfl⟩
  have live : RunsLive recorded ["-r", "a", "prog"] mixedListing := by
    intro invocation asked
    cases meaning.symm.trans asked
    refine ⟨rfl, fun config loaded => ?_⟩
    cases configured.symm.trans loaded
    exact prints
  have apart : recorded.tools.FiltersApart := fun _ _ _ => rfl
  obtain ⟨lines, runs⟩ := sources_agree saved
  exact ⟨by decide +kernel, lines _ prints (some 2) [], by decide +kernel, runs apart _ _ live onFile⟩

end CommandLine

end Xref
