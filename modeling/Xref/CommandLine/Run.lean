import Xref.CommandLine.Invocation
import Xref.Config.File
import Xref.Listing.File
import Xref.Process.Disassembler
import Xref.Text.ControlSequence
import Xref.Text.Markup

namespace Xref.CommandLine

/-- Standard output: how many lines it takes before its reader goes away, if it ever does, and
whether it has a file descriptor. -/
structure Stdout where
  capacity : Option Nat
  hasDescriptor : Bool
  deriving DecidableEq, Repr

structure World where
  tree : FileTree
  directory : Place
  stdin : Stdin
  tools : Tools
  stdout : Stdout

/-- What an analysis does: the lines that standard output took, whether that was then pointed at
nothing, the journal, and the failure that ended it. -/
structure Analysis where
  written : List Text
  silenced : Bool
  journal : Journal
  failure : Option Failure
  deriving DecidableEq, Repr

namespace Analysis

def failed (journal : Journal) (failure : Failure) : Analysis := ⟨[], false, journal, some failure⟩

def writing (line : Text) (analysis : Analysis) : Analysis :=
  { analysis with written := line :: analysis.written }

end Analysis

def lineText (tools : Tools) (demangler : Option Demangler) (line : Report.Line)
    (journal : Journal) : Except Failure Text × Option Demangler × Journal :=
  match demangler with
  | none => (.ok (line.text id), none, journal)
  | some demangler =>
    let shown := demangler.showLine tools line journal
    (shown.result, some shown.demangler, shown.journal)

/-- Prints the lines of a report. `capacity` is the number of lines that standard output still
takes. -/
def printLines (world : World) :
    List Report.Line → Option Nat → Option Demangler → Journal → Analysis
  | [], _, _, journal => ⟨[], false, journal, none⟩
  | line :: rest, capacity, demangler, journal =>
    match lineText world.tools demangler line journal with
    | (.error failure, _, journal) => .failed journal failure
    | (.ok text, demangler, journal) =>
      -- The text is there before the reader is found to be gone.
      if capacity = some 0 then
        ⟨[], world.stdout.hasDescriptor, journal ++ [.log .debug "Output closed early"], none⟩
      else
        let others := printLines world rest (capacity.map (· - 1)) demangler journal
        others.writing text.withoutSequences

def nameSymbols (world : World) (config : Config) (g : Graph) (journal : Journal) :
    Except Failure (Option Demangler) × Journal :=
  if config.demangle then
    let primed := (Demangler.ofChain config.filters).prime world.tools g.symbols journal
    (primed.result.map fun _ => some primed.demangler, primed.journal)
  else (.ok none, journal)

def report (world : World) (config : Config) (options : Report.Options) (lines : List Text)
    (journal : Journal) : Analysis :=
  let g := Graph.ofListing lines
  match nameSymbols world config g (journal ++ [.log .debug ("Built " ++ g.summary)]) with
  | (.error failure, journal) => .failed journal failure
  | (.ok demangler, journal) =>
    match Report.render g options with
    | .error error => .failed journal (.report error)
    | .ok report => printLines world report world.stdout.capacity demangler journal

def readLines (world : World) (invocation : Invocation) (config : Config) :
    Except Failure (List Text) × Journal :=
  if invocation.fromListing then
    (Listing.read world.tree world.directory world.stdin invocation.objectFile, [])
  else
    let reading := Disassembler.read world.tools (config.command invocation.objectFile) none []
    match reading.failure with
    | some failure => (.error failure, reading.journal)
    | none => (.ok reading.lines, reading.journal)

def configure (world : World) (invocation : Invocation) : Except Failure Config :=
  let loaded : Except Failure Config := match invocation.config with
    | some path => Config.load world.tree world.directory path
    | none => (Config.find world.tree world.directory (Path.ofText ".")).map (·.getD {})
  loaded.map fun config => { config with
    disassembler := invocation.disassembler.getD config.disassembler
    demangle := config.demangle && !invocation.rawNames }

/-- The analysis that an invocation asks for. A form of output that is not supported is noticed
before anything is read. -/
def analyse (world : World) (invocation : Invocation) : Analysis :=
  match configure world invocation with
  | .error failure => .failed [] failure
  | .ok config =>
    match Report.checkSupported invocation.options.format with
    | .error error => .failed [] (.report error)
    | .ok () =>
      match readLines world invocation config with
      | (.error failure, journal) => .failed journal failure
      | (.ok lines, journal) => report world config invocation.options lines journal

structure Result where
  status : Nat
  written : List Text
  errors : Text
  silenced : Bool
  journal : Journal
  logs : List (Level × Text)
  deriving DecidableEq, Repr

namespace Result

def ofUsageError (error : UsageError) : Result :=
  let message : Text := "Error: " ++ error.message ++ "\n"
  let errors := if error.showsUsage then usage ++ "\n\n" ++ message else message
  ⟨1, [], errors.withoutSequences, false, [], []⟩

def ofHelp (stdout : Stdout) : Result :=
  ⟨1, if stdout.capacity = some 0 then [] else helpLines, [], false, [], []⟩

def ofAnalysis (verbose : Bool) (analysis : Analysis) : Result :=
  let finish (status : Nat) (errors : Text) (journal : Journal) : Result :=
    ⟨status, analysis.written, errors, analysis.silenced, journal, journal.logs verbose⟩
  match analysis.failure with
  | none => finish 0 [] analysis.journal
  | some .interrupted => finish 1 "\nAborted!\n" analysis.journal
  | some failure =>
    finish 2 ("Error: " ++ failure.message.onConsole ++ "\n")
      (analysis.journal ++ [.log .debug "Analysis failed"])

end Result

/-- Runs a command line. A file name in it that cannot be looked up ends the run without a result,
while a failure of the analysis is part of the result. -/
def run (world : World) (arguments : List Text) : Except Failure Result :=
  match read world.tree world.directory arguments with
  | .error (.failure failure) => .error failure
  | .error (.usage error) => .ok (.ofUsageError error)
  | .ok .help => .ok (.ofHelp world.stdout)
  | .ok (.analysis invocation) => .ok (.ofAnalysis invocation.verbose (analyse world invocation))

end Xref.CommandLine
