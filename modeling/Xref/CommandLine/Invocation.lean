import Xref.CommandLine.Arguments

namespace Xref.CommandLine

open Report

structure Invocation where
  objectFile : Path
  options : Options
  fromListing : Bool
  disassembler : Option Text
  rawNames : Bool
  config : Option Path
  verbose : Bool
  deriving DecidableEq, Repr

inductive Request where
  | help
  | analysis (invocation : Invocation)
  deriving DecidableEq, Repr

/-- A letter without its case. Beyond ASCII only the long s is a letter of a format's name. -/
def foldCase (c : Char) : Char := if c = 'ſ' then 's' else Text.lowerAscii c

def formatOfWord? (word : Text) : Option Format := Format.table.lookup (word.map foldCase)

/-- Why a command line has no meaning: it is at fault itself, or it names a file that cannot even be
looked up. -/
inductive Refusal where
  | usage (error : UsageError)
  | failure (failure : Failure)
  deriving DecidableEq, Repr

def checkValue (tree : FileTree) (directory : Place) (sorted : Sorted) (setting : Setting) :
    Option Refusal :=
  match setting, sorted.value? setting with
  | .format, some value =>
    if (formatOfWord? value).isNone then some (.usage (.unknownFormat value)) else none
  | .config, some value =>
    match tree.lookUp directory value with
    | .ok (.file _) => none
    | .ok .directory => some (.usage (.fileIsDirectory value))
    | .error (.system _) => some (.usage (.noSuchFile value))
    | .error failure => some (.failure failure)
  | _, _ => none

def selectOptions (sorted : Sorted) : Except UsageError Options :=
  let format := ((sorted.value? .format).bind formatOfWord?).getD .deps
  let reachable := sorted.value? .reachableFrom
  let unreachable := sorted.value? .unreachableFrom
  match Options.ofSelectors format.name reachable unreachable with
  | .ok options => .ok options
  | .error .exclusive => .error .exclusive
  | .error (.unknownFormat name) => .error (.unknownFormat name)

def interpret (tree : FileTree) (directory : Place) (sorted : Sorted) : Except Refusal Request :=
  if sorted.has .help then .ok .help
  else
    -- Of several faulty values the one whose setting comes first on the command line is reported.
    let settings := firstSeen (sorted.assigned.map Prod.fst)
    match settings.findSome? (checkValue tree directory sorted) with
    | some refusal => .error refusal
    | none =>
      match sorted.others with
      | [] => .error (.usage .missingObjectFile)
      | objectFile :: extra =>
        if hasNul objectFile then .error (.failure .embeddedNul)
        else if !extra.isEmpty then .error (.usage (.extraArguments extra))
        else
          ((selectOptions sorted).mapError .usage).map fun options => .analysis {
            objectFile := Path.ofText objectFile
            options := options
            fromListing := sorted.has .listing
            disassembler := sorted.value? .disassembler
            rawNames := sorted.has .rawNames
            config := (sorted.value? .config).map Path.ofText
            verbose := sorted.has .verbose }

def read (tree : FileTree) (directory : Place) (arguments : List Text) :
    Except Refusal Request :=
  match sortArguments arguments with
  | .error error => .error (.usage error)
  | .ok sorted => interpret tree directory sorted

def usage : Text := "Usage: symdep [OPTIONS] OBJFILE"

def helpLines : List Text := [
  usage,
  "",
  "  Print the symbol dependency graph of OBJFILE.",
  "",
  "Options:",
  "  -f, --format [deps|dot|rdeps]  Output format: dependency list or Graphviz",
  "                                 dot  [default: deps]",
  "  -r, --reachable-from SYMBOL    Only show symbols reachable from SYMBOL",
  "  -u, --unreachable-from SYMBOL  Only show symbols not reachable from SYMBOL",
  "  --listing                      OBJFILE is a saved disassembly listing ('-'",
  "                                 for stdin), not an object file",
  "  --objdump TEXT                 Disassembler executable",
  "  --no-demangle                  Show raw (mangled) symbol names",
  "  --config FILE                  Path to symdep_config.json",
  "  -v, --verbose                  Log progress to stderr",
  "  -h, --help                     Show this message and exit"]

end Xref.CommandLine
