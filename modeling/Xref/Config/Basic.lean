import Xref.Demangler
import Xref.Files.Path
import Xref.Json.Printer

namespace Xref

structure Config where
  disassembler : Text := "objdump"
  arguments : List Text := ["-d"]
  demangle : Bool := true
  filters : List (List Text) := Demangler.defaultChain
  deriving DecidableEq, Repr

namespace Config

def command (config : Config) (objectFile : Path) : Command :=
  ⟨config.disassembler, config.arguments ++ [objectFile.text]⟩

def writeTexts (level : Nat) (texts : List Text) : Text :=
  Json.writeArray level (texts.map Json.writeText)

def write (config : Config) : Text :=
  Json.writeObject 0 [
    ("objdump", Json.writeText config.disassembler),
    ("objdump_args", writeTexts 1 config.arguments),
    ("demangle", Json.writeBool config.demangle),
    ("demangler", Json.writeArray 1 (config.filters.map (writeTexts 2)))]

def toBytes (config : Config) : Bytes := Utf8.encode config.write

def singleCommand? : Json.Value → Option (List Text)
  | .array items =>
    let texts := items.filterMap fun
      | .text t => some t
      | _ => none
    -- An empty list is a chain without commands, not a command without words.
    if texts.length = items.length ∧ texts ≠ [] then some texts else none
  | _ => none

def checkFilters (value : Json.Value) : Json.Checked (List (List Text)) :=
  match singleCommand? value with
  | some words => .ok [words]
  | none => Json.checkList (Json.checkList Json.checkText) value

def ofValue (value : Json.Value) : Json.Checked Config :=
  match value with
  | .object _ =>
    let defaults : Config := {}
    let disassembler := value.checkField "objdump" defaults.disassembler Json.checkText
    let arguments := value.checkField "objdump_args" defaults.arguments (Json.checkList Json.checkText)
    let demangle := value.checkField "demangle" defaults.demangle Json.checkBool
    let filters := value.checkField "demangler" defaults.filters checkFilters
    (disassembler.both (arguments.both (demangle.both filters))).map
      fun (disassembler, arguments, demangle, filters) =>
        ⟨disassembler, arguments, demangle, filters⟩
  | _ => Json.Checked.fault (.notObject "SymdepConfig")

def parse (document : Text) : Except Failure Config :=
  match Json.parse document with
  | .error error => .error (.malformed error)
  | .ok value => (ofValue value).mapError .invalid

def ofBytes (bytes : Bytes) : Except Failure Config :=
  match Utf8.decode bytes with
  | .error error => .error (.undecodable error)
  | .ok document => parse document.unifyLineEnds

end Config

end Xref
