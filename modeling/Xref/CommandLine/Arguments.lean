import Xref.FirstSeen
import Xref.Files.Tree

/-!
# The arguments of the command line

A command line mixes settings and other arguments. A setting has a long name, after which a value
may follow an equals sign, and perhaps a letter; letters can be written together behind one dash,
and the rest of such a group is the value of the first one that takes a value. A setting without
its value takes the next argument, whatever that is. Two dashes end the settings.
-/

namespace Xref.CommandLine

inductive Setting where
  | format
  | reachableFrom
  | unreachableFrom
  | listing
  | disassembler
  | rawNames
  | config
  | verbose
  | help
  deriving DecidableEq, Repr

namespace Setting

def all : List Setting :=
  [.format, .reachableFrom, .unreachableFrom, .listing, .disassembler, .rawNames, .config, .verbose,
    .help]

def long : Setting → Text
  | .format => "--format"
  | .reachableFrom => "--reachable-from"
  | .unreachableFrom => "--unreachable-from"
  | .listing => "--listing"
  | .disassembler => "--objdump"
  | .rawNames => "--no-demangle"
  | .config => "--config"
  | .verbose => "--verbose"
  | .help => "--help"

def letter? : Setting → Option Char
  | .format => some 'f'
  | .reachableFrom => some 'r'
  | .unreachableFrom => some 'u'
  | .verbose => some 'v'
  | .help => some 'h'
  | _ => none

def takesValue : Setting → Bool
  | .format => true
  | .reachableFrom => true
  | .unreachableFrom => true
  | .disassembler => true
  | .config => true
  | _ => false

end Setting

inductive UsageError where
  | noSuchOption (name : Text)
  | needsValue (name : Text)
  | takesNoValue (name : Text)
  | unknownFormat (value : Text)
  | noSuchFile (value : Text)
  | fileIsDirectory (value : Text)
  | missingObjectFile
  | extraArguments (arguments : List Text)
  | exclusive
  deriving DecidableEq, Repr

namespace UsageError

def message : UsageError → Text
  | .noSuchOption name => "No such option " ++ name.quoted ++ "."
  | .needsValue name => "Option " ++ name.quoted ++ " requires an argument."
  | .takesNoValue name => "Option " ++ name.quoted ++ " does not take a value."
  | .unknownFormat value =>
    "Invalid value for '-f' / '--format': " ++ value.quoted ++
      " is not one of 'deps', 'dot', 'rdeps'."
  | .noSuchFile value => "Invalid value for '--config': File " ++ value.quoted ++ " does not exist."
  | .fileIsDirectory value =>
    "Invalid value for '--config': File " ++ value.quoted ++ " is a directory."
  | .missingObjectFile => "Missing argument 'OBJFILE'."
  | .extraArguments arguments =>
    (if arguments.length = 1 then "Got unexpected extra argument (" else
      "Got unexpected extra arguments (" : Text) ++ Text.join " " arguments ++ ")"
  | .exclusive => "-r and -u cannot be used together"

def showsUsage : UsageError → Bool
  | .needsValue _ => false
  | .takesNoValue _ => false
  | _ => true

end UsageError

abbrev Assignment := Setting × Text

/-- What one argument assigns, and the setting, as it was spelled, that still waits for a value. -/
structure Reading where
  assigned : List Assignment
  waiting : Option (Setting × Text)
  deriving DecidableEq, Repr

def readLong (argument : Text) : Except UsageError Reading :=
  let name := argument.takeWhile (· ≠ '=')
  let attached := argument.dropWhile (· ≠ '=')
  match Setting.all.find? (·.long = name) with
  | none => .error (.noSuchOption name)
  | some setting =>
    match setting.takesValue, attached with
    | true, [] => .ok ⟨[], some (setting, name)⟩
    | true, _ :: value => .ok ⟨[(setting, value)], none⟩
    | false, [] => .ok ⟨[(setting, [])], none⟩
    | false, _ :: _ => .error (.takesNoValue name)

def readLetters : Text → Except UsageError Reading
  | [] => .ok ⟨[], none⟩
  | c :: rest =>
    match Setting.all.find? (·.letter? = some c) with
    | none => .error (.noSuchOption ['-', c])
    | some setting =>
      if setting.takesValue then
        if rest.isEmpty then .ok ⟨[], some (setting, ['-', c])⟩ else .ok ⟨[(setting, rest)], none⟩
      else
        (readLetters rest).map fun reading =>
          { reading with assigned := (setting, []) :: reading.assigned }

structure Sorted where
  assigned : List Assignment
  others : List Text
  deriving DecidableEq, Repr

namespace Sorted

def assign (assignments : List Assignment) (sorted : Sorted) : Sorted :=
  { sorted with assigned := assignments ++ sorted.assigned }

def keep (argument : Text) (sorted : Sorted) : Sorted :=
  { sorted with others := argument :: sorted.others }

def value? (sorted : Sorted) (setting : Setting) : Option Text :=
  -- The last assignment counts.
  sorted.assigned.reverse.lookup setting

def has (sorted : Sorted) (setting : Setting) : Bool := (sorted.value? setting).isSome

end Sorted

def readSetting (argument : Text) : Except UsageError Reading :=
  match argument with
  | '-' :: '-' :: _ => readLong argument
  | _ => readLetters (argument.drop 1)

def sortArguments : List Text → Except UsageError Sorted
  | [] => .ok ⟨[], []⟩
  | argument :: rest =>
    if argument = ['-', '-'] then .ok ⟨[], rest⟩
    else if argument.head? = some '-' ∧ 1 < argument.length then
      match readSetting argument with
      | .error error => .error error
      | .ok ⟨assigned, none⟩ => (sortArguments rest).map (Sorted.assign assigned)
      | .ok ⟨assigned, some (setting, name)⟩ =>
        match rest with
        | [] => .error (.needsValue name)
        | value :: rest => (sortArguments rest).map (Sorted.assign (assigned ++ [(setting, value)]))
    else (sortArguments rest).map (Sorted.keep argument)

end Xref.CommandLine
