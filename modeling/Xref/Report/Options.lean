import Xref.Json.Schema
import Xref.Symbol
import Xref.Text.Lower
import Xref.Text.Quoted

namespace Xref.Report

inductive Format where
  | deps
  | dot
  | rdeps
  deriving DecidableEq, Repr

inductive Filter where
  | all
  | reachable
  | unreachable
  deriving DecidableEq, Repr

namespace Format

def name : Format → Text
  | .deps => "deps"
  | .dot => "dot"
  | .rdeps => "rdeps"

def table : List (Text × Format) := [Format.deps, .dot, .rdeps].map fun f => (f.name, f)

end Format

namespace Filter

def name : Filter → Text
  | .all => "all"
  | .reachable => "reachable"
  | .unreachable => "unreachable"

def table : List (Text × Filter) := [Filter.all, .reachable, .unreachable].map fun f => (f.name, f)

end Filter

structure Options where
  format : Format := .deps
  filter : Filter := .all
  start : Option Symbol := none
  deriving DecidableEq, Repr

inductive Mismatch where
  | startWithoutFilter
  | filterWithoutStart (filter : Filter)
  deriving DecidableEq, Repr

def Mismatch.message : Mismatch → Text
  | .startWithoutFilter => "start_symbol requires a reachable/unreachable filter"
  | .filterWithoutStart filter => "filter '" ++ filter.name ++ "' requires a start_symbol"

namespace Options

def mismatch? (options : Options) : Option Mismatch :=
  match options.filter, options.start with
  | .all, some _ => some .startWithoutFilter
  | .all, none => none
  | _, some _ => none
  | filter, none => some (.filterWithoutStart filter)

def checkStart : Json.Value → Json.Checked (Option Symbol)
  | .null => .ok none
  | value => (Json.checkText value).map some

/-- Options from the values of their fields. The filter and the start symbol are compared only when
every field is valid by itself. -/
def ofFields (format filter start : Option Json.Value) : Json.Checked Options :=
  let format := Json.Checked.orDefault "output_format" .deps (Json.checkChoice Format.table) format
  let filter := Json.Checked.orDefault "filter_mode" .all (Json.checkChoice Filter.table) filter
  let start := Json.Checked.orDefault "start_symbol" none checkStart start
  match format.both (filter.both start) with
  | .error faults => .error faults
  | .ok (format, filter, start) =>
    let options : Options := ⟨format, filter, start⟩
    match options.mismatch? with
    | some mismatch => Json.Checked.fault (.rule mismatch.message)
    | none => .ok options

def reachableFrom (start : Symbol) (format : Format) : Options :=
  ⟨format, .reachable, some start⟩

def unreachableFrom (start : Symbol) (format : Format) : Options :=
  ⟨format, .unreachable, some start⟩

inductive SelectorError where
  | exclusive
  | unknownFormat (name : Text)
  deriving DecidableEq, Repr

def SelectorError.message : SelectorError → Text
  | .exclusive => "-r and -u cannot be used together"
  | .unknownFormat name => name.quoted ++ " is not a valid OutputFormat"

def ofSelectors (format : Text) (reachable unreachable : Option Symbol) :
    Except SelectorError Options :=
  if reachable.isSome && unreachable.isSome then .error .exclusive
  else
    match Format.table.lookup format.lower with
    | none => .error (.unknownFormat format.lower)
    | some format =>
      match reachable, unreachable with
      | some start, _ => .ok (reachableFrom start format)
      | none, some start => .ok (unreachableFrom start format)
      | none, none => .ok ⟨format, .all, none⟩

end Options

end Xref.Report
