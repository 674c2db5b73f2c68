import Xref.Graph.Walk
import Xref.Report.Line
import Xref.Report.Options

namespace Xref.Report

inductive Error where
  | unsupported (format : Format)
  | filterWithoutStart (filter : Filter)
  deriving DecidableEq, Repr

def Error.message : Error → Text
  | .unsupported format => "Output format '" ++ format.name ++ "' is not supported yet"
  | .filterWithoutStart filter => (Mismatch.filterWithoutStart filter).message

def checkSupported (format : Format) : Except Error Unit :=
  match format with
  | .rdeps => .error (.unsupported .rdeps)
  | _ => .ok ()

def select (g : Graph) (options : Options) : Except Error (List Symbol) :=
  match options.filter, options.start with
  | .all, _ => .ok g.keys
  | filter, none => .error (.filterWithoutStart filter)
  | .reachable, some start =>
    let reachable := g.reachable start
    .ok (g.keys.filter fun s => reachable.contains s)
  | .unreachable, some start =>
    let reachable := g.reachable start
    .ok (g.keys.filter fun s => !reachable.contains s)

def blockHead (format : Format) (s : Symbol) : Line :=
  match format with
  | .dot => .node s
  | _ => .header s

def blockEntry (format : Format) (s target : Symbol) : Line :=
  match format with
  | .dot => .arrow s target
  | _ => .dependency target

def blockEnd : Format → List Line
  | .dot => []
  | _ => [.separator]

def block (g : Graph) (format : Format) (s : Symbol) : List Line :=
  blockHead format s :: (g.dependenciesOf s).map (blockEntry format s) ++ blockEnd format

def lines (g : Graph) (format : Format) (symbols : List Symbol) : List Line :=
  match format with
  | .dot => .opening :: symbols.flatMap (block g format) ++ [.closing]
  | _ => symbols.flatMap (block g format)

def render (g : Graph) (options : Options) : Except Error (List Line) := do
  checkSupported options.format
  let symbols ← select g options
  return lines g options.format symbols

end Xref.Report
