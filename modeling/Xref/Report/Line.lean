import Xref.Symbol

namespace Xref.Report

inductive Line where
  | header (s : Symbol)
  | dependency (target : Symbol)
  | separator
  | opening
  | node (s : Symbol)
  | arrow (s target : Symbol)
  | closing
  deriving DecidableEq, Repr

def escapeLabel (label : Text) : Text :=
  label.flatMap fun c => if c = '"' then "\\\"" else if c = '\n' then "\\n" else [c]

namespace Line

def displayed? : Line → Option Symbol
  | .header s => some s
  | .dependency target => some target
  | .node s => some s
  | _ => none

def write (shown : Text) : Line → Text
  | .header _ => shown ++ ":"
  | .dependency _ => '\t' :: shown
  | .separator => []
  | .opening => "digraph G \x7b"
  | .node s => "\"" ++ s ++ "\" [label=\"" ++ escapeLabel shown ++ "\"];"
  | .arrow s target => "\"" ++ s ++ "\" -> \"" ++ target ++ "\";"
  | .closing => "\x7d"

def text (display : Symbol → Text) (line : Line) : Text :=
  line.write ((line.displayed?.map display).getD [])

end Line

end Xref.Report
