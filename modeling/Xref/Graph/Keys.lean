import Xref.Graph.Basic

namespace Xref.Graph

/-- A reader of the keys: at a position and with the number of keys at its opening, unusable since
that number changed, or at its end. -/
inductive KeyReader where
  | reading (position size : Nat)
  | invalidated
  | finished
  deriving DecidableEq, Repr

namespace KeyReader

inductive Error where
  | sizeChanged
  deriving DecidableEq, Repr

def Error.message : Error → Text
  | .sizeChanged => "dictionary changed size during iteration"

def start (g : Graph) : KeyReader := .reading 0 g.rows.length

/-- The next key. A reader that failed fails again, one that met its end stays there. -/
def next (g : Graph) : KeyReader → Except Error (Option Symbol) × KeyReader
  | .reading position size =>
    if g.rows.length ≠ size then (.error .sizeChanged, .invalidated)
    else match g.keys[position]? with
      | some key => (.ok (some key), .reading (position + 1) size)
      | none => (.ok none, .finished)
  | .invalidated => (.error .sizeChanged, .invalidated)
  | .finished => (.ok none, .finished)

/-- Up to `count` keys and whether the end was met. A failing pull drops the keys before it. -/
def pull (g : Graph) : Nat → KeyReader → Except Error (List Symbol × Bool) × KeyReader
  | 0, reader => (.ok ([], false), reader)
  | count + 1, reader =>
    match reader.next g with
    | (.error error, reader) => (.error error, reader)
    | (.ok none, reader) => (.ok ([], true), reader)
    | (.ok (some key), reader) =>
      match reader.pull g count with
      | (.error error, reader) => (.error error, reader)
      | (.ok (keys, ended), reader) => (.ok (key :: keys, ended), reader)

end KeyReader

end Xref.Graph
