import Xref.Cursor
import Xref.Graph.Basic

/-!
# Depth-first walks

A walk visits what can be reached from a start symbol, each symbol once, the first entry of a row
first. It is a cursor: the row of a symbol is read when the walk goes on after visiting it, so
entries added before that moment count.
-/

namespace Xref.Graph

/-- A walk that is paused between two visits. `marked` are the symbols visited so far, `last` is
the latest of them, and `waiting` are the unread parts of the rows, innermost first. -/
inductive Walk where
  | fresh (start : Symbol)
  | paused (marked : List Symbol) (last : Symbol) (waiting : List (List Symbol))
  | finished
  deriving DecidableEq, Repr

def nextUnmarked (marked : List Symbol) : List (List Symbol) → Option (Symbol × List (List Symbol))
  | [] => none
  | row :: waiting =>
    match row.dropWhile (· ∈ marked) with
    | [] => nextUnmarked marked waiting
    | s :: row => some (s, row :: waiting)

namespace Walk

def next (g : Graph) : Walk → Option Symbol × Walk
  | .fresh start => (some start, .paused [start] start [])
  | .paused marked last waiting =>
    match nextUnmarked marked (g.dependenciesOf last :: waiting) with
    | some (s, waiting) => (some s, .paused (s :: marked) s waiting)
    | none => (none, .finished)
  | .finished => (none, .finished)

end Walk

/-- The symbols that can be reached from `start`, in the order of the walk. A walk visits `start`
and symbols of the graph, each at most once, which bounds the number of pulls. -/
def reachable (g : Graph) (start : Symbol) : List Symbol :=
  (pull (Walk.next g) (g.symbols.length + 2) (.fresh start)).1

end Xref.Graph
