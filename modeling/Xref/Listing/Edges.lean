import Xref.FirstSeen
import Xref.Listing.Line

namespace Xref.Listing

/-- The owner after a line, and the edge that the line gives. -/
def readLine (owner : Symbol) (line : Text) : Symbol × Option Edge :=
  match definition? line with
  | some name => (name, none)
  | none => (owner, (reference? line owner).map (Edge.mk owner))

/-- An item of a stream with the number of inputs read when it came out. -/
structure Located (α : Type) where
  item : α
  consumed : Nat
  deriving DecidableEq, Repr

/-- The edges of the lines after the first `consumed` ones, the first of which `owner` owns. -/
def locatedFrom (owner : Symbol) (consumed : Nat) : List Text → List (Located Edge)
  | [] => []
  | line :: rest =>
    match readLine owner line with
    | (owner, some edge) => ⟨edge, consumed + 1⟩ :: locatedFrom owner (consumed + 1) rest
    | (owner, none) => locatedFrom owner (consumed + 1) rest

def located (lines : List Text) : List (Located Edge) := locatedFrom Symbol.nameless 0 lines

def numbered {α : Type} (items : List α) : List (Located α) :=
  items.zipIdx.map fun (item, index) => ⟨item, index + 1⟩

def distinct (edges : List (Located Edge)) : List (Located Edge) :=
  firstSeenBy Located.item [] edges

def edges (lines : List Text) : List Edge := (located lines).map Located.item

/-- What a reader that stops after `limit` items has seen of a stream of `total` inputs. -/
def stopAfter {α : Type} (limit : Option Nat) (total : Nat) (items : List (Located α)) :
    List (Located α) × Nat :=
  match limit with
  | some limit =>
    if items.length < limit then (items, total)
    else (items.take limit, ((items.take limit).getLast?.map Located.consumed).getD 0)
  | none => (items, total)

end Xref.Listing
