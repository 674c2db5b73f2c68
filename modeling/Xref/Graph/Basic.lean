import Xref.Listing.Edges

/-!
# Dependency graphs

A graph has a row for each symbol that owns an edge or was added on its own; the row lists what
the symbol depends on. Rows and their entries keep the order in which they were added. A symbol
that is only ever referred to has no row.
-/

namespace Xref

/-- The rows, and apart from them the set of the edges that were added. -/
structure Graph where
  rows : List (Symbol × List Symbol)
  edges : List Edge
  deriving DecidableEq, Repr

namespace Graph

def empty : Graph := ⟨[], []⟩

def keys (g : Graph) : List Symbol := g.rows.map Prod.fst

def contains (g : Graph) (s : Symbol) : Bool := g.rows.any (·.1 == s)

def dependenciesOf? (g : Graph) (s : Symbol) : Option (List Symbol) := g.rows.lookup s

def dependenciesOf (g : Graph) (s : Symbol) : List Symbol := (g.dependenciesOf? s).getD []

def edgeCount (g : Graph) : Nat := g.edges.length

/-- All symbols, those that are only referred to included, in the order in which the rows show
them. -/
def symbols (g : Graph) : List Symbol := firstSeen (g.rows.flatMap fun (s, targets) => s :: targets)

def addSymbol (g : Graph) (s : Symbol) : Graph :=
  if g.contains s then g else { g with rows := g.rows ++ [(s, [])] }

def appendEntry (s target : Symbol) : List (Symbol × List Symbol) → List (Symbol × List Symbol)
  | [] => [(s, [target])]
  | (key, targets) :: rest =>
    if key = s then (key, targets ++ [target]) :: rest
    else (key, targets) :: appendEntry s target rest

def addEdge (g : Graph) (edge : Edge) : Graph :=
  if edge ∈ g.edges then g
  else ⟨appendEntry edge.owner edge.target g.rows, g.edges ++ [edge]⟩

def ofEdges (edges : List Edge) : Graph := edges.foldl addEdge empty

def addRow (g : Graph) (row : Symbol × List Symbol) : Graph :=
  row.2.foldl (fun g target => g.addEdge ⟨row.1, target⟩) (g.addSymbol row.1)

def ofRows (rows : List (Symbol × List Symbol)) : Graph := rows.foldl addRow empty

def ofListing (lines : List Text) : Graph :=
  ofEdges (firstSeen (Listing.edges lines))

def summary (g : Graph) : Text :=
  "SymbolGraph(" ++ Text.ofNat g.rows.length ++ " symbols, " ++ Text.ofNat g.edgeCount ++ " edges)"

end Graph

end Xref
