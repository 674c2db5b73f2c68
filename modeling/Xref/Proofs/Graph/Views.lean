import Mathlib.Algebra.GroupWithZero.Nat
import Mathlib.Data.List.Nodup
import Xref.Proofs.Graph.Additions
import Xref.Proofs.Graph.Reachability

namespace Xref.Graph
variable {g : Graph} {additions : List Addition}

/-! ## Graphs that are given as a whole -/

def additionsOfRow (row : Symbol × List Symbol) : List Addition :=
  .symbol row.1 :: row.2.map fun target => .edge ⟨row.1, target⟩

theorem addRow_eq_addAll (g : Graph) (row : Symbol × List Symbol) :
    g.addRow row = g.addAll (additionsOfRow row) := by
  rw [addRow, addAll, additionsOfRow, List.foldl_cons, List.foldl_map]
  rfl

theorem ofEdges_eq_addAll (edges : List Edge) : ofEdges edges = empty.addAll (edges.map .edge) := by
  rw [ofEdges, addAll, List.foldl_map]
  rfl

theorem ofRows_eq_addAll (rows : List (Symbol × List Symbol)) :
    ofRows rows = empty.addAll (rows.flatMap additionsOfRow) := by
  rw [ofRows, addAll, List.foldl_flatMap]
  congr 1
  funext g row
  exact addRow_eq_addAll g row

/-! ## Rows and edges -/

theorem lookup_of_mem_rows {rows : List (Symbol × List Symbol)} {s : Symbol} {row : List Symbol}
    (distinct : (rows.map Prod.fst).Nodup) (located : (s, row) ∈ rows) :
    rows.lookup s = some row := by
  induction rows with
  | nil => exact absurd located List.not_mem_nil
  | cons first rows ih =>
      obtain ⟨key, targets⟩ := first
      rw [List.map_cons, List.nodup_cons] at distinct
      rw [lookup_row]
      rcases List.mem_cons.mp located with same | later
      · cases same
        rw [if_pos rfl]
      · have other : s ≠ key := by
          rintro rfl
          exact distinct.1 (List.mem_map.mpr ⟨_, later, rfl⟩)
        rw [if_neg other, ih distinct.2 later]

theorem rows_eq_map_keys (distinct : g.keys.Nodup) :
    g.rows = g.keys.map fun s => (s, g.dependenciesOf s) := by
  have own : ∀ row ∈ g.rows, id row = (row.1, g.dependenciesOf row.1) := by
    intro row located
    rw [dependenciesOf, dependenciesOf?, lookup_of_mem_rows distinct located]
    rfl
  rw [keys, List.map_map]
  calc
    g.rows = g.rows.map id := (List.map_id g.rows).symm
    _ = _ := List.map_congr_left own

theorem mem_symbols (distinct : g.keys.Nodup) {s : Symbol} :
    s ∈ g.symbols ↔ s ∈ g.keys ∨ ∃ key, g.DependsOn key s := by
  constructor
  · intro listed
    rw [symbols, mem_firstSeen, List.mem_flatMap] at listed
    obtain ⟨⟨key, row⟩, located, among⟩ := listed
    rcases List.mem_cons.mp among with rfl | entry
    · exact .inl (List.mem_map_of_mem located)
    · refine .inr ⟨key, ?_⟩
      rw [DependsOn, dependenciesOf, dependenciesOf?, lookup_of_mem_rows distinct located]
      exact entry
  · rintro (key | ⟨key, depends⟩)
    · exact mem_symbols_of_mem_keys key
    · exact depends.mem_symbols

theorem nodup_symbols (g : Graph) : g.symbols.Nodup := by
  rw [symbols, firstSeen_eq_eraseDups]
  exact nodup_eraseDups _

def listedEdges (g : Graph) : List Edge :=
  g.keys.flatMap fun s => (g.dependenciesOf s).map (Edge.mk s)

theorem mem_listedEdges {edge : Edge} :
    edge ∈ g.listedEdges ↔ edge.target ∈ g.dependenciesOf edge.owner := by
  simp only [listedEdges, List.mem_flatMap, List.mem_map]
  constructor
  · rintro ⟨s, -, target, entry, rfl⟩
    exact entry
  · intro entry
    refine ⟨edge.owner, ?_, edge.target, entry, rfl⟩
    by_contra missing
    rw [dependenciesOf_eq_nil missing] at entry
    exact List.not_mem_nil entry

namespace Records

theorem nodup_keys (records : g.Records additions) : g.keys.Nodup := by
  rw [records.keys]
  exact nodup_eraseDups _

theorem nodup_dependenciesOf (records : g.Records additions) (s : Symbol) :
    (g.dependenciesOf s).Nodup := by
  rw [records.dependenciesOf]
  exact nodup_eraseDups _

theorem nodup_edges (records : g.Records additions) : g.edges.Nodup := by
  rw [records.edges]
  exact nodup_eraseDups _

theorem nodup_listedEdges (records : g.Records additions) : g.listedEdges.Nodup := by
  rw [listedEdges, List.nodup_flatMap]
  constructor
  · intro s _
    exact (records.nodup_dependenciesOf s).map fun _ _ same => congrArg Edge.target same
  · refine records.nodup_keys.imp ?_
    intro s other differ
    simp only [Function.onFun, List.disjoint_left, List.mem_map]
    rintro _ ⟨target, -, rfl⟩ ⟨_, -, same⟩
    exact differ (congrArg Edge.owner same).symm

theorem edges_perm_listedEdges (records : g.Records additions) : g.edges.Perm g.listedEdges := by
  rw [List.perm_ext_iff_of_nodup records.nodup_edges records.nodup_listedEdges]
  intro edge
  rw [records.consistent edge, mem_listedEdges]

theorem edgeCount (records : g.Records additions) :
    g.edgeCount = (g.keys.map fun s => (g.dependenciesOf s).length).sum := by
  rw [Graph.edgeCount, records.edges_perm_listedEdges.length_eq, listedEdges, List.length_flatMap]
  simp only [List.length_map]

theorem mem_symbols (records : g.Records additions) {s : Symbol} :
    s ∈ g.symbols ↔
      s ∈ additions.map Addition.owner ∨ ∃ owner, Addition.edge ⟨owner, s⟩ ∈ additions := by
  rw [Graph.mem_symbols records.nodup_keys, records.keys, List.mem_eraseDups]
  simp only [DependsOn, records.dependenciesOf, List.mem_eraseDups, mem_entries]

end Records

/-- After any additions to the empty graph the keys, the rows, the symbols and the number of edges are
read off the additions, and the edges that are kept apart are as many as the entries of all rows.
Graphs that are given by their edges or by their rows are made by such additions. -/
theorem addAll_views :
    (∀ additions : List Addition,
      let g := empty.addAll additions
      let owners := additions.map Addition.owner
      g.keys = owners.eraseDups ∧
      (∀ s, g.dependenciesOf? s =
        if s ∈ owners then some (additions.filterMap (Addition.entry? s)).eraseDups else none) ∧
      (∀ s, g.contains s = (g.dependenciesOf? s).isSome) ∧
      g.symbols.Nodup ∧
      (∀ s, s ∈ g.symbols ↔ s ∈ owners ∨ ∃ owner, Addition.edge ⟨owner, s⟩ ∈ additions) ∧
      g.edgeCount = (g.keys.map fun s => (g.dependenciesOf s).length).sum) ∧
    (∀ edges, ofEdges edges = empty.addAll (edges.map .edge)) ∧
    ∀ rows, ofRows rows = empty.addAll (rows.flatMap additionsOfRow) := by
  refine ⟨?_, ofEdges_eq_addAll, ofRows_eq_addAll⟩
  intro additions g owners
  have records : g.Records additions := Records.empty.addAll additions
  refine ⟨records.keys, records.rows, ?_, nodup_symbols g, fun _ => records.mem_symbols,
    records.edgeCount⟩
  intro s
  rw [Bool.eq_iff_iff, contains_iff, isSome_dependenciesOf?]

example :
    let g := empty.addAll [.edge ⟨['b'], ['c']⟩, .symbol ['a'], .edge ⟨['b'], ['b']⟩,
      .edge ⟨['b'], ['c']⟩, .symbol ['b'], .edge ⟨['a'], ['c']⟩]
    g.rows = [(['b'], [['c'], ['b']]), (['a'], [['c']])] ∧ g.edgeCount = 3 := by
  decide

end Xref.Graph
