import Xref.Proofs.Graph.Views

namespace Xref.Graph
variable {g h : Graph}

structure SameAs (g h : Graph) : Prop where
  rows : g.rows = h.rows
  edges : g.edges.Perm h.edges

namespace SameAs

theorem addSymbol (same : g.SameAs h) (s : Symbol) : (g.addSymbol s).SameAs (h.addSymbol s) := by
  have contains : g.contains s = h.contains s := by
    rw [Graph.contains, Graph.contains, same.rows]
  unfold Graph.addSymbol
  rw [contains]
  split_ifs
  · exact same
  · exact ⟨congrArg (· ++ [(s, [])]) same.rows, same.edges⟩

theorem addEdge (same : g.SameAs h) (edge : Edge) : (g.addEdge edge).SameAs (h.addEdge edge) := by
  unfold Graph.addEdge
  by_cases old : edge ∈ g.edges
  · rw [if_pos old, if_pos (same.edges.mem_iff.mp old)]
    exact same
  · rw [if_neg old, if_neg (mt same.edges.mem_iff.mpr old)]
    exact ⟨congrArg (appendEntry edge.owner edge.target) same.rows, same.edges.append_right [edge]⟩

theorem addAll (same : g.SameAs h) (additions : List Addition) :
    (g.addAll additions).SameAs (h.addAll additions) := by
  induction additions generalizing g h with
  | nil => exact same
  | cons addition additions ih =>
      cases addition with
      | symbol s => exact ih (same.addSymbol s)
      | edge edge => exact ih (same.addEdge edge)

end SameAs

/-! ## Taking over a row -/

def rowEdges (row : Symbol × List Symbol) : List Edge := row.2.map (Edge.mk row.1)

theorem appendEntry_last {s target : Symbol} {targets : List Symbol}
    {rows : List (Symbol × List Symbol)} (absent : s ∉ rows.map Prod.fst) :
    appendEntry s target (rows ++ [(s, targets)]) = rows ++ [(s, targets ++ [target])] := by
  induction rows with
  | nil => simp [appendEntry]
  | cons row rows ih =>
      rw [List.map_cons, List.mem_cons, not_or] at absent
      have other : ¬ row.1 = s := fun equal => absent.1 equal.symm
      simp only [List.cons_append, appendEntry, other, if_false, ih absent.2]

def Owned (g : Graph) : Prop := ∀ edge ∈ g.edges, edge.owner ∈ g.keys

theorem addRow_of_new {row : Symbol × List Symbol} (owned : g.Owned) (absent : row.1 ∉ g.keys)
    (distinct : row.2.Nodup) : g.addRow row = ⟨g.rows ++ [row], g.edges ++ rowEdges row⟩ := by
  obtain ⟨s, targets⟩ := row
  induction targets using List.reverseRecOn with
  | nil =>
      rw [addRow, addSymbol, if_neg (mt contains_iff.mp absent)]
      simp [rowEdges]
  | append_singleton targets target ih =>
      rw [← List.concat_eq_append, List.nodup_concat] at distinct
      have before : g.addRow (s, targets) =
          ⟨g.rows ++ [(s, targets)], g.edges ++ rowEdges (s, targets)⟩ := ih absent distinct.2
      have new : ⟨s, target⟩ ∉ g.edges ++ rowEdges (s, targets) := by
        rw [List.mem_append, not_or]
        refine ⟨fun old => absent (owned _ old), fun old => distinct.1 ?_⟩
        obtain ⟨entry, listed, same⟩ := List.mem_map.mp old
        obtain rfl : entry = target := congrArg Edge.target same
        exact listed
      calc
        g.addRow (s, targets ++ [target]) = (g.addRow (s, targets)).addEdge ⟨s, target⟩ :=
          List.foldl_concat _ _ _ _
        _ = ⟨g.rows ++ [(s, targets ++ [target])],
              g.edges ++ rowEdges (s, targets) ++ [⟨s, target⟩]⟩ := by
            rw [before, addEdge, if_neg new, appendEntry_last absent]
        _ = _ := by simp [rowEdges]

theorem ofRows_of_nodup {rows : List (Symbol × List Symbol)} (keys : (rows.map Prod.fst).Nodup)
    (entries : ∀ row ∈ rows, row.2.Nodup) : ofRows rows = ⟨rows, rows.flatMap rowEdges⟩ := by
  induction rows using List.reverseRecOn with
  | nil => rfl
  | append_singleton rows row ih =>
      rw [List.map_append, List.map_singleton, ← List.concat_eq_append, List.nodup_concat] at keys
      rw [List.forall_mem_append, List.forall_mem_singleton] at entries
      have owned : Owned ⟨rows, rows.flatMap rowEdges⟩ := by
        intro edge listed
        obtain ⟨own, located, among⟩ := List.mem_flatMap.mp listed
        obtain ⟨target, -, rfl⟩ := List.mem_map.mp among
        exact List.mem_map_of_mem located
      calc
        ofRows (rows ++ [row]) = (ofRows rows).addRow row := List.foldl_concat _ _ _ _
        _ = addRow ⟨rows, rows.flatMap rowEdges⟩ row := by rw [ih keys.2 entries.1]
        _ = ⟨rows ++ [row], rows.flatMap rowEdges ++ rowEdges row⟩ :=
          addRow_of_new owned keys.1 entries.2
        _ = _ := by simp

theorem flatMap_rowEdges (distinct : g.keys.Nodup) : g.rows.flatMap rowEdges = g.listedEdges := by
  rw [rows_eq_map_keys distinct, List.flatMap_map]
  rfl

theorem Records.sameAs_ofRows {additions : List Addition} (records : g.Records additions) :
    (ofRows g.rows).SameAs g := by
  have entries : ∀ row ∈ g.rows, row.2.Nodup := by
    intro row located
    have row_eq : g.dependenciesOf row.1 = row.2 := by
      rw [Graph.dependenciesOf, dependenciesOf?, lookup_of_mem_rows records.nodup_keys located]
      rfl
    exact row_eq ▸ records.nodup_dependenciesOf row.1
  rw [ofRows_of_nodup records.nodup_keys entries, flatMap_rowEdges records.nodup_keys]
  exact ⟨rfl, records.edges_perm_listedEdges.symm⟩

/-- A graph that any additions made is found again from its rows: the rows come back as they were, and
the edges that are kept apart are the same. Whatever is added to both later, they stay the same. -/
theorem rebuilt_graph_stays_same (additions later : List Addition) :
    let g := empty.addAll additions
    let rebuilt := ofRows g.rows
    rebuilt.SameAs g ∧ (rebuilt.addAll later).SameAs (g.addAll later) := by
  intro g rebuilt
  have records : g.Records additions := Records.empty.addAll additions
  exact ⟨records.sameAs_ofRows, records.sameAs_ofRows.addAll later⟩

/-- The entry of `a` comes before the second one of `b`, so the two sets are ordered differently, and
still the edge from `b` to `b` is a repetition for both. -/
example :
    let g := empty.addAll [.edge ⟨['b'], ['c']⟩, .edge ⟨['a'], ['b']⟩, .edge ⟨['b'], ['b']⟩, .symbol ['d']]
    let rebuilt := ofRows g.rows
    rebuilt.edges ≠ g.edges ∧ rebuilt.rows = g.rows ∧ rebuilt.addEdge ⟨['b'], ['b']⟩ = rebuilt := by
  decide

end Xref.Graph
