import Xref.Proofs.Graph.Views

namespace Xref.Listing

theorem numbered_append (before after : List Edge) (edge : Edge) :
    ∃ later, numbered (before ++ edge :: after) =
      numbered before ++ ⟨edge, before.length + 1⟩ :: later := by
  simp [numbered, List.zipIdx_append]

theorem length_numbered (edges : List Edge) : (numbered edges).length = edges.length := by
  simp [numbered]

theorem items_numbered (edges : List Edge) : (numbered edges).map Located.item = edges := by
  simp [numbered, Function.comp_def]

theorem consumed_of_numbered {edges : List Edge} {before after : List (Located Edge)}
    {located : Located Edge} (cut : numbered edges = before ++ located :: after) :
    located.consumed = before.length + 1 := by
  have here : (numbered edges)[before.length]? = some located := by simp [cut]
  simp only [numbered, List.getElem?_map, List.getElem?_zipIdx, Option.map_map,
    Option.map_eq_some_iff, Function.comp_apply, Nat.zero_add] at here
  obtain ⟨edge, -, rfl⟩ := here
  rfl

theorem items_distinct_numbered (edges : List Edge) :
    (distinct (numbered edges)).map Located.item = firstSeen edges := by
  rw [distinct, map_firstSeenBy, items_numbered]
  rfl

theorem mem_distinct_numbered {before after : List Edge} {edge : Edge} :
    ⟨edge, before.length + 1⟩ ∈ distinct (numbered (before ++ edge :: after)) ↔ edge ∉ before := by
  obtain ⟨later, split⟩ := numbered_append before after edge
  rw [distinct, mem_firstSeenBy]
  constructor
  · rintro ⟨-, earlier, others, cut, new⟩
    have position : earlier.length = (numbered before).length := by
      rw [length_numbered]
      exact (Nat.succ.inj (consumed_of_numbered cut)).symm
    obtain ⟨rfl, -⟩ := List.append_inj (cut.symm.trans split) position
    rwa [items_numbered] at new
  · intro new
    exact ⟨List.not_mem_nil, numbered before, later, split, by rwa [items_numbered]⟩

end Xref.Listing

namespace Xref.Graph

theorem mem_edges_ofEdges {edges : List Edge} {edge : Edge} :
    edge ∈ (ofEdges edges).edges ↔ edge ∈ edges := by
  rw [(records_ofEdges edges).edges, List.mem_eraseDups, mem_edges, List.mem_map]
  simp

theorem edges_ofEdges (edges : List Edge) : (ofEdges edges).edges = firstSeen edges := by
  have own : (edges.map Addition.edge).filterMap Addition.edge? = edges := by
    simp [List.filterMap_map, Function.comp_def, Addition.edge?]
  rw [(records_ofEdges edges).edges, own, firstSeen_eq_eraseDups]

theorem addEdge_eq_self {g : Graph} {edge : Edge} : g.addEdge edge = g ↔ edge ∈ g.edges := by
  constructor
  · intro unchanged
    by_contra new
    have longer := congrArg (List.length ∘ Graph.edges) unchanged
    simp [edges_addEdge, new] at longer
  · intro old
    rw [addEdge, if_pos old]

theorem eraseDups_entries (edges : List Edge) (s : Symbol) :
    ((edges.map Addition.edge).filterMap (Addition.entry? s)).eraseDups =
      ((firstSeen edges).filter (·.owner = s)).map Edge.target := by
  rw [firstSeen_eq_eraseDups]
  induction edges using List.reverseRecOn with
  | nil => rfl
  | append_singleton edges edge ih =>
      rw [List.map_append, List.map_singleton, List.filterMap_append, eraseDups_concat]
      by_cases own : edge.owner = s
      · subst own
        have entry : [Addition.edge edge].filterMap (Addition.entry? edge.owner) = [edge.target] := by
          simp [Addition.entry?]
        have repeated : edge.target ∈ (edges.map Addition.edge).filterMap (Addition.entry? edge.owner) ↔
            edge ∈ edges := by
          rw [mem_entries, List.mem_map]
          simp
        rw [entry, eraseDups_concat, ih]
        simp only [repeated]
        split_ifs with old <;> simp
      · have none : [Addition.edge edge].filterMap (Addition.entry? s) = [] := by
          simp [Addition.entry?, own]
        rw [none, List.append_nil, ih]
        split_ifs with old <;> simp [own]

/-- Freeing a stream of edges from repetitions does not change the graph that is made of it. The edges
that are left are as many as the graph has, and those of an owner are its row. Position by position, an
edge comes out exactly when it changes the graph of the edges before it. -/
theorem deduplications_agree :
    (∀ edges : List Edge,
      let unique := (Listing.distinct (Listing.numbered edges)).map Listing.Located.item
      let g := ofEdges edges
      ofEdges unique = g ∧ g.edgeCount = unique.length ∧ g.edges = unique ∧
      ∀ s, g.dependenciesOf? s =
        if s ∈ edges.map Edge.owner then some ((unique.filter (·.owner = s)).map Edge.target)
        else none) ∧
    ∀ (before after : List Edge) (edge : Edge),
      ⟨edge, before.length + 1⟩ ∈ Listing.distinct (Listing.numbered (before ++ edge :: after)) ↔
        (ofEdges before).addEdge edge ≠ ofEdges before := by
  constructor
  · intro edges unique g
    have distinct : unique = firstSeen edges := Listing.items_distinct_numbered edges
    rw [distinct]
    refine ⟨ofEdges_firstSeen edges, congrArg List.length (edges_ofEdges edges), edges_ofEdges edges, ?_⟩
    intro s
    rw [(records_ofEdges edges).rows, eraseDups_entries]
    simp [Addition.owner]
  · intro before after edge
    rw [Listing.mem_distinct_numbered, ne_eq, addEdge_eq_self, mem_edges_ofEdges]

end Xref.Graph
