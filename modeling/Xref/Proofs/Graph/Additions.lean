import Xref.Graph.Basic
import Xref.Proofs.FirstSeen

namespace Xref.Graph

inductive Addition where
  | symbol (s : Symbol)
  | edge (edge : Edge)
  deriving DecidableEq, Repr

namespace Addition

def owner : Addition → Symbol
  | .symbol s => s
  | .edge added => added.owner

def edge? : Addition → Option Edge
  | .symbol _ => none
  | .edge added => some added

def entry? (s : Symbol) : Addition → Option Symbol
  | .symbol _ => none
  | .edge added => if added.owner = s then some added.target else none

end Addition

def add (g : Graph) : Addition → Graph
  | .symbol s => g.addSymbol s
  | .edge added => g.addEdge added

def addAll (g : Graph) (additions : List Addition) : Graph := additions.foldl add g

/-- The graph is what the additions, made to the empty graph, leave behind. -/
structure Records (g : Graph) (additions : List Addition) : Prop where
  keys : g.keys = (additions.map Addition.owner).eraseDups
  rows : ∀ s, g.dependenciesOf? s =
    if s ∈ additions.map Addition.owner then some (additions.filterMap (Addition.entry? s)).eraseDups
    else none
  edges : g.edges = (additions.filterMap Addition.edge?).eraseDups

theorem map_fst_appendEntry (s target : Symbol) (rows : List (Symbol × List Symbol)) :
    (appendEntry s target rows).map Prod.fst =
      if s ∈ rows.map Prod.fst then rows.map Prod.fst else rows.map Prod.fst ++ [s] := by
  induction rows with
  | nil => rfl
  | cons row rows ih =>
      obtain ⟨key, targets⟩ := row
      by_cases same : key = s
      · simp [appendEntry, same]
      · simp only [appendEntry, same, if_false, List.map_cons, ih]
        have other : ¬ s = key := fun equal => same equal.symm
        split_ifs with old <;> simp_all

theorem lookup_row (key k : Symbol) (targets : List Symbol) (rows : List (Symbol × List Symbol)) :
    ((key, targets) :: rows).lookup k = if k = key then some targets else rows.lookup k := by
  rw [List.lookup_cons]
  by_cases same : k = key
  · simp [same]
  · simp [same, beq_eq_false_iff_ne.mpr same]

theorem lookup_appendEntry (s target k : Symbol) (rows : List (Symbol × List Symbol)) :
    (appendEntry s target rows).lookup k =
      if k = s then some ((rows.lookup s).getD [] ++ [target]) else rows.lookup k := by
  induction rows with
  | nil => simp only [appendEntry, lookup_row, List.lookup_nil, Option.getD_none, List.nil_append]
  | cons row rows ih =>
      obtain ⟨key, targets⟩ := row
      by_cases same : key = s
      · subst same
        simp only [appendEntry, if_true, lookup_row, Option.getD_some]
        split_ifs <;> rfl
      · have other : ¬ s = key := fun equal => same equal.symm
        simp only [appendEntry, same, other, if_false, lookup_row, ih]
        by_cases looked : k = key
        · simp [looked, same]
        · simp [looked]

section
variable {g : Graph} {s k : Symbol} {edge : Edge}

theorem contains_iff : g.contains s = true ↔ s ∈ g.keys := by
  simp [contains, keys]

theorem isSome_dependenciesOf? : (g.dependenciesOf? s).isSome = true ↔ s ∈ g.keys := by
  rw [dependenciesOf?, List.lookup_isSome_iff, keys, List.mem_map]
  simp only [beq_iff_eq, eq_comm (a := s)]

theorem keys_addSymbol : (g.addSymbol s).keys = if s ∈ g.keys then g.keys else g.keys ++ [s] := by
  unfold addSymbol
  by_cases key : s ∈ g.keys
  · rw [if_pos (contains_iff.mpr key), if_pos key]
  · rw [if_neg (mt contains_iff.mp key), if_neg key]
    simp [keys]

theorem dependenciesOf?_addSymbol : (g.addSymbol s).dependenciesOf? k =
    if k = s then some (g.dependenciesOf s) else g.dependenciesOf? k := by
  unfold addSymbol
  by_cases key : s ∈ g.keys
  · rw [if_pos (contains_iff.mpr key)]
    obtain ⟨row, found⟩ := Option.isSome_iff_exists.mp (isSome_dependenciesOf?.mpr key)
    split_ifs with same
    · rw [same, dependenciesOf, found, Option.getD_some]
    · rfl
  · rw [if_neg (mt contains_iff.mp key)]
    have missing : g.dependenciesOf? s = none := by
      rwa [← Option.not_isSome_iff_eq_none, isSome_dependenciesOf?]
    change (g.rows ++ [(s, [])]).lookup k = _
    rw [List.lookup_append, lookup_row, List.lookup_nil]
    split_ifs with same
    · subst same
      rw [dependenciesOf, missing]
      rw [dependenciesOf?] at missing
      rw [missing]
      rfl
    · rw [Option.or_none]
      rfl

theorem edges_addSymbol : (g.addSymbol s).edges = g.edges := by
  unfold addSymbol
  split_ifs <;> rfl

theorem dependenciesOf_eq_nil (missing : s ∉ g.keys) : g.dependenciesOf s = [] := by
  rw [← isSome_dependenciesOf?, Option.not_isSome_iff_eq_none] at missing
  rw [dependenciesOf, missing, Option.getD_none]

def Consistent (g : Graph) : Prop :=
  ∀ edge, edge ∈ g.edges ↔ edge.target ∈ g.dependenciesOf edge.owner

theorem edges_addEdge :
    (g.addEdge edge).edges = if edge ∈ g.edges then g.edges else g.edges ++ [edge] := by
  unfold addEdge
  split_ifs <;> rfl

theorem keys_addEdge (consistent : g.Consistent) :
    (g.addEdge edge).keys = if edge.owner ∈ g.keys then g.keys else g.keys ++ [edge.owner] := by
  unfold addEdge
  by_cases old : edge ∈ g.edges
  · have key : edge.owner ∈ g.keys := by
      by_contra missing
      have listed := (consistent edge).mp old
      rw [dependenciesOf_eq_nil missing] at listed
      exact absurd listed List.not_mem_nil
    rw [if_pos old, if_pos key]
  · rw [if_neg old]
    exact map_fst_appendEntry edge.owner edge.target g.rows

theorem dependenciesOf?_addEdge (consistent : g.Consistent) : (g.addEdge edge).dependenciesOf? k =
    if k = edge.owner then
      some (if edge.target ∈ g.dependenciesOf edge.owner then g.dependenciesOf edge.owner
        else g.dependenciesOf edge.owner ++ [edge.target])
    else g.dependenciesOf? k := by
  unfold addEdge
  by_cases old : edge ∈ g.edges
  · have listed := (consistent edge).mp old
    rw [if_pos old, if_pos listed]
    split_ifs with same
    · cases found : g.dependenciesOf? edge.owner with
      | none => simp [dependenciesOf, found] at listed
      | some row => rw [same, found, dependenciesOf, found, Option.getD_some]
    · rfl
  · rw [if_neg old, if_neg (mt (consistent edge).mpr old)]
    exact lookup_appendEntry edge.owner edge.target k g.rows

end

theorem mem_entries {additions : List Addition} {s target : Symbol} :
    target ∈ additions.filterMap (Addition.entry? s) ↔ .edge ⟨s, target⟩ ∈ additions := by
  rw [List.mem_filterMap]
  constructor
  · rintro ⟨_ | ⟨owner, other⟩, made, entry⟩
    · simp [Addition.entry?] at entry
    · simp only [Addition.entry?, Option.ite_none_right_eq_some, Option.some.injEq] at entry
      obtain ⟨rfl, rfl⟩ := entry
      exact made
  · exact fun made => ⟨_, made, if_pos rfl⟩

theorem mem_edges {additions : List Addition} {edge : Edge} :
    edge ∈ additions.filterMap Addition.edge? ↔ .edge edge ∈ additions := by
  rw [List.mem_filterMap]
  constructor
  · rintro ⟨_ | other, made, same⟩
    · simp [Addition.edge?] at same
    · simp only [Addition.edge?, Option.some.injEq] at same
      exact same ▸ made
  · exact fun made => ⟨_, made, rfl⟩

namespace Records
variable {g : Graph} {additions : List Addition}

theorem empty : Records Graph.empty [] := ⟨rfl, fun _ => rfl, rfl⟩

theorem dependenciesOf (records : g.Records additions) (s : Symbol) :
    g.dependenciesOf s = (additions.filterMap (Addition.entry? s)).eraseDups := by
  rw [Graph.dependenciesOf, records.rows]
  split_ifs with owned
  · rfl
  · have none : additions.filterMap (Addition.entry? s) = [] := by
      apply List.eq_nil_iff_forall_not_mem.mpr
      intro target listed
      exact owned (List.mem_map.mpr ⟨_, mem_entries.mp listed, rfl⟩)
    rw [none]
    rfl

theorem consistent (records : g.Records additions) : g.Consistent := by
  intro edge
  rw [records.edges, records.dependenciesOf, List.mem_eraseDups, List.mem_eraseDups, mem_edges,
    mem_entries]

theorem addSymbol (records : g.Records additions) (s : Symbol) :
    (g.addSymbol s).Records (additions ++ [.symbol s]) := by
  constructor
  · rw [keys_addSymbol, records.keys, List.map_append, List.map_singleton, Addition.owner,
      eraseDups_concat]
    simp only [List.mem_eraseDups]
  · intro k
    have entries : (additions ++ [Addition.symbol s]).filterMap (Addition.entry? k) =
        additions.filterMap (Addition.entry? k) := by
      simp [List.filterMap_cons, Addition.entry?]
    rw [dependenciesOf?_addSymbol, records.dependenciesOf, records.rows, entries]
    by_cases same : k = s <;> simp [same, Addition.owner]
  · rw [edges_addSymbol, records.edges]
    simp [List.filterMap_cons, Addition.edge?]

theorem addEdge (records : g.Records additions) (edge : Edge) :
    (g.addEdge edge).Records (additions ++ [.edge edge]) := by
  constructor
  · rw [keys_addEdge records.consistent, records.keys, List.map_append, List.map_singleton,
      Addition.owner, eraseDups_concat]
    simp only [List.mem_eraseDups]
  · intro k
    rw [dependenciesOf?_addEdge records.consistent, records.dependenciesOf, records.rows]
    by_cases same : k = edge.owner
    · subst same
      have entries : (additions ++ [Addition.edge edge]).filterMap (Addition.entry? edge.owner) =
          additions.filterMap (Addition.entry? edge.owner) ++ [edge.target] := by
        simp [Addition.entry?]
      rw [entries, eraseDups_concat]
      simp [Addition.owner]
    · have other : ¬ edge.owner = k := fun equal => same equal.symm
      simp [same, other, Addition.owner, Addition.entry?]
  · have edges : (additions ++ [Addition.edge edge]).filterMap Addition.edge? =
        additions.filterMap Addition.edge? ++ [edge] := by
      simp [Addition.edge?]
    rw [edges_addEdge, records.edges, edges, eraseDups_concat]
    simp only [List.mem_eraseDups]

theorem add (records : g.Records additions) (addition : Addition) :
    (g.add addition).Records (additions ++ [addition]) := by
  cases addition with
  | symbol s => exact records.addSymbol s
  | edge edge => exact records.addEdge edge

theorem addAll (records : g.Records additions) (more : List Addition) :
    (g.addAll more).Records (additions ++ more) := by
  induction more generalizing g additions with
  | nil => simpa [Graph.addAll] using records
  | cons addition more ih => simpa [Graph.addAll] using ih (records.add addition)

end Records

theorem records_ofEdges (edges : List Edge) : (ofEdges edges).Records (edges.map .edge) := by
  have built := Records.empty.addAll (edges.map Addition.edge)
  rw [List.nil_append, addAll, List.foldl_map] at built
  exact built

theorem ofEdges_firstSeen (edges : List Edge) : ofEdges (firstSeen edges) = ofEdges edges := by
  have concat (edges : List Edge) (edge : Edge) :
      ofEdges (edges ++ [edge]) = (ofEdges edges).addEdge edge := by
    simp [ofEdges]
  rw [firstSeen_eq_eraseDups]
  induction edges using List.reverseRecOn with
  | nil => rfl
  | append_singleton edges edge ih =>
      rw [eraseDups_concat, concat]
      split_ifs with old
      · have recorded : edge ∈ (ofEdges edges).edges := by
          rw [(records_ofEdges edges).edges, List.mem_eraseDups, mem_edges]
          exact List.mem_map_of_mem old
        rw [ih, addEdge, if_pos recorded]
      · rw [concat, ih]

end Xref.Graph
