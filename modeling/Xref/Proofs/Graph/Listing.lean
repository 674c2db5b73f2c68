import Mathlib.Data.Set.Card
import Xref.Proofs.Graph.Views
import Xref.Proofs.Listing.Ownership

namespace Xref.Graph
open Listing

theorem records_ofListing (lines : List Text) :
    (ofListing lines).Records ((Listing.edges lines).map .edge) := by
  rw [ofListing, ofEdges_firstSeen]
  exact records_ofEdges _

theorem keys_ofListing (lines : List Text) :
    (ofListing lines).keys = (referringOwners lines).eraseDups := by
  have owners : ((Listing.edges lines).map Addition.edge).map Addition.owner =
      referringOwners lines := by
    rw [edges_eq_filterMap, referringOwners, List.map_map, List.map_filterMap]
    congr 1
    funext i
    cases referenceAt? lines i <;> rfl
  rw [(records_ofListing lines).keys, owners]

theorem mem_keys_ofListing {lines : List Text} {s : Symbol} :
    s ∈ (ofListing lines).keys ↔ ∃ i line, lines[i]? = some line ∧
      definition? line = none ∧ ownerAt lines i = s ∧ reference? line s ≠ none := by
  rw [keys_ofListing, List.mem_eraseDups, mem_referringOwners]

theorem dependenciesOf_ofListing (lines : List Text) (s : Symbol) :
    (ofListing lines).dependenciesOf s = (referencesOf lines s).eraseDups := by
  have entries : ((Listing.edges lines).map Addition.edge).filterMap (Addition.entry? s) =
      referencesOf lines s := by
    rw [edges_eq_filterMap, referencesOf, List.filterMap_map, List.filterMap_filterMap]
    congr 1
    funext i
    cases referenceAt? lines i <;> simp [Addition.entry?]
  rw [(records_ofListing lines).dependenciesOf, entries]

theorem mem_dependenciesOf_ofListing {lines : List Text} {s target : Symbol} :
    target ∈ (ofListing lines).dependenciesOf s ↔
      ∃ i, ownerAt lines i = s ∧ referenceAt? lines i = some target := by
  rw [dependenciesOf_ofListing, List.mem_eraseDups, mem_referencesOf]

theorem dependenciesOf?_ofListing (lines : List Text) (s : Symbol) :
    (ofListing lines).dependenciesOf? s =
      if s ∈ (ofListing lines).keys then some (referencesOf lines s).eraseDups else none := by
  have row := dependenciesOf_ofListing lines s
  unfold dependenciesOf at row
  split_ifs with key
  · obtain ⟨entries, found⟩ := Option.isSome_iff_exists.mp (isSome_dependenciesOf?.mpr key)
    rw [found, Option.getD_some] at row
    rw [found, row]
  · rwa [← Option.not_isSome_iff_eq_none, isSome_dependenciesOf?]

theorem dependenciesOf?_ofListing_ne_nil (lines : List Text) (s : Symbol) :
    (ofListing lines).dependenciesOf? s ≠ some [] := by
  intro found
  have key : s ∈ (ofListing lines).keys := by
    rw [← isSome_dependenciesOf?, found, Option.isSome_some]
  obtain ⟨i, line, located, body, rfl, refers⟩ := mem_keys_ofListing.mp key
  obtain ⟨target, refers⟩ := Option.ne_none_iff_exists'.mp refers
  have listed := mem_dependenciesOf_ofListing.mpr
    ⟨i, rfl, referenceAt?_eq_some.mpr ⟨line, located, body, refers⟩⟩
  rw [dependenciesOf, found] at listed
  exact List.not_mem_nil listed

theorem reference?_of_mem_dependenciesOf {lines : List Text} {s target : Symbol}
    (listed : target ∈ (ofListing lines).dependenciesOf s) :
    ∃ line ∈ lines, reference? line s = some target := by
  obtain ⟨i, rfl, refers⟩ := mem_dependenciesOf_ofListing.mp listed
  obtain ⟨line, located, -, refers⟩ := referenceAt?_eq_some.mp refers
  exact ⟨line, List.mem_of_getElem? located, refers⟩

theorem symbol_subset_line {lines : List Text} {s : Symbol} (listed : s ∈ (ofListing lines).symbols) :
    s = [] ∨ ∃ line ∈ lines, s ⊆ line := by
  rcases (mem_symbols (records_ofListing lines).nodup_keys).mp listed with key | ⟨owner, depends⟩
  · obtain ⟨i, -, -, -, rfl, -⟩ := mem_keys_ofListing.mp key
    exact ownerAt_subset lines i
  · obtain ⟨line, among, refers⟩ := reference?_of_mem_dependenciesOf depends
    exact .inr ⟨line, among, subset_of_reference? refers⟩

theorem edgeCount_ofListing (lines : List Text) :
    (ofListing lines).edgeCount =
      {edge : Edge | ∃ i, ownerAt lines i = edge.owner ∧
        referenceAt? lines i = some edge.target}.ncard := by
  have distinct : (ofListing lines).edges.Nodup := by
    rw [(records_ofListing lines).edges]
    exact nodup_eraseDups _
  have members : {edge : Edge | ∃ i, ownerAt lines i = edge.owner ∧
      referenceAt? lines i = some edge.target} = ((ofListing lines).edges.toFinset : Set Edge) := by
    ext edge
    rw [Set.mem_ofPred_eq, List.coe_toFinset, Set.mem_ofPred_eq,
      (records_ofListing lines).consistent edge, mem_dependenciesOf_ofListing]
  rw [members, Set.ncard_coe_finset, List.toFinset_card_of_nodup distinct, edgeCount]

/-- What the graph of a listing holds, said line by line. The owner of a line is the last symbol
defined before it. -/
theorem ofListing_by_owners (lines : List Text) :
    (ofListing lines).keys = (referringOwners lines).eraseDups ∧
    (∀ s, s ∈ (ofListing lines).keys ↔ ∃ i line, lines[i]? = some line ∧
      definition? line = none ∧ ownerAt lines i = s ∧ reference? line s ≠ none) ∧
    (∀ s, (ofListing lines).dependenciesOf? s =
      if s ∈ (ofListing lines).keys then some (referencesOf lines s).eraseDups else none) ∧
    (∀ s, (ofListing lines).dependenciesOf? s ≠ some []) ∧
    (∀ s, s ∉ (ofListing lines).dependenciesOf s) ∧
    (∀ s, ∀ target ∈ (ofListing lines).dependenciesOf s,
      target ≠ [] ∧ '>' ∉ target ∧ '+' ∉ target) ∧
    (ofListing lines).edgeCount =
      {edge : Edge | ∃ i, ownerAt lines i = edge.owner ∧
        referenceAt? lines i = some edge.target}.ncard := by
  refine ⟨keys_ofListing lines, fun _ => mem_keys_ofListing, dependenciesOf?_ofListing lines,
    dependenciesOf?_ofListing_ne_nil lines, ?_, ?_, edgeCount_ofListing lines⟩
  · intro s listed
    obtain ⟨line, -, refers⟩ := reference?_of_mem_dependenciesOf listed
    exact (reference?_eq_some refers).1 rfl
  · intro s target listed
    obtain ⟨line, -, refers⟩ := reference?_of_mem_dependenciesOf listed
    exact (reference?_eq_some refers).2

/-- References before the first definition belong to the nameless symbol, and the two blocks of `a`
make one row. -/
theorem ofListing_by_owners_merges :
    let lines : List Text := ["<early>", "0 <a>:", "<b>", "4 <b>:", "<a+0x4>", "8 <a>:", "<a> <c+8>"]
    (ofListing lines).keys = (referringOwners lines).eraseDups ∧
      (ofListing lines).dependenciesOf ['a'] = [['b'], ['c']] ∧
      (['c'] ≠ [] ∧ '>' ∉ ['c'] ∧ '+' ∉ ['c']) := by
  intro lines
  have row : (ofListing lines).dependenciesOf ['a'] = [['b'], ['c']] := by decide
  have listed : ['c'] ∈ (ofListing lines).dependenciesOf ['a'] := by simp [row]
  obtain ⟨keys, -, -, -, -, names, -⟩ := ofListing_by_owners lines
  exact ⟨keys, row, names ['a'] ['c'] listed⟩

end Xref.Graph
