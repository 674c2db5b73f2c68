import Xref.Listing.Edges
import Xref.Proofs.Listing.Definition

namespace Xref.Listing

def lastDefined (owner : Symbol) (lines : List Text) : Symbol :=
  (lines.filterMap definition?).getLast?.getD owner

def ownerAt (lines : List Text) (i : Nat) : Symbol := lastDefined Symbol.nameless (lines.take i)

def referenceAt? (lines : List Text) (i : Nat) : Option Symbol :=
  match lines[i]? with
  | none => none
  | some line =>
    match definition? line with
    | none => reference? line (ownerAt lines i)
    | some _ => none

def referringOwners (lines : List Text) : List Symbol :=
  (List.range lines.length).filterMap fun i => (referenceAt? lines i).map fun _ => ownerAt lines i

def referencesOf (lines : List Text) (s : Symbol) : List Symbol :=
  (List.range lines.length).filterMap fun i =>
    if ownerAt lines i = s then referenceAt? lines i else none

theorem lastDefined_cons (owner : Symbol) (line : Text) (lines : List Text) :
    lastDefined owner (line :: lines) = lastDefined (readLine owner line).1 lines := by
  unfold lastDefined readLine
  cases defined : definition? line with
  | none => simp [defined]
  | some name => simp [defined, List.getLast?_cons]

theorem locatedFrom_append (owner : Symbol) (consumed : Nat) (lines more : List Text) :
    locatedFrom owner consumed (lines ++ more) = locatedFrom owner consumed lines ++
      locatedFrom (lastDefined owner lines) (consumed + lines.length) more := by
  induction lines generalizing owner consumed with
  | nil => rfl
  | cons line lines ih =>
      rw [lastDefined_cons, List.length_cons, Nat.add_comm lines.length, ← Nat.add_assoc]
      rcases read : readLine owner line with ⟨after, _ | edge⟩
      · simp only [List.cons_append, locatedFrom, read]
        exact ih after (consumed + 1)
      · simp only [List.cons_append, locatedFrom, read]
        rw [ih after (consumed + 1)]

theorem locatedFrom_eq_filterMap (owner : Symbol) (consumed : Nat) (lines : List Text) :
    locatedFrom owner consumed lines = (List.range lines.length).filterMap fun i =>
      (lines[i]?.bind fun line => (readLine (lastDefined owner (lines.take i)) line).2).map
        (Located.mk · (consumed + i + 1)) := by
  induction lines generalizing owner consumed with
  | nil => rfl
  | cons line lines ih =>
      rw [List.length_cons, List.range_succ_eq_map, List.filterMap_cons, List.filterMap_map]
      have later : ((fun i => ((line :: lines)[i]?.bind fun line' =>
          (readLine (lastDefined owner ((line :: lines).take i)) line').2).map
            (Located.mk · (consumed + i + 1))) ∘ Nat.succ) =
          fun i => (lines[i]?.bind fun line' =>
            (readLine (lastDefined (readLine owner line).1 (lines.take i)) line').2).map
              (Located.mk · (consumed + 1 + i + 1)) := by
        funext i
        have shifted : consumed + (i + 1) + 1 = consumed + 1 + i + 1 := by omega
        simp only [Function.comp_apply, Nat.succ_eq_add_one, List.getElem?_cons_succ,
          List.take_succ_cons, lastDefined_cons, shifted]
      have first : lastDefined owner [] = owner := rfl
      simp only [List.getElem?_cons_zero, Option.bind_some, List.take_zero, first, later]
      rcases read : readLine owner line with ⟨after, _ | edge⟩
      · simp only [locatedFrom, read]
        exact ih after (consumed + 1)
      · simp only [locatedFrom, read]
        rw [ih after (consumed + 1)]
        rfl

theorem located_eq_filterMap (lines : List Text) :
    located lines = (List.range lines.length).filterMap fun i =>
      (referenceAt? lines i).map fun target => ⟨⟨ownerAt lines i, target⟩, i + 1⟩ := by
  rw [located, locatedFrom_eq_filterMap]
  congr 1
  funext i
  unfold referenceAt? ownerAt readLine
  cases lines[i]? with
  | none => rfl
  | some line => cases defined : definition? line <;> simp [defined, Function.comp_def]

theorem edges_eq_filterMap (lines : List Text) :
    edges lines = (List.range lines.length).filterMap fun i =>
      (referenceAt? lines i).map (Edge.mk (ownerAt lines i)) := by
  rw [edges, located_eq_filterMap, List.map_filterMap]
  congr 1
  funext i
  rw [Option.map_map]
  rfl

theorem referenceAt?_eq_some {lines : List Text} {i : Nat} {target : Symbol} :
    referenceAt? lines i = some target ↔ ∃ line, lines[i]? = some line ∧
      definition? line = none ∧ reference? line (ownerAt lines i) = some target := by
  unfold referenceAt?
  cases lines[i]? with
  | none => simp
  | some line => cases defined : definition? line <;> simp [defined]

theorem lt_length_of_referenceAt? {lines : List Text} {i : Nat} {target : Symbol}
    (refers : referenceAt? lines i = some target) : i < lines.length := by
  obtain ⟨line, located, -⟩ := referenceAt?_eq_some.mp refers
  exact (List.getElem?_eq_some_iff.mp located).1

theorem mem_referringOwners {lines : List Text} {s : Symbol} :
    s ∈ referringOwners lines ↔ ∃ i line, lines[i]? = some line ∧
      definition? line = none ∧ ownerAt lines i = s ∧ reference? line s ≠ none := by
  unfold referringOwners
  rw [List.mem_filterMap]
  constructor
  · rintro ⟨i, -, given⟩
    obtain ⟨target, refers, rfl⟩ := Option.map_eq_some_iff.mp given
    obtain ⟨line, located, body, refers⟩ := referenceAt?_eq_some.mp refers
    exact ⟨i, line, located, body, rfl, by simp [refers]⟩
  · rintro ⟨i, line, located, body, rfl, refers⟩
    obtain ⟨target, refers⟩ := Option.ne_none_iff_exists'.mp refers
    have given := referenceAt?_eq_some.mpr ⟨line, located, body, refers⟩
    exact ⟨i, List.mem_range.mpr (lt_length_of_referenceAt? given), by rw [given, Option.map_some]⟩

theorem mem_referencesOf {lines : List Text} {s target : Symbol} :
    target ∈ referencesOf lines s ↔
      ∃ i, ownerAt lines i = s ∧ referenceAt? lines i = some target := by
  unfold referencesOf
  rw [List.mem_filterMap]
  constructor
  · rintro ⟨i, -, given⟩
    exact ⟨i, Option.ite_none_right_eq_some.mp given⟩
  · rintro ⟨i, owned, refers⟩
    exact ⟨i, List.mem_range.mpr (lt_length_of_referenceAt? refers), by rw [if_pos owned, refers]⟩

/-! ## Names in references -/

def IsReferenceName (name : Symbol) : Prop := name ≠ [] ∧ '>' ∉ name ∧ '+' ∉ name

theorem eq_takeWhile_of_referenceHere? {text : Text} {name : Symbol}
    (named : referenceHere? text = some name) :
    name = text.takeWhile (fun c => c ≠ '>' && c ≠ '+') ∧ name ≠ [] := by
  unfold referenceHere? at named
  grind

theorem isReferenceName_of_referenceHere? {text : Text} {name : Symbol}
    (named : referenceHere? text = some name) : IsReferenceName name := by
  obtain ⟨rfl, present⟩ := eq_takeWhile_of_referenceHere? named
  refine ⟨present, ?_, ?_⟩
  · intro closing
    simpa using List.mem_takeWhile_imp closing
  · intro plus
    simpa using List.mem_takeWhile_imp plus

theorem referenceHere?_of_mem_referencesFrom {name : Symbol} {inside : Bool} {text : Text}
    (named : name ∈ referencesFrom inside text) :
    ∃ place, place <:+ text ∧ referenceHere? place = some name := by
  induction text generalizing inside with
  | nil => simp [referencesFrom] at named
  | cons c rest ih =>
      have later {inside : Bool} (named : name ∈ referencesFrom inside rest) :
          ∃ place, place <:+ c :: rest ∧ referenceHere? place = some name := by
        obtain ⟨place, suffix, here⟩ := ih named
        exact ⟨place, suffix.trans (List.suffix_cons c rest), here⟩
      unfold referencesFrom at named
      split_ifs at named
      · exact later named
      · cases here : referenceHere? rest with
        | none =>
            rw [here] at named
            exact later named
        | some first =>
            rw [here] at named
            rcases List.mem_cons.mp named with rfl | named
            · exact ⟨rest, List.suffix_cons c rest, here⟩
            · exact later named
      · exact later named

theorem reference?_eq_some {line : Text} {owner target : Symbol}
    (refers : reference? line owner = some target) : target ≠ owner ∧ IsReferenceName target := by
  have other := List.find?_some refers
  obtain ⟨place, -, here⟩ :=
    referenceHere?_of_mem_referencesFrom (List.mem_of_find?_eq_some refers)
  exact ⟨by simpa using other, isReferenceName_of_referenceHere? here⟩

/-! ## Names are parts of lines -/

theorem subset_of_reference? {line : Text} {owner target : Symbol}
    (refers : reference? line owner = some target) : target ⊆ line := by
  obtain ⟨place, suffix, here⟩ :=
    referenceHere?_of_mem_referencesFrom (List.mem_of_find?_eq_some refers)
  rw [(eq_takeWhile_of_referenceHere? here).1]
  exact List.Subset.trans (List.takeWhile_subset _) suffix.subset

theorem subset_of_definition? {line : Text} {name : Symbol} (defined : definition? line = some name) :
    name ⊆ line := by
  obtain ⟨parts, rfl, rfl⟩ := exists_parts_of_definition? defined
  intro c stands
  simp [DefinitionLine.text, stands]

theorem ownerAt_subset (lines : List Text) (i : Nat) :
    ownerAt lines i = [] ∨ ∃ line ∈ lines, ownerAt lines i ⊆ line := by
  unfold ownerAt lastDefined
  cases last : ((lines.take i).filterMap definition?).getLast? with
  | none => exact .inl rfl
  | some name =>
      refine .inr ?_
      obtain ⟨line, listed, defined⟩ := List.mem_filterMap.mp (List.mem_of_getLast? last)
      exact ⟨line, List.mem_of_mem_take listed, subset_of_definition? defined⟩

end Xref.Listing
