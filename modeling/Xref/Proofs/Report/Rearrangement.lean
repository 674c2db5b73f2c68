import Mathlib.Data.List.Forall2
import Xref.Proofs.Except
import Xref.Proofs.Report.Partition

namespace Xref.Listing

structure Block where
  head : Text
  name : Symbol
  body : List Text
  defines : definition? head = some name
  plain : ∀ line ∈ body, definition? line = none

def Block.lines (block : Block) : List Text := block.head :: block.body

/-- A listing by its blocks. No line of the preamble is a definition. -/
structure Layout where
  preamble : List Text
  blocks : List Block
  plain : ∀ line ∈ preamble, definition? line = none

def Layout.lines (layout : Layout) : List Text :=
  layout.preamble ++ layout.blocks.flatMap Block.lines

theorem exists_layout (lines : List Text) : ∃ layout : Layout, layout.lines = lines := by
  induction lines with
  | nil => exact ⟨⟨[], [], by simp⟩, rfl⟩
  | cons line lines ih =>
      obtain ⟨layout, rfl⟩ := ih
      cases defined : definition? line with
      | none =>
          have plain : ∀ other ∈ line :: layout.preamble, definition? other = none :=
            List.forall_mem_cons.mpr ⟨defined, layout.plain⟩
          exact ⟨⟨line :: layout.preamble, layout.blocks, plain⟩, rfl⟩
      | some name =>
          let block : Block := ⟨line, name, layout.preamble, defined, layout.plain⟩
          exact ⟨⟨[], block :: layout.blocks, by simp⟩, rfl⟩

def Block.Rearranges (block other : Block) : Prop :=
  block.head = other.head ∧ block.body.Perm other.body

/-- The blocks are moved, and the lines are moved within each block and within the preamble. -/
structure Layout.Rearranges (layout other : Layout) : Prop where
  preamble : layout.preamble.Perm other.preamble
  blocks : ∃ moved, layout.blocks.Perm moved ∧ List.Forall₂ Block.Rearranges moved other.blocks

/-! ## The edges of a layout -/

def ownedEdges (owner : Symbol) (lines : List Text) : List Edge :=
  lines.filterMap fun line => (reference? line owner).map (Edge.mk owner)

section
variable {owner : Symbol} {lines : List Text}

theorem items_plain (consumed : Nat) (plain : ∀ line ∈ lines, definition? line = none) :
    (locatedFrom owner consumed lines).map Located.item = ownedEdges owner lines := by
  induction lines generalizing consumed with
  | nil => rfl
  | cons line lines ih =>
      obtain ⟨first, others⟩ := List.forall_mem_cons.mp plain
      have later := ih (consumed + 1) others
      cases refers : reference? line owner with
      | none =>
          simp only [locatedFrom, readLine, first, refers, Option.map_none, later]
          simp [ownedEdges, refers]
      | some target =>
          simp only [locatedFrom, readLine, first, refers, Option.map_some, List.map_cons, later]
          simp [ownedEdges, refers]

theorem items_block (owner : Symbol) (consumed : Nat) (block : Block) :
    (locatedFrom owner consumed block.lines).map Located.item =
      ownedEdges block.name block.body := by
  simp only [Block.lines, locatedFrom, readLine, block.defines]
  exact items_plain _ block.plain

theorem items_blocks (owner : Symbol) (consumed : Nat) (blocks : List Block) :
    (locatedFrom owner consumed (blocks.flatMap Block.lines)).map Located.item =
      blocks.flatMap fun block => ownedEdges block.name block.body := by
  induction blocks generalizing owner consumed with
  | nil => rfl
  | cons block blocks ih =>
      rw [List.flatMap_cons, locatedFrom_append, List.map_append, items_block, ih,
        List.flatMap_cons]

end

theorem edges_layout (layout : Layout) : edges layout.lines =
    ownedEdges Symbol.nameless layout.preamble ++
      layout.blocks.flatMap fun block => ownedEdges block.name block.body := by
  rw [edges, located, Layout.lines, locatedFrom_append, List.map_append, items_plain _ layout.plain,
    items_blocks]

theorem Block.Rearranges.edges {block other : Block} (rearranges : block.Rearranges other) :
    (ownedEdges block.name block.body).Perm (ownedEdges other.name other.body) := by
  have name : block.name = other.name := by
    have defines := block.defines
    rw [rearranges.1, other.defines] at defines
    exact (Option.some.inj defines).symm
  rw [name]
  exact rearranges.2.filterMap _

theorem edges_of_forall₂ {blocks others : List Block}
    (within : List.Forall₂ Block.Rearranges blocks others) :
    (blocks.flatMap fun block => ownedEdges block.name block.body).Perm
      (others.flatMap fun block => ownedEdges block.name block.body) := by
  induction within with
  | nil => exact .nil
  | cons first _ ih => exact first.edges.append ih

theorem Layout.Rearranges.edges {layout other : Layout} (rearranges : layout.Rearranges other) :
    (Listing.edges layout.lines).Perm (Listing.edges other.lines) := by
  obtain ⟨moved, permuted, within⟩ := rearranges.blocks
  rw [edges_layout, edges_layout]
  exact (rearranges.preamble.filterMap _).append
    ((permuted.flatMap_right _).trans (edges_of_forall₂ within))

end Xref.Listing

namespace Xref.Graph

/-- The two graphs differ in the order of their rows and of the entries of a row. -/
structure Alike (g h : Graph) : Prop where
  keys : g.keys.Perm h.keys
  rows : ∀ s, Option.Rel List.Perm (g.dependenciesOf? s) (h.dependenciesOf? s)
  edges : g.edges.Perm h.edges

section
variable {g h : Graph}

theorem Records.alike {additions others : List Addition} (records : g.Records additions)
    (recorded : h.Records others) (permuted : additions.Perm others) : g.Alike h := by
  constructor
  · rw [records.keys, recorded.keys]
    exact perm_eraseDups (permuted.map Addition.owner)
  · intro s
    rw [records.rows, recorded.rows]
    simp only [(permuted.map Addition.owner).mem_iff]
    split_ifs
    · exact .some (perm_eraseDups (permuted.filterMap (Addition.entry? s)))
    · exact .none
  · rw [records.edges, recorded.edges]
    exact perm_eraseDups (permuted.filterMap Addition.edge?)

theorem Alike.dependsOn (alike : g.Alike h) : g.DependsOn = h.DependsOn := by
  funext s target
  unfold DependsOn dependenciesOf
  have row := alike.rows s
  generalize g.dependenciesOf? s = found at row ⊢
  generalize h.dependenciesOf? s = other at row ⊢
  cases row with
  | none => rfl
  | some entries => exact propext entries.mem_iff

theorem Alike.reachable (alike : g.Alike h) (start : Symbol) :
    (g.reachable start).Perm (h.reachable start) := by
  rw [List.perm_ext_iff_of_nodup (nodup_reachable g start) (nodup_reachable h start)]
  intro s
  rw [mem_reachable, mem_reachable, Reaches, Reaches, alike.dependsOn]

theorem alike_of_rearranges {layout other : Listing.Layout} (rearranges : layout.Rearranges other) :
    (ofListing layout.lines).Alike (ofListing other.lines) :=
  (records_ofListing _).alike (records_ofListing _) (rearranges.edges.map Addition.edge)

end

end Xref.Graph

namespace Xref.Report

theorem select_alike {g h : Graph} (alike : g.Alike h) (start : Symbol) (format : Format) :
    ∃ live live' dead dead',
      select g (.reachableFrom start format) = .ok live ∧
      select h (.reachableFrom start format) = .ok live' ∧ live.Perm live' ∧
      select g (.unreachableFrom start format) = .ok dead ∧
      select h (.unreachableFrom start format) = .ok dead' ∧ dead.Perm dead' := by
  have reached (s : Symbol) : (g.reachable start).contains s = (h.reachable start).contains s := by
    rw [Bool.eq_iff_iff, List.contains_iff_mem, List.contains_iff_mem,
      (alike.reachable start).mem_iff]
  refine ⟨_, _, _, _, select_reachable g start format, select_reachable h start format, ?_,
    select_unreachable g start format, select_unreachable h start format, ?_⟩
  · simp only [reached]
    exact alike.keys.filter _
  · simp only [reached]
    exact alike.keys.filter _

/-- Every listing has a layout, and moving its blocks and the lines within them changes nothing but
orders: the graph has the same keys, the same entries for each key and the same number of edges, the
same symbols are reached from every start, and the same are selected. -/
theorem rearranged_listing_reports_alike :
    (∀ lines, ∃ layout : Listing.Layout, layout.lines = lines) ∧
    ∀ layout other : Listing.Layout, layout.Rearranges other →
      let g := Graph.ofListing layout.lines
      let h := Graph.ofListing other.lines
      g.keys.Perm h.keys ∧
      (∀ s, Option.Rel List.Perm (g.dependenciesOf? s) (h.dependenciesOf? s)) ∧
      g.edgeCount = h.edgeCount ∧
      (∀ start, (g.reachable start).Perm (h.reachable start)) ∧
      ∀ start format, ∃ live live' dead dead',
        select g (.reachableFrom start format) = .ok live ∧
        select h (.reachableFrom start format) = .ok live' ∧ live.Perm live' ∧
        select g (.unreachableFrom start format) = .ok dead ∧
        select h (.unreachableFrom start format) = .ok dead' ∧ dead.Perm dead' := by
  refine ⟨Listing.exists_layout, ?_⟩
  intro layout other rearranges g h
  have alike := Graph.alike_of_rearranges rearranges
  exact ⟨alike.keys, alike.rows, alike.edges.length_eq, alike.reachable, select_alike alike⟩

/-- Two blocks of `a` and an empty one of `b` trade places, and so do the lines of a block and of
the preamble. The keys come in another order, and `d` is still the one that nothing reaches. -/
theorem rearranged_listing_reports_alike_reversed :
    let long : Listing.Block :=
      ⟨"0 <a>:", "a", ["call <b>", "ret", "call <c>"], by decide, by decide⟩
    let swapped : Listing.Block :=
      ⟨"0 <a>:", "a", ["call <c>", "call <b>", "ret"], by decide, by decide⟩
    let empty : Listing.Block := ⟨"4 <b>:", "b", [], by decide, by decide⟩
    let again : Listing.Block := ⟨"8 <a>:", "a", ["jmp <a+4>", "call <b>"], by decide, by decide⟩
    let last : Listing.Block := ⟨"c <d>:", "d", ["call <a>"], by decide, by decide⟩
    let layout : Listing.Layout := ⟨["<a>", "<e>"], [long, empty, again, last], by decide⟩
    let other : Listing.Layout := ⟨["<e>", "<a>"], [last, again, empty, swapped], by decide⟩
    let g := Graph.ofListing layout.lines
    let h := Graph.ofListing other.lines
    layout.Rearranges other ∧ g.keys ≠ h.keys ∧ g.keys.Perm h.keys ∧ g.edgeCount = h.edgeCount ∧
      ∃ dead, select g (.unreachableFrom [] .deps) = .ok ["d".toList] ∧
        select h (.unreachableFrom [] .deps) = .ok dead ∧ ["d".toList].Perm dead := by
  intro long swapped empty again last layout other g h
  have rearranges : layout.Rearranges other := by
    refine ⟨by decide, [last, again, empty, long], (List.reverse_perm layout.blocks).symm, ?_⟩
    exact .cons ⟨rfl, .refl _⟩ (.cons ⟨rfl, .refl _⟩ (.cons ⟨rfl, .refl _⟩
      (.cons ⟨rfl, by decide⟩ .nil)))
  obtain ⟨keys, -, edges, -, selected⟩ := rearranged_listing_reports_alike.2 layout other rearranges
  obtain ⟨-, -, dead, dead', -, -, -, chosen, chosen', permuted⟩ := selected [] .deps
  have only : select g (.unreachableFrom [] .deps) = .ok ["d".toList] :=
    eq_ok_of_toOption (by decide +kernel)
  have found : dead = ["d".toList] := Except.ok.inj (chosen.symm.trans only)
  rw [found] at permuted
  exact ⟨rearranges, by decide +kernel, keys, edges, dead', only, chosen', permuted⟩

end Xref.Report
