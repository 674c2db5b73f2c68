import Xref.Proofs.Cursor
import Xref.Proofs.FirstSeen
import Xref.Proofs.Listing.Ownership

namespace Xref.Listing

/-! ## Cursors -/

structure Reader where
  owner : Symbol
  unread : List Text

def nextFrom (owner : Symbol) : List Text → Option Edge × Reader
  | [] => (none, ⟨owner, []⟩)
  | line :: rest =>
    match readLine owner line with
    | (owner, some edge) => (some edge, ⟨owner, rest⟩)
    | (owner, none) => nextFrom owner rest

namespace Reader

def openOn (lines : List Text) : Reader := ⟨Symbol.nameless, lines⟩

def next (reader : Reader) : Option Edge × Reader := nextFrom reader.owner reader.unread

theorem unread_lt_of_nextFrom {owner : Symbol} {lines : List Text} {edge : Edge} {after : Reader}
    (given : nextFrom owner lines = (some edge, after)) : after.unread.length < lines.length := by
  induction lines generalizing owner with
  | nil => simp [nextFrom] at given
  | cons line rest ih =>
      rw [nextFrom] at given
      rcases read : readLine owner line with ⟨owner, _ | found⟩
      · rw [read] at given
        exact Nat.lt_succ_of_lt (ih given)
      · rw [read, Prod.mk.injEq] at given
        rw [← given.2]
        exact Nat.lt_succ_self _

end Reader

structure DistinctReader where
  seen : List Edge
  reader : Reader

namespace DistinctReader

def openOn (lines : List Text) : DistinctReader := ⟨[], .openOn lines⟩

def unread (cursor : DistinctReader) : List Text := cursor.reader.unread

def nextUnseen (seen : List Edge) (reader : Reader) : Option Edge × DistinctReader :=
  match given : reader.next with
  | (none, after) => (none, ⟨seen, after⟩)
  | (some edge, after) =>
    have : after.unread.length < reader.unread.length := Reader.unread_lt_of_nextFrom given
    if edge ∈ seen then nextUnseen seen after else (some edge, ⟨edge :: seen, after⟩)
termination_by reader.unread.length

def next (cursor : DistinctReader) : Option Edge × DistinctReader :=
  nextUnseen cursor.seen cursor.reader

theorem next_of_none {reader after : Reader} (ends : reader.next = (none, after)) (seen : List Edge) :
    next ⟨seen, reader⟩ = (none, ⟨seen, after⟩) := by
  rw [next, nextUnseen]
  split
  · rename_i last given
    cases given.symm.trans ends
    rfl
  · rename_i edge last given
    cases given.symm.trans ends

theorem next_of_some {reader after : Reader} {edge : Edge} (given : reader.next = (some edge, after))
    (seen : List Edge) : next ⟨seen, reader⟩ =
      if edge ∈ seen then next ⟨seen, after⟩ else (some edge, ⟨edge :: seen, after⟩) := by
  rw [next, nextUnseen]
  split
  · rename_i last ends
    cases given.symm.trans ends
  · rename_i other last same
    cases given.symm.trans same
    rfl

end DistinctReader

/-! ## What a cursor gives -/

section
variable {σ α : Type} {next : σ → Option α × σ} {unread : σ → List Text} {lines : List Text}
  {cursor : σ} {items : List (Located α)}

/-- The cursor gives the items one by one, each with the lines after it still unread, and then ends
with no lines left. -/
inductive Gives (next : σ → Option α × σ) (unread : σ → List Text) (lines : List Text) :
    σ → List (Located α) → Prop where
  | ended {cursor after : σ} (ends : next cursor = (none, after)) (all : unread after = []) :
      Gives next unread lines cursor []
  | item {cursor after : σ} {found : Located α} {items : List (Located α)}
      (given : next cursor = (some found.item, after))
      (left : unread after = lines.drop found.consumed)
      (later : Gives next unread lines after items) :
      Gives next unread lines cursor (found :: items)

namespace Gives

theorem of_next_eq {other : σ} (same : next cursor = next other)
    (gives : Gives next unread lines other items) : Gives next unread lines cursor items := by
  cases gives with
  | ended ends all => exact .ended (same.trans ends) all
  | item given left later => exact .item (same.trans given) left later

theorem pull_eq (gives : Gives next unread lines cursor items) {k : Nat} {found : Located α}
    (stands : items[k]? = some found) :
    ∃ after, pull next (k + 1) cursor = ((items.take (k + 1)).map Located.item, false, after) ∧
      unread after = lines.drop found.consumed := by
  induction gives generalizing k with
  | ended => simp at stands
  | @item cursor after first items given left later ih =>
      rw [pull_of_some given]
      cases k with
      | zero =>
          obtain rfl : first = found := by simpa using stands
          exact ⟨after, rfl, left⟩
      | succ k =>
          obtain ⟨last, pulled, rest⟩ := ih (by simpa using stands)
          exact ⟨last, by rw [pulled]; rfl, rest⟩

theorem pull_past (gives : Gives next unread lines cursor items) {count : Nat}
    (past : items.length < count) :
    ∃ after, pull next count cursor = (items.map Located.item, true, after) ∧
      unread after = [] := by
  induction gives generalizing count with
  | @ended cursor after ends all =>
      obtain ⟨count, rfl⟩ := Nat.exists_eq_succ_of_ne_zero (Nat.ne_of_gt past)
      exact ⟨after, pull_of_none ends count, all⟩
  | @item cursor after first items given left later ih =>
      obtain ⟨count, rfl⟩ := Nat.exists_eq_succ_of_ne_zero (Nat.ne_zero_of_lt past)
      obtain ⟨last, pulled, none⟩ := ih (Nat.lt_of_succ_lt_succ past)
      exact ⟨last, by rw [pull_of_some given, pulled]; rfl, none⟩

end Gives
end

theorem gives_locatedFrom {lines : List Text} (owner : Symbol) (consumed : Nat) {rest : List Text}
    (left : lines.drop consumed = rest) :
    Gives Reader.next Reader.unread lines ⟨owner, rest⟩ (locatedFrom owner consumed rest) := by
  induction rest generalizing owner consumed with
  | nil => exact .ended rfl rfl
  | cons line rest ih =>
      have left : lines.drop (consumed + 1) = rest := by
        rw [← List.tail_drop, left]
        rfl
      rcases read : readLine owner line with ⟨after, _ | edge⟩
      · simp only [locatedFrom, read]
        refine (ih after (consumed + 1) left).of_next_eq ?_
        simp only [Reader.next, nextFrom, read]
      · simp only [locatedFrom, read]
        refine .item ?_ left.symm (ih after (consumed + 1) left)
        simp only [Reader.next, nextFrom, read]

theorem gives_unseen {lines : List Text} {reader : Reader} {items : List (Located Edge)}
    (gives : Gives Reader.next Reader.unread lines reader items) (seen : List Edge) :
    Gives DistinctReader.next DistinctReader.unread lines ⟨seen, reader⟩
      (firstSeenBy Located.item seen items) := by
  induction gives generalizing seen with
  | ended ends all => exact .ended (DistinctReader.next_of_none ends seen) all
  | @item reader after found items given left later ih =>
      have next := DistinctReader.next_of_some given seen
      rw [firstSeenBy]
      split_ifs with old
      · rw [if_pos old] at next
        exact (ih seen).of_next_eq next
      · rw [if_neg old] at next
        exact .item next left (ih (found.item :: seen))

/-! ## Streams that can be cut -/

/-- Items know how many lines were read before they came out, and further lines only add items. -/
structure Cuttable (stream : List Text → List (Located Edge)) : Prop where
  within : ∀ lines, ∀ found ∈ stream lines, found.consumed ≤ lines.length
  increasing : ∀ lines, (stream lines).Pairwise (·.consumed < ·.consumed)
  extended : ∀ lines more, ∃ later, stream (lines ++ more) = stream lines ++ later ∧
    ∀ found ∈ later, lines.length < found.consumed

theorem Cuttable.stream_take {stream : List Text → List (Located Edge)} (cuttable : Cuttable stream)
    {lines : List Text} {k : Nat} {found : Located Edge} (stands : (stream lines)[k]? = some found) :
    stream (lines.take found.consumed) = (stream lines).take (k + 1) := by
  have inside := cuttable.within lines found (List.mem_of_getElem? stands)
  obtain ⟨later, cut, beyond⟩ :=
    cuttable.extended (lines.take found.consumed) (lines.drop found.consumed)
  have counted : (lines.take found.consumed).length = found.consumed := by
    rw [List.length_take, Nat.min_eq_left inside]
  rw [List.take_append_drop] at cut
  rw [counted] at beyond
  have atLeast : k < (stream (lines.take found.consumed)).length := by
    -- Otherwise `found` comes out after its own line.
    by_contra short
    rw [cut, List.getElem?_append_right (Nat.le_of_not_lt short)] at stands
    exact Nat.lt_irrefl _ (beyond found (List.mem_of_getElem? stands))
  have atMost : (stream (lines.take found.consumed)).length ≤ k + 1 := by
    -- Otherwise the lines up to that of `found` give one more item.
    by_contra long
    have last : k + 1 < (stream (lines.take found.consumed)).length := Nat.lt_of_not_le long
    have here : (stream (lines.take found.consumed))[k] = found := by
      rwa [cut, List.getElem?_append_left atLeast, List.getElem?_eq_getElem atLeast,
        Option.some.injEq] at stands
    have before := List.pairwise_iff_getElem.mp (cuttable.increasing _) k (k + 1) atLeast last
      (Nat.lt_succ_self k)
    have bounded := cuttable.within _ _ (List.getElem_mem last)
    rw [here] at before
    omega
  rw [cut, List.take_left' (by omega)]

/-- A cursor reads a stream lazily. An item comes out with exactly the lines after its own unread,
whatever these are, and the end is met when all the lines are read. -/
structure ReadLazily {σ : Type} (next : σ → Option Edge × σ) (unread : σ → List Text)
    (openOn : List Text → σ) (stream : List Text → List (Located Edge)) (lines : List Text) :
    Prop where
  within : ∀ found ∈ stream lines, found.consumed ≤ lines.length
  increasing : (stream lines).Pairwise (·.consumed < ·.consumed)
  item : ∀ k found, (stream lines)[k]? = some found → ∀ later,
    let listing := lines.take found.consumed ++ later
    let items := (stream lines).take (k + 1)
    stopAfter (some (k + 1)) listing.length (stream listing) = (items, found.consumed) ∧
      ∃ after, pull next (k + 1) (openOn listing) = (items.map Located.item, false, after) ∧
        unread after = later
  ended : ∀ count, (stream lines).length < count →
    ∃ after, pull next count (openOn lines) = ((stream lines).map Located.item, true, after) ∧
      unread after = []

theorem stopAfter_of_getElem? {items : List (Located Edge)} {k : Nat} {found : Located Edge}
    (stands : items[k]? = some found) (total : Nat) :
    stopAfter (some (k + 1)) total items = (items.take (k + 1), found.consumed) := by
  obtain ⟨enough, -⟩ := List.getElem?_eq_some_iff.mp stands
  have last : (items.take (k + 1)).getLast? = some found := by
    simp [List.getLast?_take, stands]
  rw [stopAfter, if_neg (by omega), last]
  rfl

theorem Cuttable.readLazily {σ : Type} {next : σ → Option Edge × σ} {unread : σ → List Text}
    {openOn : List Text → σ} {stream : List Text → List (Located Edge)} (cuttable : Cuttable stream)
    (gives : ∀ lines, Gives next unread lines (openOn lines) (stream lines)) (lines : List Text) :
    ReadLazily next unread openOn stream lines where
  within := cuttable.within lines
  increasing := cuttable.increasing lines
  item k found stands later := by
    intro listing items
    obtain ⟨further, more, -⟩ := cuttable.extended (lines.take found.consumed) later
    rw [cuttable.stream_take stands] at more
    have inside := cuttable.within lines found (List.mem_of_getElem? stands)
    obtain ⟨enough, -⟩ := List.getElem?_eq_some_iff.mp stands
    have first : (stream listing).take (k + 1) = items := by
      rw [more]
      exact List.take_left' (by rw [List.length_take]; omega)
    have again : (stream listing)[k]? = some found := by
      rw [more, List.getElem?_append_left (by rw [List.length_take]; omega),
        List.getElem?_take_of_lt (Nat.lt_succ_self k), stands]
    have left : listing.drop found.consumed = later :=
      List.drop_left' (by rw [List.length_take, Nat.min_eq_left inside])
    obtain ⟨after, pulled, rest⟩ := (gives listing).pull_eq again
    refine ⟨?_, after, ?_, rest.trans left⟩
    · rw [stopAfter_of_getElem? again, first]
    · rw [pulled, first]
  ended _ past := (gives lines).pull_past past

/-! ## The edges of a listing -/

theorem consumed_of_mem_locatedFrom {owner : Symbol} {consumed : Nat} {lines : List Text}
    {found : Located Edge} (given : found ∈ locatedFrom owner consumed lines) :
    consumed < found.consumed ∧ found.consumed ≤ consumed + lines.length := by
  rw [locatedFrom_eq_filterMap] at given
  obtain ⟨i, listed, given⟩ := List.mem_filterMap.mp given
  obtain ⟨edge, -, rfl⟩ := Option.map_eq_some_iff.mp given
  have inside := List.mem_range.mp listed
  exact ⟨by simp only; omega, by simp only; omega⟩

theorem located_append (lines more : List Text) : located (lines ++ more) = located lines ++
    locatedFrom (lastDefined Symbol.nameless lines) lines.length more := by
  rw [located, locatedFrom_append, Nat.zero_add]
  rfl

theorem located_increasing (lines : List Text) :
    (located lines).Pairwise (·.consumed < ·.consumed) := by
  rw [located_eq_filterMap, List.pairwise_filterMap]
  refine List.pairwise_lt_range.imp ?_
  intro i j before found given other later
  obtain ⟨target, -, rfl⟩ := Option.map_eq_some_iff.mp given
  obtain ⟨target, -, rfl⟩ := Option.map_eq_some_iff.mp later
  exact Nat.succ_lt_succ before

theorem cuttable_located : Cuttable located where
  within lines found given := by simpa using (consumed_of_mem_locatedFrom given).2
  increasing := located_increasing
  extended lines more :=
    ⟨_, located_append lines more, fun _ given => (consumed_of_mem_locatedFrom given).1⟩

theorem distinct_append (lines more : List Text) : distinct (located (lines ++ more)) =
    distinct (located lines) ++ firstSeenBy Located.item (edges lines)
      (locatedFrom (lastDefined Symbol.nameless lines) lines.length more) := by
  rw [distinct, located_append, firstSeenBy_append, List.append_nil]
  rfl

theorem cuttable_distinct : Cuttable (distinct ∘ located) where
  within lines found given :=
    cuttable_located.within lines found ((firstSeenBy_sublist _ _ _).subset given)
  increasing lines := (located_increasing lines).sublist (firstSeenBy_sublist _ _ _)
  extended lines more := ⟨_, distinct_append lines more, fun _ given =>
    (consumed_of_mem_locatedFrom ((firstSeenBy_sublist _ _ _).subset given)).1⟩

theorem mem_distinct {lines : List Text} {found : Located Edge} :
    found ∈ distinct (located lines) ↔ found ∈ located lines ∧
      ∀ other ∈ located lines, other.item = found.item → found.consumed ≤ other.consumed := by
  have increasing := located_increasing lines
  rw [distinct, mem_firstSeenBy]
  constructor
  · rintro ⟨-, before, after, cut, unlike⟩
    rw [cut, List.pairwise_append, List.pairwise_cons] at increasing
    refine ⟨cut ▸ List.mem_append_right _ List.mem_cons_self, fun other given same => ?_⟩
    rw [cut, List.mem_append, List.mem_cons] at given
    rcases given with earlier | rfl | later
    · exact absurd (List.mem_map.mpr ⟨other, earlier, same⟩) unlike
    · exact Nat.le_refl _
    · exact Nat.le_of_lt (increasing.2.1.1 other later)
  · rintro ⟨given, first⟩
    obtain ⟨before, after, cut⟩ := List.append_of_mem given
    refine ⟨List.not_mem_nil, before, after, cut, fun repeated => ?_⟩
    obtain ⟨other, earlier, same⟩ := List.mem_map.mp repeated
    rw [cut, List.pairwise_append] at increasing
    have before := increasing.2.2 other earlier found List.mem_cons_self
    exact Nat.not_lt_of_le (first other (cut ▸ List.mem_append_left _ earlier) same) before

theorem items_distinct (lines : List Text) :
    (distinct (located lines)).map Located.item = (edges lines).eraseDups := by
  rw [distinct, map_firstSeenBy, firstSeenBy_id]
  simp [edges]

/-- A listing is read as a stream. Reading on after a cut takes the last owner along, and where each
edge is to come out once, the edges that came out before. Each of the two cursors gives its items
lazily: the edge of a line comes out when that line has been read and none after it. -/
theorem edges_streamed (lines more : List Text) :
    let rest := locatedFrom (lastDefined Symbol.nameless lines) lines.length more
    located (lines ++ more) = located lines ++ rest ∧
    distinct (located (lines ++ more)) =
      distinct (located lines) ++ firstSeenBy Located.item (edges lines) rest ∧
    (located lines = (List.range lines.length).filterMap fun i =>
      (referenceAt? lines i).map fun target => ⟨⟨ownerAt lines i, target⟩, i + 1⟩) ∧
    ReadLazily Reader.next Reader.unread Reader.openOn located lines ∧
    ReadLazily DistinctReader.next DistinctReader.unread DistinctReader.openOn
      (distinct ∘ located) lines ∧
    (distinct (located lines)).map Located.item = (edges lines).eraseDups ∧
    ((distinct (located lines)).map Located.item).Nodup ∧
    ∀ found, found ∈ distinct (located lines) ↔ found ∈ located lines ∧
      ∀ other ∈ located lines, other.item = found.item → found.consumed ≤ other.consumed := by
  have gives (lines : List Text) :
      Gives Reader.next Reader.unread lines (Reader.openOn lines) (located lines) :=
    gives_locatedFrom Symbol.nameless 0 rfl
  have givesUnseen (lines : List Text) : Gives DistinctReader.next DistinctReader.unread lines
      (DistinctReader.openOn lines) (distinct (located lines)) :=
    gives_unseen (gives lines) []
  refine ⟨located_append lines more, distinct_append lines more, located_eq_filterMap lines,
    cuttable_located.readLazily gives lines, cuttable_distinct.readLazily givesUnseen lines,
    items_distinct lines, ?_, fun _ => mem_distinct⟩
  rw [items_distinct]
  exact nodup_eraseDups (edges lines)

def repeatingLines : List Text := ["0 <a>:", "call <b>", "jmp <b>", "4 <c>:", "call <b>", "ret"]

theorem edges_streamed_repeating :
    (distinct (located repeatingLines))[1]? = some ⟨⟨"c", "b"⟩, 5⟩ ∧
      ∀ later, ∃ after, pull DistinctReader.next 2
          (DistinctReader.openOn (repeatingLines.take 5 ++ later)) =
        ([⟨"a", "b"⟩, ⟨"c", "b"⟩], false, after) ∧ after.unread = later := by
  obtain ⟨-, -, -, -, unseen, -⟩ := edges_streamed repeatingLines []
  have second : (distinct (located repeatingLines))[1]? = some ⟨⟨"c", "b"⟩, 5⟩ := by
    decide +kernel
  have items : ((distinct (located repeatingLines)).take 2).map Located.item =
      [⟨"a", "b"⟩, ⟨"c", "b"⟩] := by
    decide +kernel
  refine ⟨second, fun later => ?_⟩
  obtain ⟨-, after, pulled, left⟩ := unseen.item 1 _ second later
  exact ⟨after, pulled.trans (by rw [Function.comp_apply, items]), left⟩

end Xref.Listing
