import Mathlib.Data.List.Induction
import Mathlib.Data.List.Nodup
import Xref.FirstSeen

namespace Xref
variable {α : Type} [BEq α] [LawfulBEq α]

theorem firstSeenBy_id [DecidableEq α] (seen items : List α) :
    firstSeenBy id seen items = (items.filter (· ∉ seen)).eraseDups := by
  induction items generalizing seen with
  | nil => rfl
  | cons item rest ih =>
      by_cases old : item ∈ seen
      · simp [firstSeenBy, old, ih]
      · have later : rest.filter (· ∉ item :: seen) =
            (rest.filter (· ∉ seen)).filter (fun other => !other == item) := by
          rw [List.filter_filter]
          apply List.filter_congr
          intro other _
          by_cases same : other = item <;> simp [same]
        simp only [firstSeenBy, id_eq, old, if_false, ih]
        rw [List.filter_cons_of_pos (by simpa using old), List.eraseDups_cons, later]

theorem firstSeen_eq_eraseDups [DecidableEq α] (items : List α) : firstSeen items = items.eraseDups := by
  simp [firstSeen, firstSeenBy_id]

theorem mem_firstSeen [DecidableEq α] {item : α} {items : List α} :
    item ∈ firstSeen items ↔ item ∈ items := by
  rw [firstSeen_eq_eraseDups, List.mem_eraseDups]

theorem eraseDups_concat (items : List α) (item : α) :
    (items ++ [item]).eraseDups =
      if item ∈ items then items.eraseDups else items.eraseDups ++ [item] := by
  rw [List.eraseDups_append]
  by_cases old : item ∈ items
  · simp [List.removeAll, old]
  · simp [List.removeAll, old, List.eraseDups_cons]

theorem nodup_eraseDups (items : List α) : items.eraseDups.Nodup := by
  induction items using List.reverseRecOn with
  | nil => simp
  | append_singleton items item ih =>
      rw [eraseDups_concat]
      split_ifs with old
      · exact ih
      · rw [← List.concat_eq_append]
        exact ih.concat (by rwa [List.mem_eraseDups])

theorem perm_eraseDups {items others : List α} (permuted : items.Perm others) :
    items.eraseDups.Perm others.eraseDups := by
  rw [List.perm_ext_iff_of_nodup (nodup_eraseDups items) (nodup_eraseDups others)]
  intro item
  rw [List.mem_eraseDups, List.mem_eraseDups, permuted.mem_iff]

theorem firstSeen_of_nodup [DecidableEq α] {items : List α} (distinct : items.Nodup) :
    firstSeen items = items := by
  rw [firstSeen_eq_eraseDups]
  induction items using List.reverseRecOn with
  | nil => rfl
  | append_singleton items item ih =>
      rw [← List.concat_eq_append, List.nodup_concat] at distinct
      rw [eraseDups_concat, if_neg distinct.1, ih distinct.2]

theorem findSome?_firstSeen [DecidableEq α] {β : Type} (f : α → Option β) (items : List α) :
    (firstSeen items).findSome? f = items.findSome? f := by
  rw [firstSeen_eq_eraseDups]
  induction items using List.reverseRecOn with
  | nil => rfl
  | append_singleton items item ih =>
      rw [eraseDups_concat]
      split_ifs with old
      · rw [ih, List.findSome?_append]
        cases found : items.findSome? f with
        | none => simp [List.findSome?_eq_none_iff.mp found item old]
        | some result => rfl
      · rw [List.findSome?_append, List.findSome?_append, ih]

/-! ## Items with keys -/

section
variable {κ : Type} [DecidableEq κ] (key : α → κ)
omit [BEq α] [LawfulBEq α]

theorem map_firstSeenBy (seen : List κ) (items : List α) :
    (firstSeenBy key seen items).map key = firstSeenBy id seen (items.map key) := by
  induction items generalizing seen with
  | nil => rfl
  | cons item rest ih =>
      by_cases old : key item ∈ seen
      · simp [firstSeenBy, old, ih]
      · simp [firstSeenBy, old, ih]

theorem firstSeenBy_sublist (seen : List κ) (items : List α) :
    (firstSeenBy key seen items).Sublist items := by
  induction items generalizing seen with
  | nil => exact List.Sublist.refl []
  | cons item rest ih =>
      rw [firstSeenBy]
      split_ifs with old
      · exact (ih seen).cons item
      · exact (ih (key item :: seen)).cons_cons item

variable {key}

theorem firstSeenBy_congr {seen others : List κ} (same : ∀ k, k ∈ seen ↔ k ∈ others)
    (items : List α) :
    firstSeenBy key seen items = firstSeenBy key others items := by
  induction items generalizing seen others with
  | nil => rfl
  | cons item rest ih =>
      by_cases old : key item ∈ seen
      · rw [firstSeenBy, firstSeenBy, if_pos old, if_pos ((same _).mp old), ih same]
      · have extended (k : κ) : k ∈ key item :: seen ↔ k ∈ key item :: others := by
          rw [List.mem_cons, List.mem_cons, same]
        rw [firstSeenBy, firstSeenBy, if_neg old, if_neg (old ∘ (same _).mpr), ih extended]

theorem firstSeenBy_append (seen : List κ) (items more : List α) :
    firstSeenBy key seen (items ++ more) =
      firstSeenBy key seen items ++ firstSeenBy key (items.map key ++ seen) more := by
  induction items generalizing seen with
  | nil => rfl
  | cons item rest ih =>
      by_cases old : key item ∈ seen
      · have same (k : κ) : k ∈ rest.map key ++ seen ↔ k ∈ (item :: rest).map key ++ seen := by
          simp only [List.map_cons, List.cons_append, List.mem_cons, List.mem_append]
          exact ⟨.inr, fun | .inl isOld => .inr (isOld ▸ old) | .inr listed => listed⟩
        rw [List.cons_append, firstSeenBy, firstSeenBy, if_pos old, if_pos old, ih,
          firstSeenBy_congr same]
      · have same (k : κ) :
            k ∈ rest.map key ++ key item :: seen ↔ k ∈ (item :: rest).map key ++ seen :=
          List.perm_middle.mem_iff
        rw [List.cons_append, firstSeenBy, firstSeenBy, if_neg old, if_neg old, ih,
          firstSeenBy_congr same, List.cons_append]

theorem mem_firstSeenBy {seen : List κ} {items : List α} {item : α} :
    item ∈ firstSeenBy key seen items ↔ key item ∉ seen ∧
      ∃ before after, items = before ++ item :: after ∧ key item ∉ before.map key := by
  constructor
  · intro stays
    induction items generalizing seen with
    | nil => simp [firstSeenBy] at stays
    | cons first rest ih =>
        have later {others : List κ} (found : key first ∈ others)
            (stays : item ∈ firstSeenBy key others rest) : key item ∉ others ∧
              ∃ before after, first :: rest = before ++ item :: after ∧ key item ∉ before.map key := by
          obtain ⟨fresh, before, after, rfl, unlike⟩ := ih stays
          refine ⟨fresh, first :: before, after, rfl, ?_⟩
          rw [List.map_cons, List.mem_cons, not_or]
          exact ⟨fun same => fresh (same ▸ found), unlike⟩
        rw [firstSeenBy] at stays
        split_ifs at stays with old
        · exact later old stays
        · rcases List.mem_cons.mp stays with rfl | stays
          · exact ⟨old, [], rest, rfl, List.not_mem_nil⟩
          · obtain ⟨fresh, standing⟩ := later List.mem_cons_self stays
            exact ⟨fun seenBefore => fresh (List.mem_cons_of_mem _ seenBefore), standing⟩
  · rintro ⟨fresh, before, after, rfl, unlike⟩
    rw [firstSeenBy_append, firstSeenBy, if_neg (by simp [fresh, List.mem_map.not.mp unlike])]
    exact List.mem_append_right _ List.mem_cons_self

end

end Xref
