import Xref.Proofs.Files.Path

namespace Xref.FileTree
variable {tree : FileTree} {place directory above found : Place} {part spelled : Text}
  {parts names rest : List Text}

/-! ## One part after the other -/

theorem walk_cons (tree : FileTree) (place : Place) (part : Text) (rest : List Text) :
    tree.walk place (part :: rest) =
      match tree.entry? place with
      | none => .error .noEntry
      | some (.file _) => .error .notDirectory
      | some .directory =>
        if part.isEmpty || part = ['.'] then tree.walk place rest
        else if nameLimit < (Utf8.encode part).length then .error .nameTooLong
        else if (tree.entry? (place.go part)).isSome then tree.walk (place.go part) rest
        else .error .noEntry := rfl

theorem walk_staying (stays : Path.moves part = false) (inside : tree.entry? place = some .directory) :
    tree.walk place (part :: rest) = tree.walk place rest := by
  have skipped : (part.isEmpty || part = ['.']) = true := by
    simpa [Path.moves_eq_false] using stays
  simp only [walk_cons, inside, skipped, if_true]

theorem walk_moving (leads : Path.moves part = true) (inside : tree.entry? place = some .directory) :
    tree.walk place (part :: rest) =
      if nameLimit < (Utf8.encode part).length then .error .nameTooLong
      else if (tree.entry? (place.go part)).isSome then tree.walk (place.go part) rest
      else .error .noEntry := by
  have goes : (part.isEmpty || part = ['.']) = false := by simpa [Path.moves] using leads
  simp only [walk_cons, inside, goes, Bool.false_eq_true, if_false]

theorem inside_of_walk (walked : tree.walk place (part :: rest) = .ok found) :
    tree.entry? place = some .directory := by
  rw [walk_cons] at walked
  split at walked
  · cases walked
  · cases walked
  · assumption

theorem walk_append_staying {staying : List Text} (stay : ∀ part ∈ staying, Path.moves part = false)
    (inside : tree.entry? place = some .directory) :
    tree.walk place (staying ++ rest) = tree.walk place rest := by
  induction staying with
  | nil => rfl
  | cons part staying ih =>
      obtain ⟨stays, later⟩ := List.forall_mem_cons.mp stay
      rw [List.cons_append, walk_staying stays inside, ih later]

theorem walk_filter (walked : tree.walk place parts = .ok found) :
    found = (parts.filter Path.moves).foldl Place.go place ∧
      tree.walk place (parts.filter Path.moves) = .ok found := by
  induction parts generalizing place with
  | nil =>
      cases walked
      exact ⟨rfl, rfl⟩
  | cons part parts ih =>
      have inside := inside_of_walk walked
      cases leads : Path.moves part with
      | false =>
          rw [walk_staying leads inside] at walked
          rw [List.filter_cons_of_neg (by simp [leads])]
          exact ih walked
      | true =>
          rw [List.filter_cons_of_pos leads, List.foldl_cons]
          rw [walk_moving leads inside] at walked ⊢
          split_ifs at walked ⊢ with long present
          exact ih walked

theorem locate_eq_ok (located : tree.locate directory spelled = .ok found) :
    spelled ≠ [] ∧ ¬ spellingLimit < (Utf8.encode spelled).length ∧
      tree.walk (if spelled.head? = some '/' then [] else directory) (Text.splitOn '/' spelled) =
        .ok found := by
  unfold locate at located
  split_ifs at located with empty long absolute
  · exact ⟨mt List.isEmpty_iff.mpr empty, long, by rwa [if_pos absolute]⟩
  · exact ⟨mt List.isEmpty_iff.mpr empty, long, by rwa [if_neg absolute]⟩

theorem length_encode_le {text longer : Text} (within : text.Sublist longer) :
    (Utf8.encode text).length ≤ (Utf8.encode longer).length :=
  (within.flatMap Utf8.encodeChar).length_le

theorem locate_text_ofText (located : tree.locate directory spelled = .ok found) :
    tree.locate directory (Path.ofText spelled).text = .ok found := by
  obtain ⟨given, short, walked⟩ := locate_eq_ok located
  obtain ⟨staying, stay, split⟩ :=
    Path.splitOn_text (Path.rooted_ofText spelled) Path.slash_not_mem_parts
  have inside : tree.entry? (if spelled.head? = some '/' then [] else directory) = some .directory := by
    obtain ⟨part, rest, cut⟩ : ∃ part rest, Text.splitOn '/' spelled = part :: rest := by
      rw [Text.splitOn_eq]
      exact List.exists_cons_of_ne_nil (List.splitOn_ne_nil '/' spelled)
    exact inside_of_walk (cut ▸ walked)
  have within := length_encode_le (Path.text_sublist given)
  rw [locate, if_neg (mt List.isEmpty_iff.mp (Path.text_ne_nil spelled)), if_neg (by omega)]
  simp only [Path.head?_text_ofText]
  rw [split, walk_append_staying stay inside]
  exact (walk_filter walked).2

theorem lookUp_eq_ok {entry : Entry} : tree.lookUp directory spelled = .ok entry ↔
    hasNul spelled = false ∧
      ∃ found, tree.locate directory spelled = .ok found ∧ tree.entry? found = some entry := by
  unfold lookUp
  constructor
  · intro known
    split_ifs at known with nul
    split at known
    · cases known
    · rename_i found located
      split at known
      · rename_i entered
        cases known
        exact ⟨Bool.eq_false_iff.mpr nul, found, located, entered⟩
      · cases known
  · rintro ⟨plain, found, located, entered⟩
    simp only [plain, Bool.false_eq_true, if_false, located, entered]

theorem lookUp_of_read {path : Path} {content : Bytes} (stored : tree.read directory path = .ok content) :
    tree.lookUp directory path.text = .ok (.file content) := by
  unfold read at stored
  split at stored
  · cases stored
  · cases stored
  · rename_i known
    cases stored
    exact known

theorem lookUp_text_ofText {entry : Entry} (known : tree.lookUp directory spelled = .ok entry) :
    tree.lookUp directory (Path.ofText spelled).text = .ok entry := by
  obtain ⟨plain, found, located, entered⟩ := lookUp_eq_ok.mp known
  refine lookUp_eq_ok.mpr ⟨?_, found, locate_text_ofText located, entered⟩
  rwa [Path.hasNul_text_ofText]

/-! ## The absolute paths of places -/

/-- The top is a directory, and nothing lies below a file. -/
structure Closed (tree : FileTree) : Prop where
  top : tree.entry? [] = some .directory
  below : ∀ place content name rest, tree.entry? place = some (.file content) →
    tree.entry? (place ++ name :: rest) = none

end Xref.FileTree
