import Mathlib.Data.List.Flatten
import Mathlib.Tactic.Common
import Xref.Files.Tree

namespace Xref

namespace Text
variable {separator : Char} {pieces : List Text} {c : Char}

theorem splitOn_eq (separator : Char) (text : Text) :
    splitOn separator text = List.splitOn separator text := by
  induction text with
  | nil => rfl
  | cons c rest ih =>
      have others : List.splitOn separator rest ≠ [] := List.splitOn_ne_nil separator rest
      rw [splitOn, ih]
      by_cases same : c = separator
      · simp [List.splitOn, List.splitOnP_cons_eq_if_modifyHead, same]
      · obtain ⟨piece, later, cut⟩ := List.exists_cons_of_ne_nil others
        rw [if_neg same, cut]
        rw [List.splitOn] at cut ⊢
        simp [List.splitOnP_cons_eq_if_modifyHead, same, cut]

theorem splitOn_join (whole : ∀ piece ∈ pieces, separator ∉ piece) (some : pieces ≠ []) :
    splitOn separator (join [separator] pieces) = pieces := by
  rw [splitOn_eq]
  exact List.splitOn_intercalate separator whole some

theorem join_splitOn (separator : Char) (text : Text) :
    join [separator] (splitOn separator text) = text := by
  rw [splitOn_eq]
  exact List.intercalate_splitOn separator

theorem splitOn_separator (separator : Char) (text : Text) :
    splitOn separator (separator :: text) = [] :: splitOn separator text := if_pos rfl

theorem separator_not_mem_splitOn {text piece : Text} (among : piece ∈ splitOn separator text) :
    separator ∉ piece := by
  induction text generalizing piece with
  | nil => simp_all [splitOn]
  | cons c rest ih =>
      rw [splitOn] at among
      split_ifs at among with same
      · rcases List.mem_cons.mp among with rfl | later
        · exact List.not_mem_nil
        · exact ih later
      · split at among
        · obtain rfl := List.mem_singleton.mp among
          simpa using Ne.symm same
        · rename_i first others cut
          rw [cut] at ih
          rcases List.mem_cons.mp among with rfl | later
          · rw [List.mem_cons, not_or]
            exact ⟨Ne.symm same, ih List.mem_cons_self⟩
          · exact ih (List.mem_cons_of_mem first later)

theorem join_eq_append (separator first : Text) (others : List Text) :
    join separator (first :: others) = first ++ others.flatMap (separator ++ ·) := by
  induction others generalizing first with
  | nil => simp [join]
  | cons second others ih =>
      have rest := ih second
      rw [join] at rest ⊢
      rw [List.intercalate_cons_cons, rest, List.flatMap_cons]
      simp

theorem mem_join (other : c ≠ separator) :
    c ∈ join [separator] pieces ↔ ∃ piece ∈ pieces, c ∈ piece := by
  cases pieces with
  | nil => simp [join]
  | cons first others =>
      rw [join_eq_append]
      simp [other]

theorem join_sublist (separator : Text) {others : List Text} (within : pieces.Sublist others) :
    (join separator pieces).Sublist (join separator others) := by
  have separated (pieces : List Text) :
      (join separator pieces).Sublist (pieces.flatMap (separator ++ ·)) := by
    cases pieces with
    | nil => simp [join]
    | cons first later =>
        rw [join_eq_append, List.flatMap_cons, List.append_assoc]
        exact List.sublist_append_right separator _
  cases within with
  | slnil => exact List.Sublist.refl _
  | @cons _ others first within =>
      rw [join_eq_append separator first others]
      exact ((separated pieces).trans (within.flatMap _)).trans (List.sublist_append_right first _)
  | @cons_cons pieces others first within =>
      rw [join_eq_append, join_eq_append]
      exact (within.flatMap _).append_left first

end Text

namespace Path
variable {spelled : Text}

/-- The part leads somewhere else. -/
def moves (part : Text) : Bool := !part.isEmpty && part != ['.']

theorem moves_eq_false {part : Text} : moves part = false ↔ part = [] ∨ part = ['.'] := by
  simp [moves, Decidable.imp_iff_not_or]

theorem not_mem_of_staying {part : Text} {c : Char} (stays : moves part = false) (other : c ≠ '.') :
    c ∉ part := by
  rcases moves_eq_false.mp stays with rfl | rfl
  · exact List.not_mem_nil
  · simpa using other

theorem moves_of_mem {part : Text} {c : Char} (among : c ∈ part) (other : c ≠ '.') :
    moves part = true := by
  by_contra stays
  exact not_mem_of_staying (Bool.eq_false_iff.mpr stays) other among

def Rooted (path : Path) : Prop := path.root = [] ∨ path.root = ['/'] ∨ path.root = ['/', '/']

/-! ## Splitting the shortest spelling -/

theorem text_eq_join {path : Path} (rooted : path.Rooted) :
    ∃ staying, (∀ part ∈ staying, moves part = false) ∧ staying ++ path.parts ≠ [] ∧
      path.text = Text.join ['/'] (staying ++ path.parts) := by
  obtain ⟨root, parts⟩ := path
  rcases parts with _ | ⟨part, parts⟩
  · rcases rooted with rfl | rfl | rfl
    · exact ⟨[['.']], by decide, by simp, rfl⟩
    · exact ⟨[[], []], by decide, by simp, rfl⟩
    · exact ⟨[[], [], []], by decide, by simp, rfl⟩
  · rcases rooted with rfl | rfl | rfl
    · exact ⟨[], by decide, by simp, rfl⟩
    · exact ⟨[[]], by decide, by simp, by simp [text, Text.join, List.intercalate_cons_cons]⟩
    · exact ⟨[[], []], by decide, by simp, by simp [text, Text.join, List.intercalate_cons_cons]⟩

theorem splitOn_text {path : Path} (rooted : path.Rooted) (whole : ∀ part ∈ path.parts, '/' ∉ part) :
    ∃ staying, (∀ part ∈ staying, moves part = false) ∧
      Text.splitOn '/' path.text = staying ++ path.parts := by
  obtain ⟨staying, stay, some, text⟩ := text_eq_join rooted
  refine ⟨staying, stay, ?_⟩
  rw [text, Text.splitOn_join _ some]
  exact List.forall_mem_append.mpr
    ⟨fun part among => not_mem_of_staying (stay part among) (by decide), whole⟩

theorem mem_text {path : Path} (rooted : path.Rooted) {c : Char} (noSlash : c ≠ '/') (noDot : c ≠ '.') :
    c ∈ path.text ↔ ∃ part ∈ path.parts, c ∈ part := by
  obtain ⟨staying, stay, -, text⟩ := text_eq_join rooted
  rw [text, Text.mem_join noSlash]
  constructor
  · rintro ⟨part, among, stands⟩
    rcases List.mem_append.mp among with early | among
    · exact absurd stands (not_mem_of_staying (stay part early) noDot)
    · exact ⟨part, among, stands⟩
  · rintro ⟨part, among, stands⟩
    exact ⟨part, List.mem_append_right _ among, stands⟩

/-! ## From a given spelling to the shortest -/

/-- A spelling is its root and a rest that holds all the parts. -/
theorem exists_rest (spelled : Text) : ∃ rest, spelled = (ofText spelled).root ++ rest ∧
    (ofText spelled).parts = (Text.splitOn '/' rest).filter moves ∧
    ((ofText spelled).root = [] ∧ spelled.head? ≠ some '/' ∨
      (ofText spelled).root = ['/'] ∨ (ofText spelled).root = ['/', '/']) := by
  have stays : ¬ moves [] = true := by decide
  rcases spelled with _ | ⟨c, rest⟩
  · exact ⟨[], rfl, rfl, .inl ⟨rfl, by simp⟩⟩
  · by_cases first : c = '/'
    · subst first
      have parts : (ofText ('/' :: rest)).parts = (Text.splitOn '/' rest).filter moves := by
        change (Text.splitOn '/' ('/' :: rest)).filter moves = _
        rw [Text.splitOn_separator, List.filter_cons_of_neg stays]
      by_cases two : (rest.takeWhile (· == '/')).length = 1
      · have root : (ofText ('/' :: rest)).root = ['/', '/'] := by
          simp [ofText, two]
        rcases rest with _ | ⟨d, rest⟩
        · simp at two
        · have second : d = '/' := by
            by_contra other
            simp [other] at two
          subst second
          refine ⟨rest, by rw [root]; rfl, ?_, .inr (.inr root)⟩
          rw [parts, Text.splitOn_separator, List.filter_cons_of_neg stays]
      · have root : (ofText ('/' :: rest)).root = ['/'] := by
          simp only [ofText, beq_self_eq_true, List.takeWhile_cons_of_pos, List.length_cons]
          split
          · contradiction
          · rename_i count
            exact absurd (Nat.succ.inj count) two
          · rfl
        exact ⟨rest, by rw [root]; rfl, parts, .inr (.inl root)⟩
    · refine ⟨c :: rest, ?_, rfl, .inl ⟨?_, by simpa using first⟩⟩ <;> simp [ofText, first]

theorem rooted_ofText (spelled : Text) : (ofText spelled).Rooted := by
  obtain ⟨-, -, -, ⟨root, -⟩ | root | root⟩ := exists_rest spelled
  · exact .inl root
  · exact .inr (.inl root)
  · exact .inr (.inr root)

theorem mem_parts_ofText {part : Text} :
    part ∈ (ofText spelled).parts ↔ part ∈ Text.splitOn '/' spelled ∧ moves part = true :=
  List.mem_filter

theorem moves_of_mem_parts : ∀ part ∈ (ofText spelled).parts, moves part = true :=
  fun _ among => (mem_parts_ofText.mp among).2

theorem slash_not_mem_parts : ∀ part ∈ (ofText spelled).parts, '/' ∉ part :=
  fun _ among => Text.separator_not_mem_splitOn (mem_parts_ofText.mp among).1

theorem isAbsolute_ofText : (ofText spelled).isAbsolute = true ↔ spelled.head? = some '/' := by
  obtain ⟨rest, whole, -, ⟨root, relative⟩ | root | root⟩ := exists_rest spelled
  · simp [isAbsolute, root, relative]
  all_goals
    have begins : spelled.head? = some '/' := by
      rw [whole, root]
      rfl
    simp [isAbsolute, root, begins]

theorem head?_text_ofText : (ofText spelled).text.head? = some '/' ↔ spelled.head? = some '/' := by
  have whole : ∀ part ∈ (ofText spelled).parts, '/' ∉ part := slash_not_mem_parts
  have leads : ∀ part ∈ (ofText spelled).parts, moves part = true := moves_of_mem_parts
  have rooted := rooted_ofText spelled
  refine Iff.trans ?_ isAbsolute_ofText
  generalize ofText spelled = path at whole leads rooted
  obtain ⟨root, parts⟩ := path
  rcases rooted with rfl | rfl | rfl
  · rcases parts with _ | ⟨_ | ⟨c, part⟩, parts⟩
    · decide
    · cases leads [] List.mem_cons_self
    · have other : c ≠ '/' := by
        rintro rfl
        exact whole _ List.mem_cons_self List.mem_cons_self
      simp [text, isAbsolute, Text.join_eq_append, other]
  · simp [text, isAbsolute]
  · simp [text, isAbsolute]

theorem text_ne_nil (spelled : Text) : (ofText spelled).text ≠ [] := by
  have leads : ∀ part ∈ (ofText spelled).parts, moves part = true := moves_of_mem_parts
  have rooted := rooted_ofText spelled
  generalize ofText spelled = path at leads rooted
  obtain ⟨root, parts⟩ := path
  rcases parts with _ | ⟨_ | ⟨c, part⟩, parts⟩
  · rcases rooted with rfl | rfl | rfl <;> decide
  · cases leads [] List.mem_cons_self
  · simp [text, Text.join_eq_append]

theorem mem_spelled {c : Char} (noSlash : c ≠ '/') (noDot : c ≠ '.') :
    c ∈ spelled ↔ ∃ part ∈ (ofText spelled).parts, c ∈ part := by
  have split : c ∈ spelled ↔ ∃ part ∈ Text.splitOn '/' spelled, c ∈ part := by
    rw [← Text.mem_join noSlash, Text.join_splitOn]
  rw [split]
  constructor
  · rintro ⟨part, among, stands⟩
    exact ⟨part, mem_parts_ofText.mpr ⟨among, moves_of_mem stands noDot⟩, stands⟩
  · rintro ⟨part, among, stands⟩
    exact ⟨part, (mem_parts_ofText.mp among).1, stands⟩

theorem hasNul_text_ofText (spelled : Text) : hasNul (ofText spelled).text = hasNul spelled := by
  have same : '\x00' ∈ (ofText spelled).text ↔ '\x00' ∈ spelled := by
    rw [mem_text (rooted_ofText spelled) (by decide) (by decide), mem_spelled (by decide) (by decide)]
  simp only [hasNul, List.contains_eq_mem, same]

theorem text_sublist (some : spelled ≠ []) : (ofText spelled).text.Sublist spelled := by
  obtain ⟨rest, whole, parts, roots⟩ := exists_rest spelled
  unfold text
  split_ifs with staying
  · -- Without a root and without parts the first part can only be a dot.
    rw [Bool.and_eq_true, List.isEmpty_iff, List.isEmpty_iff] at staying
    obtain ⟨c, others, rfl⟩ := List.exists_cons_of_ne_nil some
    have noSlash : c ≠ '/' := by
      rintro rfl
      rcases roots with ⟨-, relative⟩ | root | root
      · exact relative rfl
      · rw [staying.1] at root
        cases root
      · rw [staying.1] at root
        cases root
    have dot : c = '.' := by
      by_contra noDot
      obtain ⟨part, among, -⟩ := (mem_spelled noSlash noDot).mp List.mem_cons_self
      rw [staying.2] at among
      exact List.not_mem_nil among
    rw [dot]
    exact List.singleton_sublist.mpr List.mem_cons_self
  · have kept : (Text.join ['/'] (ofText spelled).parts).Sublist rest := by
      rw [parts]
      simpa only [Text.join_splitOn] using
        Text.join_sublist ['/'] (List.filter_sublist (l := Text.splitOn '/' rest) (p := moves))
    calc
      (ofText spelled).root ++ Text.join ['/'] (ofText spelled).parts
      List.Sublist _ ((ofText spelled).root ++ rest) := kept.append_left _
      _ = spelled := whole.symm

end Path

/-! ## Places -/

structure IsName (name : Text) : Prop where
  leads : Path.moves name = true
  whole : '/' ∉ name
  plain : hasNul name = false
  onward : name ≠ ['.', '.']

namespace Place
variable {place directory : Place} {spelled : Text}

def Real (place : Place) : Prop := ∀ name ∈ place, IsName name

theorem Real.go {part : Text} (real : place.Real) (leads : Path.moves part = true) (whole : '/' ∉ part)
    (plain : hasNul part = false) : (place.go part).Real := by
  by_cases up : part = ['.', '.']
  · rw [Place.go, if_pos up]
    exact fun name among => real name (List.dropLast_subset place among)
  · rw [Place.go, if_neg up]
    exact List.forall_mem_append.mpr ⟨real, List.forall_mem_singleton.mpr ⟨leads, whole, plain, up⟩⟩

theorem Real.foldl_go {parts : List Text} (real : place.Real)
    (proper : ∀ part ∈ parts, Path.moves part = true ∧ '/' ∉ part ∧ hasNul part = false) :
    Real (parts.foldl Place.go place) := by
  induction parts generalizing place with
  | nil => exact real
  | cons part parts ih =>
      obtain ⟨⟨leads, whole, plain⟩, later⟩ := List.forall_mem_cons.mp proper
      exact ih (real.go leads whole plain) later

theorem Real.follow (real : directory.Real) (plain : hasNul spelled = false) :
    (directory.follow (Path.ofText spelled)).Real := by
  have start : Real (if (Path.ofText spelled).isAbsolute then [] else directory) := by
    split_ifs
    · exact List.forall_mem_nil _
    · exact real
  refine start.foldl_go fun part among => ?_
  refine ⟨Path.moves_of_mem_parts part among, Path.slash_not_mem_parts part among, ?_⟩
  simp only [hasNul, List.contains_eq_mem, decide_eq_false_iff_not] at plain ⊢
  exact fun nul => plain ((Path.mem_spelled (by decide) (by decide)).mpr ⟨part, among, nul⟩)

end Place

end Xref
