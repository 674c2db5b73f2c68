import Mathlib.Data.List.Forall2
import Xref.Json.Parser
import Xref.Proofs.Json.Quoted

namespace Xref.Json

/-! ## Layout -/

def IsLayout (text : Text) : Prop := ∀ c ∈ text, Input.isLayout c = true

theorem isLayout_newLine (level : Nat) : IsLayout (newLine level) := by
  intro c stands
  rcases List.mem_cons.mp stands with rfl | indent
  · rfl
  · rw [List.eq_of_mem_replicate indent]
    rfl

theorem advance_append (front rest : Text) (position : Nat) :
    Input.advance ⟨front ++ rest, position⟩ front.length = ⟨rest, position + front.length⟩ := by
  simp [Input.advance]

theorem skipLayout_append {layout : Text} {c : Char} (skipped : IsLayout layout)
    (solid : Input.isLayout c = false) (rest : Text) (position : Nat) :
    Input.skipLayout ⟨layout ++ c :: rest, position⟩ = ⟨c :: rest, position + layout.length⟩ := by
  have front : (layout ++ c :: rest).takeWhile Input.isLayout = layout := by
    rw [List.takeWhile_append_of_pos skipped, List.takeWhile_cons_of_neg (by simp [solid]),
      List.append_nil]
  unfold Input.skipLayout
  rw [front, advance_append]

theorem skipLayout_cons {c : Char} (solid : Input.isLayout c = false) (rest : Text)
    (position : Nat) : Input.skipLayout ⟨c :: rest, position⟩ = ⟨c :: rest, position⟩ :=
  skipLayout_append (fun _ stands => absurd stands List.not_mem_nil) solid rest position

/-! ## Values -/

/-- The text is read as the value, whatever follows it. Its first character is no layout and closes
no array, so a reader that looks for an end goes on. -/
structure Reads (written : Text) (value : Value) : Prop where
  begins : ∃ c rest, written = c :: rest ∧ Input.isLayout c = false ∧ c ≠ ']'
  read : ∀ fuel rest position, written.length ≤ fuel →
    readValue fuel ⟨written ++ rest, position⟩ = .ok (value, ⟨rest, position + written.length⟩)

theorem Reads.of_succ {written : Text} {value : Value}
    (begins : ∃ c rest, written = c :: rest ∧ Input.isLayout c = false ∧ c ≠ ']')
    (read : ∀ fuel rest position, written.length ≤ fuel + 1 →
      readValue (fuel + 1) ⟨written ++ rest, position⟩ =
        .ok (value, ⟨rest, position + written.length⟩)) : Reads written value := by
  refine ⟨begins, ?_⟩
  intro fuel rest position enough
  cases fuel with
  | zero =>
      obtain ⟨c, tail, rfl, -⟩ := begins
      simp at enough
  | succ fuel => exact read fuel rest position enough

theorem reads_writeText (text : Text) : Reads (writeText text) (.text text) := by
  refine .of_succ ⟨'"', _, rfl, by decide, by decide⟩ ?_
  intro fuel rest position _
  have quoted := readQuoted_writeText text rest position
  rw [writeText] at quoted ⊢
  simp only [List.cons_append, readValue] at quoted ⊢
  rw [quoted]
  rfl

theorem reads_writeBool (b : Bool) : Reads (writeBool b) (.bool b) := by
  cases b with
  | true => exact .of_succ ⟨'t', _, rfl, by decide, by decide⟩ fun _ _ _ _ => rfl
  | false => exact .of_succ ⟨'f', _, rfl, by decide, by decide⟩ fun _ _ _ _ => rfl

/-! ## Arrays -/

theorem join_singleton (separator piece : Text) : Text.join separator [piece] = piece := by
  simp [Text.join]

theorem join_cons_cons (separator first second : Text) (others : List Text) :
    Text.join separator (first :: second :: others) =
      first ++ separator ++ Text.join separator (second :: others) := by
  simp [Text.join, List.intercalate, List.intersperse]

theorem join_begins (separator : Text) {first : Text} (others : List Text) {value : Value}
    (reads : Reads first value) : ∃ c rest, Text.join separator (first :: others) = c :: rest ∧
      Input.isLayout c = false ∧ c ≠ ']' := by
  obtain ⟨c, rest, rfl, solid, other⟩ := reads.begins
  cases others with
  | nil => exact ⟨c, rest, join_singleton separator _, solid, other⟩
  | cons second others =>
      rw [join_cons_cons]
      exact ⟨c, _, rfl, solid, other⟩

theorem readItems_last {item layout : Text} {value : Value} (reads : Reads item value)
    (closed : IsLayout layout) {fuel : Nat} (enough : item.length ≤ fuel) (rest : Text)
    (position : Nat) :
    readItems (fuel + 1) ⟨item ++ (layout ++ ']' :: rest), position⟩ =
      .ok ([value], ⟨rest, position + item.length + layout.length + 1⟩) := by
  simp only [readItems, reads.read fuel _ position enough,
    skipLayout_append closed (show Input.isLayout ']' = false by decide)]
  rfl

theorem readItems_next {item layout : Text} {value : Value} (reads : Reads item value)
    (indented : IsLayout layout) {fuel : Nat} (enough : item.length ≤ fuel) {c : Char}
    (solid : Input.isLayout c = false) (rest : Text) (position : Nat) :
    readItems (fuel + 1) ⟨item ++ (',' :: layout ++ c :: rest), position⟩ =
      (readItems fuel ⟨c :: rest, position + item.length + 1 + layout.length⟩).map
        fun (items, input) => (value :: items, input) := by
  simp only [readItems, reads.read fuel _ position enough, List.cons_append,
    skipLayout_cons (show Input.isLayout ',' = false by decide)]
  rw [Input.advance, List.drop_succ_cons, List.drop_zero, skipLayout_append indented solid]

theorem readItems_written {indent layout : Text} (indented : IsLayout indent)
    (closed : IsLayout layout) {items : List Text} {values : List Value}
    (reads : List.Forall₂ Reads items values) (some : items ≠ []) (fuel : Nat) (rest : Text)
    (position : Nat) (enough : (Text.join (',' :: indent) items).length < fuel) :
    readItems fuel ⟨Text.join (',' :: indent) items ++ (layout ++ ']' :: rest), position⟩ =
      .ok (values, ⟨rest, position + (Text.join (',' :: indent) items).length + layout.length + 1⟩) := by
  induction reads generalizing fuel position with
  | nil => contradiction
  | @cons item value items values first others ih =>
      obtain ⟨fuel, rfl⟩ : ∃ less, fuel = less + 1 := ⟨fuel - 1, by omega⟩
      cases others with
      | nil =>
          rw [join_singleton] at enough ⊢
          exact readItems_last first closed (by omega) rest position
      | @cons second _ items _ next others =>
          obtain ⟨c, tail, joined, solid, -⟩ := join_begins (',' :: indent) items next
          rw [join_cons_cons, joined, List.length_append, List.length_append, List.length_cons,
            List.length_cons] at enough
          have later := ih (by simp) fuel (position + item.length + 1 + indent.length)
            (by rw [joined, List.length_cons]; omega)
          have shape : item ++ ',' :: indent ++ c :: tail ++ (layout ++ ']' :: rest) =
              item ++ (',' :: indent ++ c :: (tail ++ (layout ++ ']' :: rest))) := by simp
          rw [joined] at later
          rw [join_cons_cons, joined, shape, readItems_next first indented (by omega) solid,
            ← List.cons_append, later]
          simp only [Except.map, List.length_append, List.length_cons]
          congr 3
          omega

/-! ## Members between brackets -/

theorem writeMembers_append (opening closing : Char) (level : Nat) (member : Text)
    (members : List Text) (rest : Text) :
    writeMembers opening closing level (member :: members) ++ rest =
      opening :: (newLine (level + 1) ++ (Text.join (',' :: newLine (level + 1)) (member :: members) ++
        (newLine level ++ closing :: rest))) := by
  simp [writeMembers]

theorem length_writeMembers (opening closing : Char) (level : Nat) (member : Text)
    (members : List Text) :
    (writeMembers opening closing level (member :: members)).length =
      (newLine (level + 1)).length + (Text.join (',' :: newLine (level + 1)) (member :: members)).length +
        (newLine level).length + 2 := by
  simp [writeMembers]
  omega

theorem skipLayout_inside (opening : Char) (level : Nat) {text : Text} {c : Char} {rest : Text}
    (begins : text = c :: rest) (solid : Input.isLayout c = false) (more : Text) (position : Nat) :
    (Input.advance ⟨opening :: (newLine (level + 1) ++ (text ++ more)), position⟩ 1).skipLayout =
      ⟨text ++ more, position + 1 + (newLine (level + 1)).length⟩ := by
  rw [Input.advance, List.drop_succ_cons, List.drop_zero, begins, List.cons_append,
    skipLayout_append (isLayout_newLine _) solid]

theorem reads_writeArray {items : List Text} {values : List Value}
    (reads : List.Forall₂ Reads items values) (level : Nat) :
    Reads (writeArray level items) (.array values) := by
  cases reads with
  | nil => exact .of_succ ⟨'[', [']'], rfl, by decide, by decide⟩ fun _ _ _ _ => rfl
  | @cons item value items values first others =>
      obtain ⟨c, tail, joined, solid, further⟩ := join_begins (',' :: newLine (level + 1)) items first
      refine .of_succ ⟨'[', _, rfl, by decide, by decide⟩ ?_
      intro fuel rest position enough
      rw [writeArray, length_writeMembers] at enough
      have goesOn : (Text.join (',' :: newLine (level + 1)) (item :: items) ++
          (newLine level ++ ']' :: rest)).head? ≠ some ']' := by
        simpa [joined] using further
      have inside := readItems_written (isLayout_newLine (level + 1)) (isLayout_newLine level)
        (.cons first others) (by simp) fuel rest (position + 1 + (newLine (level + 1)).length)
        (by omega)
      rw [writeArray, writeMembers_append, length_writeMembers]
      simp only [readValue, skipLayout_inside '[' level joined solid, if_neg goesOn, inside, Except.map]
      congr 3
      omega

/-! ## Objects -/

def writeField (field : Text × Text) : Text := writeText field.1 ++ ": " ++ field.2

theorem writeObject_eq (level : Nat) (fields : List (Text × Text)) :
    writeObject level fields = writeMembers '\x7b' '\x7d' level (fields.map writeField) := rfl

def ReadsField (field : Text × Text) (read : Text × Value) : Prop :=
  field.1 = read.1 ∧ Reads field.2 read.2

theorem length_writeField (name written : Text) :
    (writeField (name, written)).length = (writeText name).length + written.length + 2 := by
  simp [writeField]
  omega

section
variable {name written layout : Text} {value : Value} {fuel : Nat}

/-- What a reader of fields does after a field depends on the character behind the layout. -/
theorem readFields_field (name : Text) (reads : Reads written value) (enough : written.length ≤ fuel)
    {more rest : Text} {position behind : Nat} {c : Char}
    (skipped : Input.skipLayout ⟨more, position + (writeField (name, written)).length⟩ =
      ⟨c :: rest, behind⟩) :
    (c = '\x7d' → readFields (fuel + 1) ⟨writeField (name, written) ++ more, position⟩ =
      .ok ([(name, value)], ⟨rest, behind + 1⟩)) ∧
    (c = ',' → readFields (fuel + 1) ⟨writeField (name, written) ++ more, position⟩ =
      (readFields fuel (Input.skipLayout ⟨rest, behind + 1⟩)).map
        fun (fields, input) => ((name, value) :: fields, input)) := by
  have read := reads.read fuel more (position + (writeText name).length + 1 + 1) enough
  have length : position + (writeText name).length + 1 + 1 + written.length =
      position + (writeField (name, written)).length := by
    rw [length_writeField]
    omega
  obtain ⟨first, others, rfl, solid, -⟩ := reads.begins
  have shape : writeField (name, first :: others) ++ more =
      writeText name ++ (':' :: ([' '] ++ first :: (others ++ more))) := by
    simp [writeField]
  have quoted := readQuoted_writeText name (':' :: ([' '] ++ first :: (others ++ more))) position
  have blank : IsLayout [' '] := by simp [IsLayout, Input.isLayout]
  have spaced := skipLayout_append blank solid (others ++ more) (position + (writeText name).length + 1)
  -- The reader looks at the opening quote of the name before it reads the name.
  obtain ⟨body, opens⟩ : ∃ body, writeText name ++ (':' :: ([' '] ++ first :: (others ++ more))) =
    '"' :: body := ⟨_, rfl⟩
  rw [length, List.cons_append] at read
  rw [opens] at quoted
  rw [shape, opens]
  simp only [readFields, quoted, skipLayout_cons (show Input.isLayout ':' = false by decide),
    List.head?_cons, ne_eq, not_true_eq_false, if_false]
  rw [Input.advance, List.drop_succ_cons, List.drop_zero, spaced]
  simp only [List.length_singleton, read, skipped]
  exact ⟨fun closes => closes ▸ rfl, fun goesOn => goesOn ▸ rfl⟩

theorem readFields_last (name : Text) (reads : Reads written value) (closed : IsLayout layout)
    (enough : written.length ≤ fuel) (rest : Text) (position : Nat) :
    readFields (fuel + 1) ⟨writeField (name, written) ++ (layout ++ '\x7d' :: rest), position⟩ =
      .ok ([(name, value)],
        ⟨rest, position + (writeField (name, written)).length + layout.length + 1⟩) :=
  (readFields_field name reads enough (skipLayout_append closed (by decide) rest _)).1 rfl

theorem readFields_next (name : Text) (reads : Reads written value) (indented : IsLayout layout)
    (enough : written.length ≤ fuel) {c : Char} (solid : Input.isLayout c = false) (rest : Text)
    (position : Nat) :
    readFields (fuel + 1) ⟨writeField (name, written) ++ (',' :: layout ++ c :: rest), position⟩ =
      (readFields fuel
        ⟨c :: rest, position + (writeField (name, written)).length + 1 + layout.length⟩).map
          fun (fields, input) => ((name, value) :: fields, input) := by
  rw [List.cons_append, (readFields_field name reads enough (skipLayout_cons (by decide) _ _)).2 rfl,
    skipLayout_append indented solid]

end

theorem join_fields_begins (separator name written : Text) (others : List Text) :
    ∃ rest, Text.join separator (writeField (name, written) :: others) = '"' :: rest := by
  cases others with
  | nil => exact ⟨_, join_singleton separator _⟩
  | cons second others => exact ⟨_, join_cons_cons separator _ second others⟩

theorem readFields_written {indent layout : Text} (indented : IsLayout indent)
    (closed : IsLayout layout) {fields : List (Text × Text)} {values : List (Text × Value)}
    (reads : List.Forall₂ ReadsField fields values) (some : fields ≠ []) (fuel : Nat) (rest : Text)
    (position : Nat) (enough : (Text.join (',' :: indent) (fields.map writeField)).length < fuel) :
    readFields fuel ⟨Text.join (',' :: indent) (fields.map writeField) ++ (layout ++ '\x7d' :: rest),
        position⟩ =
      .ok (values, ⟨rest, position + (Text.join (',' :: indent) (fields.map writeField)).length +
        layout.length + 1⟩) := by
  induction reads generalizing fuel position with
  | nil => contradiction
  | @cons field value fields values first others ih =>
      obtain ⟨fuel, rfl⟩ : ∃ less, fuel = less + 1 := ⟨fuel - 1, by omega⟩
      obtain ⟨name, written⟩ := field
      obtain ⟨_, value⟩ := value
      obtain ⟨rfl, first⟩ := first
      replace first : Reads written value := first
      have length := length_writeField name written
      cases others with
      | nil =>
          rw [List.map_singleton, join_singleton] at enough ⊢
          exact readFields_last name first closed (by omega) rest position
      | @cons second _ fields _ next others =>
          obtain ⟨tail, joined⟩ := join_fields_begins (',' :: indent) second.1 second.2
            (fields.map writeField)
          rw [List.map_cons, List.map_cons, join_cons_cons, joined, List.length_append,
            List.length_append, List.length_cons, List.length_cons] at enough
          have later := ih (by simp) fuel
            (position + (writeField (name, written)).length + 1 + indent.length)
            (by rw [List.map_cons, joined, List.length_cons]; omega)
          have shape : writeField (name, written) ++ ',' :: indent ++ '"' :: tail ++
              (layout ++ '\x7d' :: rest) = writeField (name, written) ++
                (',' :: indent ++ '"' :: (tail ++ (layout ++ '\x7d' :: rest))) := by simp
          rw [List.map_cons, joined] at later
          rw [List.map_cons, List.map_cons, join_cons_cons, joined, shape,
            readFields_next name first indented (by omega) (by decide), ← List.cons_append, later]
          simp only [Except.map, List.length_append, List.length_cons]
          congr 3
          omega

theorem reads_writeObject {fields : List (Text × Text)} {values : List (Text × Value)}
    (reads : List.Forall₂ ReadsField fields values) (level : Nat) :
    Reads (writeObject level fields) (.object values) := by
  rw [writeObject_eq]
  cases reads with
  | nil => exact .of_succ ⟨'\x7b', ['\x7d'], rfl, by decide, by decide⟩ fun _ _ _ _ => rfl
  | @cons field value fields values first others =>
      obtain ⟨tail, joined⟩ := join_fields_begins (',' :: newLine (level + 1)) field.1 field.2
        (fields.map writeField)
      refine .of_succ ⟨'\x7b', _, rfl, by decide, by decide⟩ ?_
      intro fuel rest position enough
      rw [List.map_cons, length_writeMembers] at enough
      have goesOn : (Text.join (',' :: newLine (level + 1)) (writeField field :: fields.map writeField) ++
          (newLine level ++ '\x7d' :: rest)).head? ≠ some '\x7d' := by
        simp [joined]
      have inside := readFields_written (isLayout_newLine (level + 1)) (isLayout_newLine level)
        (.cons first others) (by simp) fuel rest (position + 1 + (newLine (level + 1)).length)
        (by rw [List.map_cons]; omega)
      rw [List.map_cons] at inside
      rw [List.map_cons, writeMembers_append, length_writeMembers]
      simp only [readValue, skipLayout_inside '\x7b' level joined (show Input.isLayout '"' = false by decide),
        if_neg goesOn, inside, Except.map]
      congr 3
      omega

/-! ## Documents -/

theorem parse_of_reads {written : Text} {value : Value} (reads : Reads written value)
    (unmarked : written.head? ≠ some '\ufeff') : parse written = .ok value := by
  obtain ⟨c, rest, begins, solid, -⟩ := reads.begins
  have skipped : Input.skipLayout ⟨written, 0⟩ = ⟨written, 0⟩ := by
    rw [begins]
    exact skipLayout_cons solid rest 0
  have read := reads.read (2 * written.length + 2) [] 0 (by omega)
  rw [List.append_nil] at read
  simp only [parse, readDocument, if_neg unmarked, skipped, read]
  rfl

/-! ## Carriage returns -/

theorem return_not_mem_join {separator : Text} {pieces : List Text} (between : '\r' ∉ separator)
    (within : ∀ piece ∈ pieces, '\r' ∉ piece) : '\r' ∉ Text.join separator pieces := by
  induction pieces with
  | nil => simp [Text.join]
  | cons first others ih =>
      obtain ⟨head, tail⟩ := List.forall_mem_cons.mp within
      cases others with
      | nil => rwa [join_singleton]
      | cons second others =>
          rw [join_cons_cons, List.mem_append, List.mem_append, not_or, not_or]
          exact ⟨⟨head, between⟩, ih tail⟩

theorem return_not_mem_newLine (level : Nat) : '\r' ∉ newLine level := by
  simp [newLine]

theorem return_not_mem_writeMembers {opening closing : Char} (opens : opening ≠ '\r')
    (closes : closing ≠ '\r') (level : Nat) {members : List Text}
    (within : ∀ member ∈ members, '\r' ∉ member) :
    '\r' ∉ writeMembers opening closing level members := by
  cases members with
  | nil => simp [writeMembers, opens.symm, closes.symm]
  | cons member members =>
      have between : '\r' ∉ ',' :: newLine (level + 1) := by simp [return_not_mem_newLine]
      have joined := return_not_mem_join between within
      simp [writeMembers, opens.symm, closes.symm, return_not_mem_newLine, joined]

theorem return_not_mem_writeObject (level : Nat) {fields : List (Text × Text)}
    (within : ∀ field ∈ fields, '\r' ∉ field.2) : '\r' ∉ writeObject level fields := by
  rw [writeObject_eq]
  apply return_not_mem_writeMembers (by decide) (by decide)
  intro member written
  obtain ⟨field, listed, rfl⟩ := List.mem_map.mp written
  simp [writeField, return_not_mem_writeText, within field listed]

end Xref.Json
