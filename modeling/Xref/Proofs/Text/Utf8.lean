import Mathlib.Tactic.Common
import Xref.Text.Utf8

namespace Xref.Utf8

theorem toNat_toUInt8 {n : Nat} (small : n < 256) : n.toUInt8.toNat = n := by
  simp [small]

theorem toNat_lt_or (c : Char) :
    c.toNat < 0xD800 ∨ (0xDFFF < c.toNat ∧ c.toNat < 0x110000) := c.valid

section
variable {b : UInt8}

theorem lead_of_two (low : 0xC2 ≤ b.toNat) (high : b.toNat < 0xE0) :
    lead b = .part ⟨[b], b.toNat - 0xC0, 0, 0x80, 0xBF⟩ := by
  simp only [lead, UInt8.lt_iff_toNat_lt, UInt8.reduceToNat]
  rw [if_neg (by omega), if_neg (by omega), if_pos high]

theorem lead_of_three (low : 0xE0 ≤ b.toNat) (high : b.toNat < 0xF0) :
    lead b = .part ⟨[b], b.toNat - 0xE0, 1, if b = 0xE0 then 0xA0 else 0x80,
      if b = 0xED then 0x9F else 0xBF⟩ := by
  simp only [lead, UInt8.lt_iff_toNat_lt, UInt8.reduceToNat]
  rw [if_neg (by omega), if_neg (by omega), if_neg (by omega), if_pos high]

theorem lead_of_four (low : 0xF0 ≤ b.toNat) (high : b.toNat < 0xF5) :
    lead b = .part ⟨[b], b.toNat - 0xF0, 2, if b = 0xF0 then 0x90 else 0x80,
      if b = 0xF4 then 0x8F else 0xBF⟩ := by
  simp only [lead, UInt8.lt_iff_toNat_lt, UInt8.reduceToNat]
  rw [if_neg (by omega), if_neg (by omega), if_neg (by omega), if_neg (by omega), if_pos high]

theorem admits_iff {started : Started} :
    started.admits b = true ↔ started.low.toNat ≤ b.toNat ∧ b.toNat ≤ started.high.toNat := by
  simp [Started.admits, UInt8.le_iff_toNat_le]

theorem scanFrom_last {started : Started} (admitted : started.admits b = true)
    (final : started.further = 0) (rest : Bytes) :
    scanFrom (some started) (b :: rest) =
      .char (Char.ofNat (started.value * 64 + (b.toNat - 0x80))) :: scanFrom none rest := by
  simp [scanFrom, admitted, Started.extend, final]

theorem scanFrom_inner {started : Started} {further : Nat} (admitted : started.admits b = true)
    (more : started.further = further + 1) (rest : Bytes) :
    scanFrom (some started) (b :: rest) =
      scanFrom (some ⟨started.bytes ++ [b], started.value * 64 + (b.toNat - 0x80), further,
        0x80, 0xBF⟩) rest := by
  simp [scanFrom, admitted, Started.extend, more]

theorem scanFrom_lead {started : Started} (begins : lead b = .part started) (rest : Bytes) :
    scanFrom none (b :: rest) = scanFrom (some started) rest := by
  simp [scanFrom, begins]

end

section
variable {p q r s : Nat} (rest : Bytes)

theorem scanFrom_two (first : 2 ≤ p ∧ p < 32) (second : q < 64) :
    scanFrom none ((0xC0 + p).toUInt8 :: (0x80 + q).toUInt8 :: rest) =
      .char (Char.ofNat (p * 64 + q)) :: scanFrom none rest := by
  have one := toNat_toUInt8 (n := 0xC0 + p) (by omega)
  have two := toNat_toUInt8 (n := 0x80 + q) (by omega)
  rw [scanFrom_lead (lead_of_two (by omega) (by omega)),
    scanFrom_last (admits_iff.mpr (by simp only [UInt8.reduceToNat]; omega)) rfl, one, two,
    Nat.add_sub_cancel_left, Nat.add_sub_cancel_left]

theorem scanFrom_three (first : p < 16) (second : q < 64) (third : r < 64)
    (shortest : p = 0 → 32 ≤ q) (noSurrogate : p = 13 → q < 32) :
    scanFrom none ((0xE0 + p).toUInt8 :: (0x80 + q).toUInt8 :: (0x80 + r).toUInt8 :: rest) =
      .char (Char.ofNat ((p * 64 + q) * 64 + r)) :: scanFrom none rest := by
  have one := toNat_toUInt8 (n := 0xE0 + p) (by omega)
  have two := toNat_toUInt8 (n := 0x80 + q) (by omega)
  have three := toNat_toUInt8 (n := 0x80 + r) (by omega)
  have lowest : (0xE0 + p).toUInt8 = 0xE0 ↔ p = 0 := by
    simp only [← UInt8.toNat_inj, one, UInt8.reduceToNat]
    omega
  have highest : (0xE0 + p).toUInt8 = 0xED ↔ p = 13 := by
    simp only [← UInt8.toNat_inj, one, UInt8.reduceToNat]
    omega
  rw [scanFrom_lead (lead_of_three (by omega) (by omega)), scanFrom_inner ?_ rfl,
    scanFrom_last (admits_iff.mpr (by simp only [UInt8.reduceToNat]; omega)) rfl, one, two, three,
    Nat.add_sub_cancel_left, Nat.add_sub_cancel_left, Nat.add_sub_cancel_left]
  rw [admits_iff]
  simp only [lowest, highest]
  split_ifs <;> simp only [UInt8.reduceToNat] <;> omega

theorem scanFrom_four (first : p < 5) (second : q < 64) (third : r < 64) (fourth : s < 64)
    (shortest : p = 0 → 16 ≤ q) (inRange : p = 4 → q < 16) :
    scanFrom none ((0xF0 + p).toUInt8 :: (0x80 + q).toUInt8 :: (0x80 + r).toUInt8 ::
        (0x80 + s).toUInt8 :: rest) =
      .char (Char.ofNat (((p * 64 + q) * 64 + r) * 64 + s)) :: scanFrom none rest := by
  have one := toNat_toUInt8 (n := 0xF0 + p) (by omega)
  have two := toNat_toUInt8 (n := 0x80 + q) (by omega)
  have three := toNat_toUInt8 (n := 0x80 + r) (by omega)
  have four := toNat_toUInt8 (n := 0x80 + s) (by omega)
  have lowest : (0xF0 + p).toUInt8 = 0xF0 ↔ p = 0 := by
    simp only [← UInt8.toNat_inj, one, UInt8.reduceToNat]
    omega
  have highest : (0xF0 + p).toUInt8 = 0xF4 ↔ p = 4 := by
    simp only [← UInt8.toNat_inj, one, UInt8.reduceToNat]
    omega
  rw [scanFrom_lead (lead_of_four (by omega) (by omega)), scanFrom_inner ?_ rfl,
    scanFrom_inner (admits_iff.mpr (by simp only [UInt8.reduceToNat]; omega)) rfl,
    scanFrom_last (admits_iff.mpr (by simp only [UInt8.reduceToNat]; omega)) rfl,
    one, two, three, four, Nat.add_sub_cancel_left, Nat.add_sub_cancel_left,
    Nat.add_sub_cancel_left, Nat.add_sub_cancel_left]
  rw [admits_iff]
  simp only [lowest, highest]
  split_ifs <;> simp only [UInt8.reduceToNat] <;> omega

end

theorem scanFrom_encodeChar (c : Char) (rest : Bytes) :
    scanFrom none (encodeChar c ++ rest) = .char c :: scanFrom none rest := by
  have range := toNat_lt_or c
  simp only [encodeChar]
  split_ifs with one two three
  · have size := toNat_toUInt8 (n := c.toNat) (by omega)
    have alone : lead c.toNat.toUInt8 = .whole (.char c) := by
      rw [lead, if_pos (by rwa [UInt8.lt_iff_toNat_lt, size]), size, Char.ofNat_toNat]
    simp [scanFrom, alone]
  · have value : c.toNat / 64 * 64 + c.toNat % 64 = c.toNat := by omega
    rw [List.cons_append, List.cons_append, List.nil_append, scanFrom_two rest (by omega) (by omega),
      value, Char.ofNat_toNat]
  · have value : (c.toNat / 4096 * 64 + c.toNat / 64 % 64) * 64 + c.toNat % 64 = c.toNat := by omega
    rw [List.cons_append, List.cons_append, List.cons_append, List.nil_append,
      scanFrom_three rest (by omega) (by omega) (by omega) (by omega) (by omega), value,
      Char.ofNat_toNat]
  · have value : ((c.toNat / 262144 * 64 + c.toNat / 4096 % 64) * 64 + c.toNat / 64 % 64) * 64 +
        c.toNat % 64 = c.toNat := by omega
    rw [List.cons_append, List.cons_append, List.cons_append, List.cons_append, List.nil_append,
      scanFrom_four rest (by omega) (by omega) (by omega) (by omega) (by omega) (by omega), value,
      Char.ofNat_toNat]

theorem scan_encode (text : Text) : scan (encode text) = text.map .char := by
  induction text with
  | nil => rfl
  | cons c text ih =>
      change scanFrom none (encodeChar c ++ encode text) = _
      rw [scanFrom_encodeChar]
      exact congrArg (Piece.char c :: ·) ih

theorem collect_chars (position : Nat) (text : Text) :
    collect position (text.map .char) = .ok text := by
  induction text generalizing position with
  | nil => rfl
  | cons c text ih =>
      rw [List.map_cons, collect, ih]
      rfl

theorem decode_encode (text : Text) : decode (encode text) = .ok text := by
  rw [decode, scan_encode, collect_chars]

/-! ## Byte by byte -/

def Reading.split : Reading → List Piece × Option Started
  | .whole piece => ([piece], none)
  | .part started => ([], some started)

/-- The pieces that a byte completes, and the character that it leaves begun. -/
def step : Option Started → UInt8 → List Piece × Option Started
  | none, b => (lead b).split
  | some started, b =>
    if started.admits b then (started.extend b).split
    else (.invalid started.bytes .invalidContinuation :: (lead b).split.1, (lead b).split.2)

theorem scanFrom_cons (state : Option Started) (b : UInt8) (rest : Bytes) :
    scanFrom state (b :: rest) = (step state b).1 ++ scanFrom (step state b).2 rest := by
  cases state with
  | none => cases read : lead b <;> simp [scanFrom, step, Reading.split, read]
  | some started =>
      by_cases admitted : started.admits b = true
      · cases read : started.extend b <;> simp [scanFrom, step, Reading.split, read, admitted]
      · cases read : lead b <;> simp [scanFrom, step, Reading.split, read, admitted]

/-- Only bytes from 128 on continue the character, and its code point will be 128 or more. -/
structure Started.Begun (started : Started) : Prop where
  low : 0x80 ≤ started.low.toNat
  value : 2 ≤ started.value ∨
    started.further ≠ 0 ∧ 2 ≤ started.value * 64 + (started.low.toNat - 0x80)

def Underway (state : Option Started) : Prop := ∀ started ∈ state, started.Begun

theorem begun_of_lead {b : UInt8} {started : Started} (read : lead b = .part started) :
    started.Begun := by
  simp only [lead, UInt8.lt_iff_toNat_lt, ← UInt8.toNat_inj, UInt8.reduceToNat] at read
  split_ifs at read <;> cases read <;> constructor <;> simp only [UInt8.reduceToNat] <;> omega

theorem begun_of_extend {b : UInt8} {started next : Started} (begun : started.Begun)
    (admitted : started.admits b = true) (read : started.extend b = .part next) : next.Begun := by
  obtain ⟨low, value⟩ := begun
  rw [admits_iff] at admitted
  unfold Started.extend at read
  split at read <;> cases read
  constructor <;> simp only [UInt8.reduceToNat] <;> omega

theorem toNat_of_extend {b : UInt8} {started : Started} {piece : Piece} (begun : started.Begun)
    (admitted : started.admits b = true) (read : started.extend b = .whole piece) :
    ∃ n, 0x80 ≤ n ∧ piece = .char (Char.ofNat n) := by
  obtain ⟨low, value⟩ := begun
  rw [admits_iff] at admitted
  unfold Started.extend at read
  split at read <;> cases read
  exact ⟨_, by omega, rfl⟩

theorem lead_of_one {b : UInt8} (small : b.toNat < 0x80) :
    lead b = .whole (.char (Char.ofNat b.toNat)) :=
  if_pos (by rwa [UInt8.lt_iff_toNat_lt])

theorem toNat_ofNat_cases (n : Nat) : (Char.ofNat n).toNat = n ∨ (Char.ofNat n).toNat = 0 := by
  by_cases valid : n.isValidChar
  · refine .inl ?_
    rw [Char.ofNat, dif_pos valid]
    rfl
  · refine .inr ?_
    rw [Char.ofNat, dif_neg valid]
    rfl

section
variable {state : Option Started} {b : UInt8}

theorem underway_split_lead (b : UInt8) : Underway (lead b).split.2 := by
  cases read : lead b with
  | whole piece => simp [Underway, Reading.split]
  | part started => simpa [Underway, Reading.split] using begun_of_lead read

theorem underway_step (underway : Underway state) (b : UInt8) : Underway (step state b).2 := by
  cases state with
  | none => exact underway_split_lead b
  | some started =>
      by_cases admitted : started.admits b = true
      · rw [step, if_pos admitted]
        cases read : started.extend b with
        | whole piece => simp [Underway, Reading.split]
        | part next =>
            simpa [Underway, Reading.split] using begun_of_extend (underway started rfl) admitted read
      · rw [step, if_neg admitted]
        exact underway_split_lead b

theorem step_of_small (underway : Underway state) (small : b.toNat < 0x80) :
    (step state b).1.map Piece.shown = (scanFrom state []).map Piece.shown ++ [Char.ofNat b.toNat] ∧
      (step state b).2 = none := by
  cases state with
  | none =>
      rw [step, lead_of_one small]
      exact ⟨rfl, rfl⟩
  | some started =>
      have refused : started.admits b ≠ true := by
        rw [ne_eq, admits_iff]
        have low := (underway started rfl).low
        omega
      rw [step, if_neg refused, lead_of_one small]
      exact ⟨rfl, rfl⟩

/-- The piece shows a character below 128 only when that is the byte. NUL is left out, which stands for
what is no code point. -/
def Own (b : UInt8) (piece : Piece) : Prop :=
  piece.shown.toNat = 0 ∨ 0x80 ≤ piece.shown.toNat ∨ piece.shown.toNat = b.toNat

theorem own_invalid (b : UInt8) (bytes : Bytes) (reason : Reason) : Own b (.invalid bytes reason) :=
  .inr (.inl (by decide : 0x80 ≤ '\ufffd'.toNat))

theorem own_split_lead (b : UInt8) : ∀ piece ∈ (lead b).split.1, Own b piece := by
  intro piece completed
  by_cases small : b.toNat < 0x80
  · rw [lead_of_one small] at completed
    rw [List.mem_singleton.mp completed]
    rcases toNat_ofNat_cases b.toNat with same | zero
    · exact .inr (.inr same)
    · exact .inl zero
  · have large : ¬ b < 0x80 := by rwa [UInt8.lt_iff_toNat_lt]
    cases read : lead b with
    | part started => simp [read, Reading.split] at completed
    | whole other =>
        rw [read, Reading.split, List.mem_singleton] at completed
        subst completed
        rw [lead, if_neg large] at read
        split_ifs at read <;> cases read <;> exact own_invalid b _ _

theorem own_step (underway : Underway state) (b : UInt8) : ∀ piece ∈ (step state b).1, Own b piece := by
  cases state with
  | none => exact own_split_lead b
  | some started =>
      by_cases admitted : started.admits b = true
      · rw [step, if_pos admitted]
        cases read : started.extend b with
        | part next => simp [Reading.split]
        | whole piece =>
            obtain ⟨n, large, rfl⟩ := toNat_of_extend (underway started rfl) admitted read
            rw [Reading.split, List.forall_mem_singleton]
            rcases toNat_ofNat_cases n with same | zero
            · exact .inr (.inl (le_of_le_of_eq large same.symm))
            · exact .inl zero
      · rw [step, if_neg admitted, List.forall_mem_cons]
        exact ⟨own_invalid b _ _, own_split_lead b⟩

/-! ## Whole sequences -/

theorem shown_scanFrom_of_small (underway : Underway state) (small : b.toNat < 0x80)
    (before rest : Bytes) :
    (scanFrom state (before ++ b :: rest)).map Piece.shown =
      (scanFrom state before).map Piece.shown ++
        Char.ofNat b.toNat :: (scanFrom none rest).map Piece.shown := by
  induction before generalizing state with
  | nil =>
      obtain ⟨shown, ended⟩ := step_of_small underway small
      rw [List.nil_append, scanFrom_cons, List.map_append, shown, ended, List.append_assoc]
      rfl
  | cons first before ih =>
      rw [List.cons_append, scanFrom_cons, scanFrom_cons, List.map_append, List.map_append,
        ih (underway_step underway first), List.append_assoc]

theorem mem_of_shown {bytes : Bytes} {piece : Piece} (underway : Underway state)
    (listed : piece ∈ scanFrom state bytes) (present : 0 < piece.shown.toNat)
    (small : piece.shown.toNat < 0x80) : ∃ b ∈ bytes, b.toNat = piece.shown.toNat := by
  induction bytes generalizing state with
  | nil =>
      cases state with
      | none => exact absurd listed List.not_mem_nil
      | some started =>
          rw [List.mem_singleton.mp listed] at small
          exact absurd small (by decide : ¬ '\ufffd'.toNat < 0x80)
  | cons first bytes ih =>
      rw [scanFrom_cons, List.mem_append] at listed
      rcases listed with completed | later
      · rcases own_step underway first piece completed with zero | large | same
        · omega
        · omega
        · exact ⟨first, List.mem_cons_self, same.symm⟩
      · obtain ⟨b, stands, same⟩ := ih (underway_step underway first) later
        exact ⟨b, List.mem_cons_of_mem first stands, same⟩

theorem step_ne_nothing (state : Option Started) (b : UInt8) : step state b ≠ ([], none) := by
  have split (reading : Reading) : reading.split ≠ ([], none) := by
    cases reading <;> simp [Reading.split]
  cases state with
  | none => exact split (lead b)
  | some started =>
      unfold step
      simp only
      split_ifs
      · exact split (started.extend b)
      · simp

theorem scanFrom_ne_nil {bytes : Bytes} (present : state ≠ none ∨ bytes ≠ []) :
    scanFrom state bytes ≠ [] := by
  induction bytes generalizing state with
  | nil =>
      cases state with
      | none => simp at present
      | some started => simp [scanFrom]
  | cons b bytes ih =>
      rw [scanFrom_cons]
      intro nothing
      obtain ⟨completed, later⟩ := List.append_eq_nil_iff.mp nothing
      have stopped : (step state b).2 = none := by
        by_contra begun
        exact ih (.inl begun) later
      exact step_ne_nothing state b (Prod.ext completed stopped)

end

theorem underway_none : Underway none := by simp [Underway]

theorem decodeLossy_of_small {b : UInt8} (small : b.toNat < 0x80) (before rest : Bytes) :
    decodeLossy (before ++ b :: rest) =
      decodeLossy before ++ Char.ofNat b.toNat :: decodeLossy rest :=
  shown_scanFrom_of_small underway_none small before rest

theorem byte_of_mem_decodeLossy {bytes : Bytes} {c : Char} (shown : c ∈ decodeLossy bytes)
    (present : 0 < c.toNat) (small : c.toNat < 0x80) : ∃ b ∈ bytes, b.toNat = c.toNat := by
  obtain ⟨piece, listed, rfl⟩ := List.mem_map.mp shown
  exact mem_of_shown underway_none listed present small

theorem decodeLossy_ne_nil {bytes : Bytes} (present : bytes ≠ []) : decodeLossy bytes ≠ [] := by
  rw [decodeLossy, ne_eq, List.map_eq_nil_iff]
  exact scanFrom_ne_nil (.inr present)

end Xref.Utf8
