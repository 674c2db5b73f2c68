import Mathlib.Tactic.Common
import Xref.Json.Printer
import Xref.Json.Quoted
import Xref.Proofs.Text.Utf8

namespace Xref.Json

/-! ## Hexadecimal digits -/

theorem ofHex_succ (width n : Nat) :
    Text.ofHex (width + 2) n = Text.ofHex (width + 1) (n / 16) ++ [(n % 16).digitChar] := by
  unfold Text.ofHex List.leftpad
  by_cases single : n < 16
  · have none : n / 16 = 0 := by omega
    rw [Nat.toDigits_of_lt_base single, none, Nat.toDigits_of_lt_base (by omega),
      Nat.mod_eq_of_lt single]
    simp [List.replicate_succ', Nat.digitChar]
  · rw [Nat.toDigits_of_base_le (by omega) (by omega), ← List.append_assoc]
    simp

theorem ofHex_four {n : Nat} (small : n < 0x10000) : Text.ofHex 4 n =
    [(n / 16 / 16 / 16).digitChar, (n / 16 / 16 % 16).digitChar, (n / 16 % 16).digitChar,
      (n % 16).digitChar] := by
  have first : Text.ofHex 1 (n / 16 / 16 / 16) = [(n / 16 / 16 / 16).digitChar] := by
    rw [Text.ofHex, Nat.toDigits_of_lt_base (by omega)]
    rfl
  rw [ofHex_succ, ofHex_succ, ofHex_succ, first]
  rfl

theorem hexDigit?_digitChar : ∀ digit < 16, hexDigit? digit.digitChar = some digit := by
  decide

theorem hexFour?_digitChar {n : Nat} (small : n < 0x10000) :
    hexFour? (n / 16 / 16 / 16).digitChar (n / 16 / 16 % 16).digitChar (n / 16 % 16).digitChar
      (n % 16).digitChar = some n := by
  have value : ((n / 16 / 16 / 16 * 16 + n / 16 / 16 % 16) * 16 + n / 16 % 16) * 16 + n % 16 = n := by
    omega
  rw [hexFour?, hexDigit?_digitChar _ (by omega), hexDigit?_digitChar _ (by omega),
    hexDigit?_digitChar _ (by omega), hexDigit?_digitChar _ (by omega)]
  exact congrArg some value

theorem codeEscape_eq (code : Nat) (small : code < 0x10000) :
    ∃ a b c d, codeEscape code = ['\\', 'u', a, b, c, d] ∧ hexFour? a b c d = some code := by
  refine ⟨_, _, _, _, ?_, hexFour?_digitChar small⟩
  rw [codeEscape, ofHex_four small]
  rfl

/-! ## One character -/

theorem readText_skip (start : Nat) (skipped more : Text) (position : Nat) :
    readText start skipped.length (skipped ++ more) position =
      readText start 0 more (position + skipped.length) := by
  induction skipped generalizing position with
  | nil => rfl
  | cons c skipped ih =>
      rw [List.length_cons, List.cons_append, readText, ih]
      congr 1
      omega

section
variable {start position : Nat} {more : Text}

theorem readText_of_readEscape (skipped : Text) {c : Char}
    (escape : readEscape start (skipped ++ more) position = .ok (c, skipped.length)) :
    readText start 0 ('\\' :: skipped ++ more) position =
      (readText start 0 more (position + (skipped.length + 1))).map
        fun (text, input) => (c :: text, input) := by
  rw [List.cons_append, readText, if_neg (by decide), if_pos rfl, escape]
  simp only [readText_skip]
  congr 2
  omega

theorem readEscape_simple {letter c : Char} (other : letter ≠ 'u')
    (simple : simpleEscape? letter = some c) :
    readEscape start (letter :: more) position = .ok (c, 1) := by
  unfold readEscape
  split
  · contradiction
  · simp_all
  · simp_all
  · simp_all

theorem readEscape_code {a b c d : Char} {code : Nat} (digits : hexFour? a b c d = some code)
    (whole : isHighHalf code = false) (follows : more ≠ []) :
    readEscape start (['u', a, b, c, d] ++ more) position = .ok (charOfCode code, 5) := by
  obtain ⟨next, rest, rfl⟩ := List.exists_cons_of_ne_nil follows
  simp [readEscape, digits, whole]

theorem readEscape_pair {a b c d e f g h : Char} {high low : Nat}
    (first : hexFour? a b c d = some high) (second : hexFour? e f g h = some low)
    (isHigh : isHighHalf high = true) (isLow : isLowHalf low = true) (follows : more ≠ []) :
    readEscape start (['u', a, b, c, d, '\\', 'u', e, f, g, h] ++ more) position =
      .ok (charOfPair high low, 11) := by
  obtain ⟨next, rest, rfl⟩ := List.exists_cons_of_ne_nil follows
  simp [readEscape, first, second, isHigh, isLow]

theorem charOfCode_toNat (c : Char) : charOfCode c.toNat = c := by
  have range := Utf8.toNat_lt_or c
  have whole : (isHighHalf c.toNat || isLowHalf c.toNat) = false := by
    simp only [isHighHalf, isLowHalf, Bool.or_eq_false_iff, Bool.and_eq_false_iff,
      decide_eq_false_iff_not]
    omega
  rw [charOfCode, whole, if_neg Bool.false_ne_true, Char.ofNat_toNat]

theorem isHighHalf_toNat (c : Char) : isHighHalf c.toNat = false := by
  have range := Utf8.toNat_lt_or c
  simp only [isHighHalf, Bool.and_eq_false_iff, decide_eq_false_iff_not]
  omega

theorem charOfPair_halves {c : Char} (large : 0x10000 ≤ c.toNat) :
    charOfPair (0xD800 + (c.toNat - 0x10000) / 0x400) (0xDC00 + (c.toNat - 0x10000) % 0x400) = c := by
  have value : 0x10000 + (0xD800 + (c.toNat - 0x10000) / 0x400 - 0xD800) * 0x400 +
      (0xDC00 + (c.toNat - 0x10000) % 0x400 - 0xDC00) = c.toNat := by omega
  rw [charOfPair, value, Char.ofNat_toNat]

def ReadsChar (written : Text) (c : Char) : Prop :=
  ∀ start more position, more ≠ [] → readText start 0 (written ++ more) position =
    (readText start 0 more (position + written.length)).map fun (text, input) => (c :: text, input)

theorem readsChar_simple {letter c : Char} (other : letter ≠ 'u')
    (simple : simpleEscape? letter = some c) : ReadsChar ['\\', letter] c := by
  intro start more position _
  exact readText_of_readEscape [letter] (readEscape_simple other simple)

theorem readsChar_plain {c : Char} (quote : c ≠ '"') (backslash : c ≠ '\\')
    (visible : ' ' ≤ c) : ReadsChar [c] c := by
  intro start more position _
  have printable : ¬ c.toNat < 0x20 := Nat.not_lt.mpr visible
  rw [List.singleton_append, readText, if_neg quote, if_neg backslash, if_neg printable]
  rfl

theorem readsChar_code {c : Char} (small : c.toNat < 0x10000) : ReadsChar (codeEscape c.toNat) c := by
  intro start more position follows
  obtain ⟨p, q, r, s, written, digits⟩ := codeEscape_eq c.toNat small
  rw [written]
  apply readText_of_readEscape ['u', p, q, r, s]
  rw [readEscape_code digits (isHighHalf_toNat c) follows, charOfCode_toNat]
  rfl

theorem readsChar_pair {c : Char} (large : 0x10000 ≤ c.toNat) :
    ReadsChar (codeEscape (0xD800 + (c.toNat - 0x10000) / 0x400) ++
      codeEscape (0xDC00 + (c.toNat - 0x10000) % 0x400)) c := by
  intro start more position follows
  have range := Utf8.toNat_lt_or c
  obtain ⟨a, b, e, d, first, high⟩ :=
    codeEscape_eq (0xD800 + (c.toNat - 0x10000) / 0x400) (by omega)
  obtain ⟨p, q, r, s, second, low⟩ :=
    codeEscape_eq (0xDC00 + (c.toNat - 0x10000) % 0x400) (by omega)
  have isHigh : isHighHalf (0xD800 + (c.toNat - 0x10000) / 0x400) = true := by
    simp only [isHighHalf, Bool.and_eq_true, decide_eq_true_eq]
    omega
  have isLow : isLowHalf (0xDC00 + (c.toNat - 0x10000) % 0x400) = true := by
    simp only [isLowHalf, Bool.and_eq_true, decide_eq_true_eq]
    omega
  rw [first, second]
  apply readText_of_readEscape ['u', a, b, e, d, '\\', 'u', p, q, r, s]
  rw [readEscape_pair high low isHigh isLow follows, charOfPair_halves large]
  rfl

theorem writeChar_cases (c : Char) :
    (∃ letter, letter ≠ 'u' ∧ letter ≠ '\r' ∧ simpleEscape? letter = some c ∧
      writeChar c = ['\\', letter]) ∨
    (c ≠ '"' ∧ c ≠ '\\' ∧ c ≠ '\r' ∧ ' ' ≤ c ∧ writeChar c = [c]) ∨
    (c.toNat < 0x10000 ∧ writeChar c = codeEscape c.toNat) ∨
    (0x10000 ≤ c.toNat ∧ writeChar c = codeEscape (0xD800 + (c.toNat - 0x10000) / 0x400) ++
      codeEscape (0xDC00 + (c.toNat - 0x10000) % 0x400)) := by
  by_cases lettered : c ∈ ['"', '\\', '\n', '\r', '\t', '\x0c', '\x08']
  · simp only [List.mem_cons, List.not_mem_nil, or_false] at lettered
    rcases lettered with rfl | rfl | rfl | rfl | rfl | rfl | rfl
    · exact .inl ⟨'"', by decide, by decide, rfl, rfl⟩
    · exact .inl ⟨'\\', by decide, by decide, rfl, rfl⟩
    · exact .inl ⟨'n', by decide, by decide, rfl, rfl⟩
    · exact .inl ⟨'r', by decide, by decide, rfl, rfl⟩
    · exact .inl ⟨'t', by decide, by decide, rfl, rfl⟩
    · exact .inl ⟨'f', by decide, by decide, rfl, rfl⟩
    · exact .inl ⟨'b', by decide, by decide, rfl, rfl⟩
  · simp only [List.mem_cons, List.not_mem_nil, or_false, not_or] at lettered
    obtain ⟨quote, backslash, feed, ret, tab, form, back⟩ := lettered
    rw [writeChar, if_neg quote, if_neg backslash, if_neg feed, if_neg ret, if_neg tab, if_neg form,
      if_neg back]
    by_cases plain : ' ' ≤ c ∧ c ≤ '~'
    · exact .inr (.inl ⟨quote, backslash, ret, plain.1, if_pos plain⟩)
    · rw [if_neg plain]
      by_cases small : c.toNat < 0x10000
      · exact .inr (.inr (.inl ⟨small, if_pos small⟩))
      · exact .inr (.inr (.inr ⟨Nat.le_of_not_lt small, if_neg small⟩))

theorem readsChar_writeChar (c : Char) : ReadsChar (writeChar c) c := by
  rcases writeChar_cases c with ⟨letter, other, -, simple, written⟩ |
    ⟨quote, backslash, -, visible, written⟩ | ⟨small, written⟩ | ⟨large, written⟩
  · rw [written]
    exact readsChar_simple other simple
  · rw [written]
    exact readsChar_plain quote backslash visible
  · rw [written]
    exact readsChar_code small
  · rw [written]
    exact readsChar_pair large

end

/-! ## A whole text -/

theorem readText_written (start : Nat) (text rest : Text) (position : Nat) :
    readText start 0 (text.flatMap writeChar ++ '"' :: rest) position =
      .ok (text, ⟨rest, position + (text.flatMap writeChar).length + 1⟩) := by
  induction text generalizing position with
  | nil => rfl
  | cons c text ih =>
      rw [List.flatMap_cons, List.append_assoc, readsChar_writeChar c _ _ _ (by simp), ih]
      simp only [Except.map, List.length_append]
      congr 3
      omega

theorem readQuoted_writeText (text rest : Text) (position : Nat) :
    readQuoted ⟨writeText text ++ rest, position⟩ =
      .ok (text, ⟨rest, position + (writeText text).length⟩) := by
  have body : (writeText text ++ rest).drop 1 = text.flatMap writeChar ++ '"' :: rest := by
    simp [writeText]
  have length : (writeText text).length = (text.flatMap writeChar).length + 2 := by
    simp [writeText]
  simp only [readQuoted, body, readText_written, length]
  congr 3
  omega

/-! ## Carriage returns -/

theorem return_ne_digitChar : ∀ digit < 16, '\r' ≠ digit.digitChar := by
  decide

theorem return_not_mem_codeEscape {code : Nat} (small : code < 0x10000) :
    '\r' ∉ codeEscape code := by
  rw [codeEscape, ofHex_four small]
  simp [return_ne_digitChar (code / 16 / 16 / 16) (by omega),
    return_ne_digitChar (code / 16 / 16 % 16) (by omega),
    return_ne_digitChar (code / 16 % 16) (by omega), return_ne_digitChar (code % 16) (by omega)]

theorem return_not_mem_writeChar (c : Char) : '\r' ∉ writeChar c := by
  have range := Utf8.toNat_lt_or c
  rcases writeChar_cases c with ⟨letter, -, ret, -, written⟩ | ⟨-, -, ret, -, written⟩ |
    ⟨small, written⟩ | ⟨large, written⟩
  · simp [written, ret.symm]
  · simp [written, ret.symm]
  · rw [written]
    exact return_not_mem_codeEscape small
  · rw [written, List.mem_append, not_or]
    exact ⟨return_not_mem_codeEscape (by omega), return_not_mem_codeEscape (by omega)⟩

theorem return_not_mem_writeText (text : Text) : '\r' ∉ writeText text := by
  have body : '\r' ∉ text.flatMap writeChar := by
    intro stands
    obtain ⟨c, -, stands⟩ := List.mem_flatMap.mp stands
    exact return_not_mem_writeChar c stands
  simp [writeText, body]

end Xref.Json
