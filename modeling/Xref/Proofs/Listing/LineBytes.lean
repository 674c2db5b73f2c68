import Xref.Proofs.Listing.File
import Xref.Proofs.Text.Utf8

namespace Xref.Listing

def isLineEnd (b : UInt8) : Bool := b == 0x0A || b == 0x0D

def extendFirst (b : UInt8) : List Bytes → List Bytes
  | [] => [[b]]
  | line :: lines => (b :: line) :: lines

/-- The lines of a byte sequence, which end at a carriage return, at a line feed, or at both. What
follows the last line end is a line unless it is empty. -/
def lineBytes : Bytes → List Bytes
  | [] => []
  | 0x0D :: 0x0A :: rest => [] :: lineBytes rest
  | b :: rest => if isLineEnd b then [] :: lineBytes rest else extendFirst b (lineBytes rest)

def OnOneLine (line : Bytes) : Prop := ∀ b ∈ line, isLineEnd b = false

instance (line : Bytes) : Decidable (OnOneLine line) :=
  List.decidableBAll (fun b => isLineEnd b = false) line

/-- A line end and what follows it. A carriage return is not parted from its line feed. -/
inductive EndsLine : Bytes → Bytes → Prop where
  | lineFeed (rest : Bytes) : EndsLine [0x0A] rest
  | pair (rest : Bytes) : EndsLine [0x0D, 0x0A] rest
  | carriageReturn (rest : Bytes) (alone : rest.head? ≠ some 0x0A) : EndsLine [0x0D] rest

/-! ## The first line -/

theorem exists_ending {b : UInt8} (ends : isLineEnd b = true) (rest : Bytes) :
    ∃ ending after, b :: rest = ending ++ after ∧ EndsLine ending after ∧
      after.length ≤ rest.length := by
  simp only [isLineEnd, Bool.or_eq_true, beq_iff_eq] at ends
  rcases ends with rfl | rfl
  · exact ⟨[0x0A], rest, rfl, .lineFeed rest, Nat.le_refl _⟩
  · by_cases joined : rest.head? = some 0x0A
    · obtain ⟨after, rfl⟩ := List.head?_eq_some_iff.mp joined
      exact ⟨[0x0D, 0x0A], after, rfl, .pair after, Nat.le_succ _⟩
    · exact ⟨[0x0D], rest, rfl, .carriageReturn rest joined, Nat.le_refl _⟩

theorem line_induction {motive : Bytes → Prop} (last : ∀ line, OnOneLine line → motive line)
    (ended : ∀ line ending rest, OnOneLine line → EndsLine ending rest → motive rest →
      motive (line ++ (ending ++ rest))) (bytes : Bytes) : motive bytes := by
  cases found : bytes.find? isLineEnd with
  | none => exact last bytes (by simpa [OnOneLine] using List.find?_eq_none.mp found)
  | some b =>
      obtain ⟨ends, line, rest, cut, unended⟩ := List.find?_eq_some_iff_append.mp found
      obtain ⟨ending, after, joined, endsLine, shorter⟩ := exists_ending ends rest
      have decreasing : after.length < bytes.length := by
        rw [cut, List.length_append, List.length_cons]
        omega
      rw [cut, joined]
      exact ended line ending after (by simpa [OnOneLine] using unended) endsLine
        (line_induction last ended after)
termination_by bytes.length

section
variable {line ending rest : Bytes}

theorem lineBytes_within {b : UInt8} (within : isLineEnd b = false) (rest : Bytes) :
    lineBytes (b :: rest) = extendFirst b (lineBytes rest) := by
  rw [lineBytes, if_neg (by simp [within])]
  rintro _ rfl
  cases within

theorem lineBytes_ending (ends : EndsLine ending rest) :
    lineBytes (ending ++ rest) = [] :: lineBytes rest := by
  cases ends with
  | lineFeed => simp [lineBytes, isLineEnd]
  | pair => simp [lineBytes]
  | carriageReturn _ alone =>
      rw [List.singleton_append, lineBytes, if_pos (by decide)]
      rintro after - rfl
      exact alone rfl

theorem lineBytes_ended (single : OnOneLine line) (ends : EndsLine ending rest) :
    lineBytes (line ++ (ending ++ rest)) = line :: lineBytes rest := by
  induction line with
  | nil => exact lineBytes_ending ends
  | cons b line ih =>
      obtain ⟨within, single⟩ := List.forall_mem_cons.mp single
      rw [List.cons_append, lineBytes_within within, ih single, extendFirst]

theorem lineBytes_last (present : line ≠ []) (single : OnOneLine line) : lineBytes line = [line] := by
  induction line with
  | nil => exact absurd rfl present
  | cons b line ih =>
      obtain ⟨within, single⟩ := List.forall_mem_cons.mp single
      rw [lineBytes_within within]
      cases line with
      | nil => rfl
      | cons second line => rw [ih (List.cons_ne_nil second line) single, extendFirst]

theorem onOneLine_of_mem_lineBytes {bytes : Bytes} (listed : line ∈ lineBytes bytes) :
    OnOneLine line := by
  induction bytes using line_induction with
  | last whole single =>
      by_cases empty : whole = []
      · simp [empty, lineBytes] at listed
      · rw [lineBytes_last empty single, List.mem_singleton] at listed
        exact listed ▸ single
  | ended first ending rest single ends ih =>
      rw [lineBytes_ended single ends] at listed
      rcases List.mem_cons.mp listed with rfl | listed
      · exact single
      · exact ih listed

/-! ## Decoding the first line -/

theorem lineEnd_not_mem_decodeLossy (single : OnOneLine line) :
    '\n' ∉ Utf8.decodeLossy line ∧ '\r' ∉ Utf8.decodeLossy line := by
  have absent {b : UInt8} {c : Char} (ends : isLineEnd b = true) (same : b.toNat = c.toNat)
      (present : 0 < c.toNat) (small : c.toNat < 0x80) : c ∉ Utf8.decodeLossy line := by
    intro shown
    obtain ⟨other, stands, alike⟩ := Utf8.byte_of_mem_decodeLossy shown present small
    obtain rfl : other = b := UInt8.toNat_inj.mp (alike.trans same.symm)
    rw [single other stands] at ends
    cases ends
  exact ⟨absent (b := 0x0A) rfl rfl (by decide) (by decide),
    absent (b := 0x0D) rfl rfl (by decide) (by decide)⟩

theorem decodeLossy_feed (before rest : Bytes) : Utf8.decodeLossy (before ++ 0x0A :: rest) =
    Utf8.decodeLossy before ++ '\n' :: Utf8.decodeLossy rest :=
  Utf8.decodeLossy_of_small (by decide) before rest

theorem decodeLossy_return (before rest : Bytes) : Utf8.decodeLossy (before ++ 0x0D :: rest) =
    Utf8.decodeLossy before ++ '\r' :: Utf8.decodeLossy rest :=
  Utf8.decodeLossy_of_small (by decide) before rest

theorem decodeLossy_begins (line : Bytes) (ends : EndsLine ending rest) :
    Utf8.decodeLossy line <+: Utf8.decodeLossy (line ++ (ending ++ rest)) := by
  cases ends with
  | lineFeed => exact ⟨_, (decodeLossy_feed line rest).symm⟩
  | pair => exact ⟨_, (decodeLossy_return line (0x0A :: rest)).symm⟩
  | carriageReturn => exact ⟨_, (decodeLossy_return line rest).symm⟩

theorem head?_decodeLossy (alone : rest.head? ≠ some 0x0A) :
    (Utf8.decodeLossy rest).head? ≠ some '\n' := by
  intro begins
  induction rest using line_induction with
  | last line single => exact (lineEnd_not_mem_decodeLossy single).1 (List.mem_of_head? begins)
  | ended line ending rest single ends _ =>
      by_cases empty : line = []
      · subst empty
        have returned (after : Bytes) : (Utf8.decodeLossy (0x0D :: after)).head? = some '\r' :=
          congrArg List.head? (decodeLossy_return [] after)
        cases ends with
        | lineFeed => exact alone rfl
        | pair => exact absurd (begins.symm.trans (returned (0x0A :: rest))) (by decide)
        | carriageReturn => exact absurd (begins.symm.trans (returned rest)) (by decide)
      · obtain ⟨further, joined⟩ := decodeLossy_begins line ends
        obtain ⟨c, text, shown⟩ := List.exists_cons_of_ne_nil (Utf8.decodeLossy_ne_nil empty)
        rw [← joined, shown, List.cons_append, List.head?_cons, Option.some.injEq] at begins
        subst begins
        exact (lineEnd_not_mem_decodeLossy single).1 (shown ▸ List.mem_cons_self)

end

/-! ## All lines -/

theorem ofBytes_ended {line ending rest : Bytes} (single : OnOneLine line)
    (ends : EndsLine ending rest) :
    ofBytes (line ++ (ending ++ rest)) = Utf8.decodeLossy line :: ofBytes rest := by
  have shown := lineEnd_not_mem_decodeLossy single
  cases ends with
  | lineFeed =>
      rw [ofBytes, List.singleton_append, decodeLossy_feed]
      exact Text.lines_ended shown (Text.unifyLineEnds_feed _)
  | pair =>
      have feed : Utf8.decodeLossy (0x0A :: rest) = '\n' :: Utf8.decodeLossy rest :=
        decodeLossy_feed [] rest
      rw [ofBytes, List.cons_append, List.singleton_append, decodeLossy_return, feed]
      exact Text.lines_ended shown (Text.unifyLineEnds_pair _)
  | carriageReturn _ alone =>
      rw [ofBytes, List.singleton_append, decodeLossy_return]
      exact Text.lines_ended shown (Text.unifyLineEnds_return (head?_decodeLossy alone))

theorem ofBytes_last {line : Bytes} (single : OnOneLine line) (present : line ≠ []) :
    ofBytes line = [Utf8.decodeLossy line] := by
  obtain ⟨feed, isReturn⟩ := lineEnd_not_mem_decodeLossy single
  rw [ofBytes, Text.unifyLineEnds_of_not_mem isReturn]
  exact Text.lines_last (Utf8.decodeLossy_ne_nil present) feed

theorem ofBytes_eq_map_lineBytes (bytes : Bytes) :
    ofBytes bytes = (lineBytes bytes).map Utf8.decodeLossy := by
  induction bytes using line_induction with
  | last line single =>
      by_cases empty : line = []
      · subst empty
        rfl
      · rw [ofBytes_last single empty, lineBytes_last empty single]
        rfl
  | ended line ending rest single ends ih =>
      rw [ofBytes_ended single ends, lineBytes_ended single ends, ih]
      rfl

/-! ## Places between lines -/

inductive BetweenLines : Bytes → Bytes → Prop where
  | start (rest : Bytes) : BetweenLines [] rest
  | finish (before : Bytes) : BetweenLines before []
  | ended (before : Bytes) {ending rest : Bytes} (ends : EndsLine ending rest) :
      BetweenLines (before ++ ending) rest

theorem EndsLine.at_end {ending rest : Bytes} (ends : EndsLine ending rest) : EndsLine ending [] := by
  cases ends with
  | lineFeed => exact .lineFeed []
  | pair => exact .pair []
  | carriageReturn => exact .carriageReturn [] (by simp)

theorem lineBytes_append_ended (before : Bytes) {ending rest : Bytes} (ends : EndsLine ending rest) :
    lineBytes (before ++ (ending ++ rest)) = lineBytes (before ++ ending) ++ lineBytes rest := by
  have alone {line : Bytes} (single : OnOneLine line) {ending : Bytes} (ends : EndsLine ending rest) :
      lineBytes (line ++ ending) = [line] := by
    simpa [lineBytes] using lineBytes_ended single ends.at_end
  induction before using line_induction with
  | last line single =>
      rw [lineBytes_ended single ends, alone single ends]
      rfl
  | ended line first later single firstEnds ih =>
      have shifted (behind : EndsLine first (later ++ (ending ++ rest)))
          (last : EndsLine first (later ++ ending)) :
          lineBytes (line ++ (first ++ later) ++ (ending ++ rest)) =
            lineBytes (line ++ (first ++ later) ++ ending) ++ lineBytes rest := by
        simp only [List.append_assoc]
        rw [lineBytes_ended single behind, lineBytes_ended single last, ih]
        rfl
      cases firstEnds with
      | lineFeed => exact shifted (.lineFeed _) (.lineFeed _)
      | pair => exact shifted (.pair _) (.pair _)
      | carriageReturn _ parted =>
          cases later with
          | cons b later =>
              exact shifted (.carriageReturn _ parted) (.carriageReturn _ parted)
          | nil =>
              cases ends with
              | lineFeed =>
                  -- The two bytes are one line end.
                  have joined := lineBytes_ended single (.pair rest)
                  have last := alone single (.pair rest)
                  simp only [List.append_assoc, List.append_nil, List.cons_append,
                    List.nil_append] at joined last ⊢
                  rw [joined, last]
                  rfl
              | pair => exact shifted (.carriageReturn _ (by simp)) (.carriageReturn _ (by simp))
              | carriageReturn =>
                  exact shifted (.carriageReturn _ (by simp)) (.carriageReturn _ (by simp))

theorem lineBytes_append {before rest : Bytes} (between : BetweenLines before rest) :
    lineBytes (before ++ rest) = lineBytes before ++ lineBytes rest := by
  cases between with
  | start => rfl
  | finish => simp [lineBytes]
  | ended before ends =>
      rw [List.append_assoc]
      exact lineBytes_append_ended before ends

theorem ofBytes_append {before rest : Bytes} (between : BetweenLines before rest) :
    ofBytes (before ++ rest) = ofBytes before ++ ofBytes rest := by
  simp only [ofBytes_eq_map_lineBytes, lineBytes_append between, List.map_append]

/-! ## Other line ends -/

def withLineEnd (ending bytes : Bytes) : Bytes := bytes.flatMap fun b => if b = 0x0A then ending else [b]

theorem endsLine_withLineEnd_return (rest : Bytes) : EndsLine [0x0D] (withLineEnd [0x0D] rest) := by
  apply EndsLine.carriageReturn
  cases rest with
  | nil => simp [withLineEnd]
  | cons b rest => by_cases feed : b = 0x0A <;> simp [withLineEnd, feed]

theorem lineBytes_withLineEnd {ending : Bytes}
    (ends : ∀ rest, EndsLine ending (withLineEnd ending rest)) {bytes : Bytes}
    (noReturn : 0x0D ∉ bytes) : lineBytes (withLineEnd ending bytes) = lineBytes bytes := by
  induction bytes with
  | nil => rfl
  | cons b rest ih =>
      rw [List.mem_cons, not_or] at noReturn
      have later := ih noReturn.2
      by_cases feed : b = 0x0A
      · have replaced : withLineEnd ending (b :: rest) = ending ++ withLineEnd ending rest := by
          simp [withLineEnd, feed]
        have feedEnds : lineBytes (b :: rest) = [] :: lineBytes rest :=
          feed ▸ lineBytes_ending (.lineFeed rest)
        rw [replaced, lineBytes_ending (ends rest), feedEnds, later]
      · have within : isLineEnd b = false := by simp [isLineEnd, feed, Ne.symm noReturn.1]
        have kept : withLineEnd ending (b :: rest) = b :: withLineEnd ending rest := by
          simp [withLineEnd, feed]
        rw [kept, lineBytes_within within, lineBytes_within within, later]

/-- The file is read as its lines, each decoded for itself, and reading does not fail. A stretch of
lines is read as it would be alone, and a change within one line changes that line only. -/
theorem file_decoded_line_by_line (bytes : Bytes) :
    let lines := (lineBytes bytes).map Utf8.decodeLossy
    ofBytes bytes = lines ∧
    (∀ tree directory path, path.text ≠ ['-'] → FileTree.read tree directory path = .ok bytes →
      ∀ stdin limit, pullFile tree directory stdin path limit =
        ((limit.map lines.take).getD lines, none)) ∧
    (∀ before rest, bytes = before ++ rest → BetweenLines before rest →
      lines = ofBytes before ++ ofBytes rest) ∧
    (∀ before line ending after, bytes = before ++ (line ++ (ending ++ after)) → OnOneLine line →
      EndsLine ending after → BetweenLines before (line ++ (ending ++ after)) →
      lines = ofBytes before ++ Utf8.decodeLossy line :: ofBytes after) ∧
    (∀ line ∈ lines, '\n' ∉ line ∧ '\r' ∉ line) ∧
    (0x0D ∉ bytes → ofBytes (withLineEnd [0x0D, 0x0A] bytes) = lines ∧
      ofBytes (withLineEnd [0x0D] bytes) = lines) := by
  intro lines
  have whole : ofBytes bytes = lines := ofBytes_eq_map_lineBytes bytes
  have parted {before rest : Bytes} (cut : bytes = before ++ rest) (between : BetweenLines before rest) :
      lines = ofBytes before ++ ofBytes rest := by
    rw [← whole, cut]
    exact ofBytes_append between
  refine ⟨whole, ?_, fun before rest => parted, ?_, ?_, ?_⟩
  · intro tree directory path named stored stdin limit
    rw [pullFile_of_stored named stored, whole]
  · intro before line ending after cut single ends between
    rw [parted cut between, ofBytes_ended single ends]
  · intro line listed
    obtain ⟨piece, cut, rfl⟩ := List.mem_map.mp listed
    exact lineEnd_not_mem_decodeLossy (onOneLine_of_mem_lineBytes cut)
  · intro noReturn
    rw [ofBytes_eq_map_lineBytes, ofBytes_eq_map_lineBytes,
      lineBytes_withLineEnd (fun _ => .pair _) noReturn,
      lineBytes_withLineEnd endsLine_withLineEnd_return noReturn]
    exact ⟨rfl, rfl⟩

/-- A line feed parts the last byte of a euro sign from the two before it. -/
def partedSign : Bytes := [0x61, 0xE2, 0x82, 0x0A, 0xAC, 0x0A]

theorem partedSign_decoded_line_by_line :
    pullFile ⟨[(["saved"], .file partedSign)]⟩ [] ⟨[], none⟩ ⟨[], ["saved"]⟩ none =
        ((["a\ufffd", "\ufffd"] : List Text), none) ∧
      ofBytes partedSign = ofBytes [0x61, 0xE2, 0x82, 0x0A] ++ ofBytes [0xAC, 0x0A] ∧
      ofBytes partedSign = ofBytes [] ++ Utf8.decodeLossy [0x61, 0xE2, 0x82] :: ofBytes [0xAC, 0x0A] ∧
      ofBytes [0x61, 0xE2, 0x82, 0x0D, 0x0A, 0xAC, 0x0D, 0x0A] = ofBytes partedSign := by
  obtain ⟨whole, file, between, inLine, -, replaced⟩ := file_decoded_line_by_line partedSign
  refine ⟨?_, ?_, ?_, ?_⟩
  · rw [file _ _ _ (by decide) (eq_ok_of_toOption (by decide +kernel))]
    decide +kernel
  · exact whole.trans (between [0x61, 0xE2, 0x82, 0x0A] _ rfl (.ended [0x61, 0xE2, 0x82] (.lineFeed _)))
  · exact whole.trans (inLine [] _ _ _ rfl (by decide) (.lineFeed [0xAC, 0x0A]) (.start _))
  · exact (replaced (by decide)).1.trans whole.symm

end Xref.Listing
