import Xref.Text.Basic

/-!
# UTF-8

A byte sequence is scanned into characters and invalid runs. An invalid run is as long as it can
be while it still begins some character (a maximal subpart), so decoding with replacement puts
one mark per run, and strict decoding reports the first run with its position.
-/

namespace Xref

abbrev Bytes := List UInt8

namespace Utf8

inductive Reason where
  | invalidStart
  | invalidContinuation
  | unexpectedEnd
  deriving DecidableEq, Repr

inductive Piece where
  | char (c : Char)
  | invalid (bytes : Bytes) (reason : Reason)
  deriving DecidableEq, Repr

/-- The beginning of a character: its bytes so far, their payload, how many bytes follow the next
one, and the range that the next one must lie in. -/
structure Started where
  bytes : Bytes
  value : Nat
  further : Nat
  low : UInt8
  high : UInt8
  deriving DecidableEq, Repr

inductive Reading where
  | whole (piece : Piece)
  | part (started : Started)
  deriving DecidableEq, Repr

def lead (b : UInt8) : Reading :=
  if b < 0x80 then .whole (.char (Char.ofNat b.toNat))
  else if b < 0xC2 then .whole (.invalid [b] .invalidStart)
  else if b < 0xE0 then .part ⟨[b], b.toNat - 0xC0, 0, 0x80, 0xBF⟩
  else if b < 0xF0 then
    .part ⟨[b], b.toNat - 0xE0, 1, if b = 0xE0 then 0xA0 else 0x80, if b = 0xED then 0x9F else 0xBF⟩
  else if b < 0xF5 then
    .part ⟨[b], b.toNat - 0xF0, 2, if b = 0xF0 then 0x90 else 0x80, if b = 0xF4 then 0x8F else 0xBF⟩
  else .whole (.invalid [b] .invalidStart)

namespace Started

def admits (started : Started) (b : UInt8) : Bool := started.low ≤ b && b ≤ started.high

def extend (started : Started) (b : UInt8) : Reading :=
  let value := started.value * 64 + (b.toNat - 0x80)
  match started.further with
  | 0 => .whole (.char (Char.ofNat value))
  | further + 1 => .part ⟨started.bytes ++ [b], value, further, 0x80, 0xBF⟩

end Started

def scanFrom : Option Started → Bytes → List Piece
  | none, [] => []
  | some started, [] => [.invalid started.bytes .unexpectedEnd]
  | none, b :: rest =>
    match lead b with
    | .whole piece => piece :: scanFrom none rest
    | .part started => scanFrom (some started) rest
  | some started, b :: rest =>
    if started.admits b then
      match started.extend b with
      | .whole piece => piece :: scanFrom none rest
      | .part started => scanFrom (some started) rest
    else
      .invalid started.bytes .invalidContinuation ::
        match lead b with
        | .whole piece => piece :: scanFrom none rest
        | .part started => scanFrom (some started) rest

def scan (bytes : Bytes) : List Piece := scanFrom none bytes

def Piece.shown : Piece → Char
  | .char c => c
  | .invalid _ _ => '\ufffd'

def decodeLossy (bytes : Bytes) : Text := (scan bytes).map Piece.shown

def encodeChar (c : Char) : Bytes :=
  let n := c.toNat
  if n < 0x80 then [n.toUInt8]
  else if n < 0x800 then [(0xC0 + n / 64).toUInt8, (0x80 + n % 64).toUInt8]
  else if n < 0x10000 then
    [(0xE0 + n / 4096).toUInt8, (0x80 + n / 64 % 64).toUInt8, (0x80 + n % 64).toUInt8]
  else
    [(0xF0 + n / 262144).toUInt8, (0x80 + n / 4096 % 64).toUInt8, (0x80 + n / 64 % 64).toUInt8,
      (0x80 + n % 64).toUInt8]

def encode (text : Text) : Bytes := text.flatMap encodeChar

/-- The first invalid run of a byte sequence and the number of bytes before it. -/
structure Error where
  position : Nat
  bytes : Bytes
  reason : Reason
  deriving DecidableEq, Repr

def collect (position : Nat) : List Piece → Except Error Text
  | [] => .ok []
  | .char c :: rest => (collect (position + c.utf8Size) rest).map (c :: ·)
  | .invalid bytes reason :: _ => .error ⟨position, bytes, reason⟩

def decode (bytes : Bytes) : Except Error Text := collect 0 (scan bytes)

def Reason.message : Reason → Text
  | .invalidStart => "invalid start byte"
  | .invalidContinuation => "invalid continuation byte"
  | .unexpectedEnd => "unexpected end of data"

def Error.message (error : Error) : Text :=
  let place : Text := match error.bytes with
    | [b] => "byte 0x" ++ Text.ofHex 2 b.toNat ++ " in position " ++ Text.ofNat error.position
    | bytes => "bytes in position " ++ Text.ofNat error.position ++ "-" ++
        Text.ofNat (error.position + bytes.length - 1)
  "'utf-8' codec can't decode " ++ place ++ ": " ++ error.reason.message

end Utf8

end Xref
