import Xref.Json.Input

namespace Xref.Json

def hexDigit? (c : Char) : Option Nat :=
  if '0' ≤ c ∧ c ≤ '9' then some (c.toNat - '0'.toNat)
  else if 'a' ≤ c ∧ c ≤ 'f' then some (c.toNat - 'a'.toNat + 10)
  else if 'A' ≤ c ∧ c ≤ 'F' then some (c.toNat - 'A'.toNat + 10)
  else none

def hexFour? (a b c d : Char) : Option Nat := do
  return (((← hexDigit? a) * 16 + (← hexDigit? b)) * 16 + (← hexDigit? c)) * 16 + (← hexDigit? d)

def simpleEscape? : Char → Option Char
  | '"' => some '"'
  | '\\' => some '\\'
  | '/' => some '/'
  | 'b' => some '\x08'
  | 'f' => some '\x0c'
  | 'n' => some '\n'
  | 'r' => some '\r'
  | 't' => some '\t'
  | _ => none

def isHighHalf (code : Nat) : Bool := 0xD800 ≤ code && code ≤ 0xDBFF

def isLowHalf (code : Nat) : Bool := 0xDC00 ≤ code && code ≤ 0xDFFF

/-- The character for a code by itself; half of a pair has none and shows as a replacement. -/
def charOfCode (code : Nat) : Char :=
  if isHighHalf code || isLowHalf code then '\ufffd' else Char.ofNat code

def charOfPair (high low : Nat) : Char :=
  Char.ofNat (0x10000 + (high - 0xD800) * 0x400 + (low - 0xDC00))

/-- Reads what follows a backslash at `position`: the character that it stands for, and the number
of characters that write it. `start` is the position of the opening quote. A code escape needs a
character after its four digits, and a pair of escapes is one character when its halves fit. -/
def readEscape (start : Nat) (text : Text) (position : Nat) : Except Stop (Char × Nat) :=
  match text with
  | [] => .error (.problem .unterminatedText start)
  | 'u' :: a :: b :: c :: d :: next :: rest =>
    match hexFour? a b c d with
    | none => .error (.problem .invalidCodeEscape (position + 1))
    | some code =>
      if isHighHalf code then
        match next :: rest with
        | '\\' :: 'u' :: e :: f :: g :: h :: _ :: _ =>
          match hexFour? e f g h with
          | none => .error (.problem .invalidCodeEscape (position + 7))
          | some second =>
            if isLowHalf second then .ok (charOfPair code second, 11)
            else .ok (charOfCode code, 5)
        | _ => .ok (charOfCode code, 5)
      else .ok (charOfCode code, 5)
  | 'u' :: _ => .error (.problem .invalidCodeEscape (position + 1))
  | c :: _ =>
    match simpleEscape? c with
    | none => .error (.problem .invalidEscape position)
    | some c => .ok (c, 1)

/-- Reads a text up to its closing quote, its first `skip` characters left out. `start` is the
position of the opening quote. -/
def readText (start : Nat) : (skip : Nat) → Text → (position : Nat) → Except Stop (Text × Input)
  | _, [], _ => .error (.problem .unterminatedText start)
  | skip + 1, _ :: rest, position => readText start skip rest (position + 1)
  | 0, c :: rest, position =>
    if c = '"' then .ok ([], ⟨rest, position + 1⟩)
    else if c = '\\' then
      match readEscape start rest position with
      | .error stop => .error stop
      | .ok (escaped, length) =>
        (readText start length rest (position + 1)).map
          fun (text, input) => (escaped :: text, input)
    else if c.toNat < 0x20 then .error (.problem .controlCharacter position)
    else (readText start 0 rest (position + 1)).map fun (text, input) => (c :: text, input)

def readQuoted (input : Input) : Except Stop (Text × Input) :=
  readText input.position 0 (input.rest.drop 1) (input.position + 1)

end Xref.Json
