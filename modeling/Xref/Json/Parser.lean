import Xref.Json.Number
import Xref.Json.Quoted

namespace Xref.Json

def words : List (Text × Value) :=
  [("null", .null), ("true", .bool true), ("false", .bool false), ("NaN", .notANumber),
    ("Infinity", .infinity false), ("-Infinity", .infinity true)]

def word? (text : Text) : Option (Text × Value) := words.find? fun (word, _) => word.isPrefixOf text

mutual

/-- Reads a value at the input. Each nested value takes one unit of `fuel`. -/
def readValue : (fuel : Nat) → Input → Except Stop (Value × Input)
  | 0, input => .error (.problem .expectingValue input.position)
  | fuel + 1, input =>
    match input.rest with
    | '"' :: _ => (readQuoted input).map fun (text, input) => (.text text, input)
    | '[' :: _ =>
      let inside := (input.advance 1).skipLayout
      if inside.rest.head? = some ']' then .ok (.array [], inside.advance 1)
      else (readItems fuel inside).map fun (items, input) => (.array items, input)
    | '\x7b' :: _ =>
      let inside := (input.advance 1).skipLayout
      if inside.rest.head? = some '\x7d' then .ok (.object [], inside.advance 1)
      else (readFields fuel inside).map fun (fields, input) => (.object fields, input)
    | text =>
      match word? text with
      | some (word, value) => .ok (value, input.advance word.length)
      | none => readNumber input

def readItems : (fuel : Nat) → Input → Except Stop (List Value × Input)
  | 0, input => .error (.problem .expectingValue input.position)
  | fuel + 1, input =>
    match readValue fuel input with
    | .error stop => .error stop
    | .ok (item, input) =>
      let after := input.skipLayout
      match after.rest with
      | ']' :: _ => .ok ([item], after.advance 1)
      | ',' :: _ =>
        (readItems fuel (after.advance 1).skipLayout).map
          fun (items, input) => (item :: items, input)
      | _ => .error (.problem .expectingComma after.position)

def readFields : (fuel : Nat) → Input → Except Stop (List (Text × Value) × Input)
  | 0, input => .error (.problem .expectingName input.position)
  | fuel + 1, input =>
    match input.rest with
    | '"' :: _ =>
      match readQuoted input with
      | .error stop => .error stop
      | .ok (name, input) =>
        let colon := input.skipLayout
        if colon.rest.head? ≠ some ':' then .error (.problem .expectingColon colon.position)
        else
          match readValue fuel (colon.advance 1).skipLayout with
          | .error stop => .error stop
          | .ok (value, input) =>
            let after := input.skipLayout
            match after.rest with
            | '\x7d' :: _ => .ok ([(name, value)], after.advance 1)
            | ',' :: _ =>
              (readFields fuel (after.advance 1).skipLayout).map fun (fields, input) =>
                ((name, value) :: fields, input)
            | _ => .error (.problem .expectingComma after.position)
    | _ => .error (.problem .expectingName input.position)

end

/-- Reads a whole document. Every nested value and every further item begins with a character of
its own, so the length of the document bounds the reading. -/
def readDocument (document : Text) : Except Stop Value :=
  if document.head? = some '\ufeff' then .error (.problem .byteOrderMark 0)
  else
    let input := Input.skipLayout ⟨document, 0⟩
    match readValue (2 * document.length + 2) input with
    | .error stop => .error stop
    | .ok (value, input) =>
      let after := input.skipLayout
      if after.rest.isEmpty then .ok value else .error (.problem .extraData after.position)

inductive Error where
  | problem (problem : Problem) (line column position : Nat)
  | tooManyDigits (count : Nat)
  deriving DecidableEq, Repr

def Stop.locate (document : Text) : Stop → Error
  | .problem what position =>
    let before := document.take position
    .problem what (before.count '\n' + 1)
      ((before.reverse.takeWhile (· ≠ '\n')).length + 1) position
  | .tooManyDigits count => .tooManyDigits count

def parse (document : Text) : Except Error Value :=
  (readDocument document).mapError (Stop.locate document)

def Problem.message : Problem → Text
  | .byteOrderMark => "Unexpected UTF-8 BOM (decode using utf-8-sig)"
  | .expectingValue => "Expecting value"
  | .expectingName => "Expecting property name enclosed in double quotes"
  | .expectingColon => "Expecting ':' delimiter"
  | .expectingComma => "Expecting ',' delimiter"
  | .extraData => "Extra data"
  | .unterminatedText => "Unterminated string starting at"
  | .controlCharacter => "Invalid control character at"
  | .invalidEscape => "Invalid \\escape"
  | .invalidCodeEscape => "Invalid \\uXXXX escape"

def Error.message : Error → Text
  | .problem what line column position =>
    what.message ++ ": line " ++ Text.ofNat line ++ " column " ++ Text.ofNat column ++
      " (char " ++ Text.ofNat position ++ ")"
  | .tooManyDigits count =>
    "Exceeds the limit (" ++ Text.ofNat maxDigits ++
      " digits) for integer string conversion: value has " ++ Text.ofNat count ++
      " digits; use sys.set_int_max_str_digits() to increase the limit"

end Xref.Json
