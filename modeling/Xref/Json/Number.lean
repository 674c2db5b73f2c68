import Xref.Json.Input

namespace Xref.Json

def maxDigits : Nat := 4300

def ofDigits (digits : Text) : Nat := digits.foldl (fun n c => 10 * n + (c.toNat - '0'.toNat)) 0

def wholePart : Text → Text
  | '0' :: _ => ['0']
  | text => text.takeWhile Text.isDigit

def fractionPart : Text → Text
  | '.' :: rest => rest.takeWhile Text.isDigit
  | _ => []

/-- The sign and the digits of the exponent, and the length of the whole part of the text that
writes it, when an exponent with digits follows. -/
def exponentPart? : Text → Option (Int × Nat)
  | mark :: rest =>
    if mark = 'e' ∨ mark = 'E' then
      let (negative, signs, rest) : Bool × Nat × Text := match rest with
        | '-' :: rest => (true, 1, rest)
        | '+' :: rest => (false, 1, rest)
        | rest => (false, 0, rest)
      let digits := rest.takeWhile Text.isDigit
      if digits.isEmpty then none
      else
        let size : Int := ofDigits digits
        some (if negative then -size else size, 1 + signs + digits.length)
    else none
  | [] => none

def readNumber (input : Input) : Except Stop (Value × Input) :=
  let negative := input.rest.head? == some '-'
  let sign := if negative then 1 else 0
  let whole := wholePart (input.rest.drop sign)
  if whole.isEmpty then .error (.problem .expectingValue input.position)
  else
    let afterWhole := input.advance (sign + whole.length)
    let fraction := fractionPart afterWhole.rest
    let afterFraction :=
      if fraction.isEmpty then afterWhole else afterWhole.advance (1 + fraction.length)
    match exponentPart? afterFraction.rest with
    | some (exponent, length) =>
      .ok (.decimal ⟨negative, ofDigits (whole ++ fraction), exponent - fraction.length⟩,
        afterFraction.advance length)
    | none =>
      if !fraction.isEmpty then
        .ok (.decimal ⟨negative, ofDigits (whole ++ fraction), -fraction.length⟩, afterFraction)
      else if maxDigits < whole.length then .error (.tooManyDigits whole.length)
      else
        let size : Int := ofDigits whole
        .ok (.integer (if negative then -size else size), afterWhole)

end Xref.Json
