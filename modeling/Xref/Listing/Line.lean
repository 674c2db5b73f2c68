import Xref.Symbol
import Xref.Text.Blank

/-!
# Lines of a disassembly listing

Two shapes of line matter. A definition is an address, white space, a name in angle brackets and
a colon, with nothing else on the line. A reference is a name in angle brackets anywhere on a
line, perhaps with a hexadecimal offset after a plus sign, which is no part of the name.
-/

namespace Xref.Listing

/-- The name in a text of the shape `<name>:`, after which only white space follows. -/
def definedName? : Text → Option Symbol
  | '<' :: rest =>
    let name := rest.takeWhile (· ≠ '>')
    match rest.dropWhile (· ≠ '>') with
    | '>' :: ':' :: trailer => if !name.isEmpty && trailer.all Text.isBlank then some name else none
    | _ => none
  | _ => none

def definition? (line : Text) : Option Symbol :=
  let address := line.takeWhile Text.isHexDigit
  let afterAddress := line.dropWhile Text.isHexDigit
  let gap := afterAddress.takeWhile Text.isBlank
  if !address.isEmpty && !gap.isEmpty then definedName? (afterAddress.dropWhile Text.isBlank)
  else none

def isOffset : Text → Bool
  | '0' :: 'x' :: digits => !digits.isEmpty && digits.all Text.isHexDigit
  | digits => !digits.isEmpty && digits.all Text.isHexDigit

/-- The name in a reference whose opening bracket stands right before the text. -/
def referenceHere? (text : Text) : Option Symbol :=
  let name := text.takeWhile fun c => c ≠ '>' && c ≠ '+'
  if name.isEmpty then none
  else match text.dropWhile fun c => c ≠ '>' && c ≠ '+' with
    | '>' :: _ => some name
    | '+' :: rest =>
      if rest.contains '>' && isOffset (rest.takeWhile (· ≠ '>')) then some name else none
    | _ => none

/-- The names referred to on a line, from left to right. `inside` says that the text begins within
a reference, whose end is the next closing bracket. -/
def referencesFrom (inside : Bool) : Text → List Symbol
  | [] => []
  | c :: rest =>
    if inside then referencesFrom (c ≠ '>') rest
    else if c = '<' then
      match referenceHere? rest with
      | some name => name :: referencesFrom true rest
      | none => referencesFrom false rest
    else referencesFrom false rest

def references (line : Text) : List Symbol := referencesFrom false line

def reference? (line : Text) (owner : Symbol) : Option Symbol :=
  (references line).find? (· ≠ owner)

end Xref.Listing
