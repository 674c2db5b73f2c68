import Xref.Json.Value

namespace Xref.Json

inductive Problem where
  | byteOrderMark
  | expectingValue
  | expectingName
  | expectingColon
  | expectingComma
  | extraData
  | unterminatedText
  | controlCharacter
  | invalidEscape
  | invalidCodeEscape
  deriving DecidableEq, Repr

inductive Stop where
  | problem (problem : Problem) (position : Nat)
  | tooManyDigits (count : Nat)
  deriving DecidableEq, Repr

structure Input where
  rest : Text
  position : Nat
  deriving DecidableEq, Repr

namespace Input

def advance (input : Input) (count : Nat) : Input :=
  ⟨input.rest.drop count, input.position + count⟩

def isLayout (c : Char) : Bool := c == ' ' || c == '\t' || c == '\n' || c == '\r'

def skipLayout (input : Input) : Input := input.advance (input.rest.takeWhile isLayout).length

end Input

end Xref.Json
