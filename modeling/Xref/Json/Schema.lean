import Xref.Json.Binary64

namespace Xref.Json

inductive Step where
  | field (name : Text)
  | item (index : Nat)
  deriving DecidableEq, Repr

inductive Cause where
  | notObject (name : Text)
  | notText
  | notList
  | notBoolean
  | unclearBoolean
  | notOneOf (choices : List Text)
  | rule (text : Text)
  deriving DecidableEq, Repr

structure Fault where
  path : List Step
  cause : Cause
  deriving DecidableEq, Repr

abbrev Checked (α : Type) := Except (List Fault) α

namespace Checked

def fault {α : Type} (cause : Cause) : Checked α := .error [⟨[], cause⟩]

def within {α : Type} (step : Step) : Checked α → Checked α :=
  Except.mapError (List.map fun fault => { fault with path := step :: fault.path })

def both {α β : Type} : Checked α → Checked β → Checked (α × β)
  | .ok a, .ok b => .ok (a, b)
  | .ok _, .error faults => .error faults
  | .error faults, .ok _ => .error faults
  | .error faults, .error more => .error (faults ++ more)

def allFrom {α β : Type} (check : α → Checked β) (index : Nat) : List α → Checked (List β)
  | [] => .ok []
  | item :: rest =>
    (both (within (.item index) (check item)) (allFrom check (index + 1) rest)).map
      fun (first, others) => first :: others

def orDefault {α : Type} (name : Text) (default : α) (check : Value → Checked α) :
    Option Value → Checked α
  | none => .ok default
  | some value => within (.field name) (check value)

end Checked

def Value.checkField {α : Type} (value : Value) (name : Text) (default : α)
    (check : Value → Checked α) : Checked α :=
  Checked.orDefault name default check (value.field? name)

open Checked

def checkText : Value → Checked Text
  | .text t => .ok t
  | _ => fault .notText

def checkList {α : Type} (check : Value → Checked α) : Value → Checked (List α)
  | .array items => allFrom check 0 items
  | _ => fault .notList

def boolOfWord? (word : Text) : Option Bool :=
  let word := word.map Text.lowerAscii
  if word ∈ ["1", "true", "t", "yes", "y", "on"].map String.toList then some true
  else if word ∈ ["0", "false", "f", "no", "n", "off"].map String.toList then some false
  else none

def boolOfInt? (n : Int) : Option Bool :=
  if n = 1 then some true else if n = 0 then some false else none

def clearly : Option Bool → Checked Bool
  | some b => .ok b
  | none => fault .unclearBoolean

def wordLimit : Int := 0x8000000000000000

/-- Booleans, words and numbers that mean one. Words and integers of 64 bits, written as such or
as a decimal, that mean none are unclear; anything else is no boolean. -/
def checkBool : Value → Checked Bool
  | .bool b => .ok b
  | .text word => clearly (boolOfWord? word)
  | .integer n =>
    if -wordLimit ≤ n ∧ n < wordLimit then clearly (boolOfInt? n) else fault .notBoolean
  | .decimal d =>
    match d.toBinary64? with
    | some b =>
      -- The least integer of 64 bits counts only when it is written as an integer.
      if b.isIntegral && decide (-wordLimit < b.truncate ∧ b.truncate < wordLimit) then
        clearly (boolOfInt? b.truncate)
      else fault .notBoolean
    | none => fault .notBoolean
  | _ => fault .notBoolean

def checkChoice {α : Type} (choices : List (Text × α)) : Value → Checked α
  | .text name =>
    match choices.lookup name with
    | some a => .ok a
    | none => fault (.notOneOf (choices.map Prod.fst))
  | _ => fault (.notOneOf (choices.map Prod.fst))

def alternatives : List Text → Text
  | [] => []
  | [last] => "'" ++ last ++ "'"
  | [first, last] => "'" ++ first ++ "' or '" ++ last ++ "'"
  | first :: rest => "'" ++ first ++ "', " ++ alternatives rest

namespace Cause

def kind : Cause → Text
  | .notObject _ => "model_type"
  | .notText => "string_type"
  | .notList => "list_type"
  | .notBoolean => "bool_type"
  | .unclearBoolean => "bool_parsing"
  | .notOneOf _ => "enum"
  | .rule _ => "value_error"

def message : Cause → Text
  | .notObject name => "Input should be a valid dictionary or instance of " ++ name
  | .notText => "Input should be a valid string"
  | .notList => "Input should be a valid list"
  | .notBoolean => "Input should be a valid boolean"
  | .unclearBoolean => "Input should be a valid boolean, unable to interpret input"
  | .notOneOf choices => "Input should be " ++ alternatives choices
  | .rule text => "Value error, " ++ text

end Cause

end Xref.Json
