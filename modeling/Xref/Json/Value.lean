import Xref.Text.Basic

namespace Xref.Json

/-- The number `± digits · 10 ^ exponent`. -/
structure Decimal where
  negative : Bool
  digits : Nat
  exponent : Int
  deriving DecidableEq, Repr

inductive Value where
  | null
  | bool (b : Bool)
  | integer (n : Int)
  | decimal (d : Decimal)
  | notANumber
  | infinity (negative : Bool)
  | text (t : Text)
  | array (items : List Value)
  | object (fields : List (Text × Value))
  deriving Repr

namespace Value

/-- The value of a field; the last of several fields of one name counts. -/
def field? (name : Text) : Value → Option Value
  | .object fields => fields.reverse.lookup name
  | _ => none

end Value

end Xref.Json
