import Xref.Json.Value

namespace Xref.Json

/-- The number `± significand · 2 ^ exponent`. -/
structure Binary64 where
  negative : Bool
  significand : Nat
  exponent : Int
  deriving DecidableEq, Repr

/-- The natural number nearest to `n / d`, the even one when two are equally near. -/
def roundDiv (n d : Nat) : Nat :=
  let floor := n / d
  let twice := 2 * (n % d)
  if twice < d ∨ (twice = d ∧ floor % 2 = 0) then floor else floor + 1

/-- The greatest `k` with `2 ^ k ≤ n / d`, for positive `n` and `d`. -/
def floorLog2 (n d : Nat) : Int :=
  let guess : Int := (n.log2 : Int) - d.log2
  if 0 ≤ guess then
    if d * Nat.pow 2 guess.toNat ≤ n then guess else guess - 1
  else
    if d ≤ n * Nat.pow 2 (-guess).toNat then guess else guess - 1

namespace Decimal

def fraction (d : Decimal) : Nat × Nat :=
  (d.digits * Nat.pow 10 d.exponent.toNat, Nat.pow 10 (-d.exponent).toNat)

/-- The nearest binary fraction, or `none` beyond the range of the format. Powers of ten that
decide the answer by themselves are not computed. -/
def toBinary64? (d : Decimal) : Option Binary64 :=
  let magnitude : Int := d.exponent + (Nat.toDigits 10 d.digits).length
  if d.digits = 0 ∨ magnitude < -330 then some ⟨d.negative, 0, -1074⟩
  else if 330 < magnitude then none
  else
    let (n, m) := d.fraction
    let exponent := max (floorLog2 n m - 52) (-1074)
    let significand := roundDiv (n * Nat.pow 2 (-exponent).toNat) (m * Nat.pow 2 exponent.toNat)
    if Nat.pow 2 1024 ≤ significand * Nat.pow 2 exponent.toNat then none
    else some ⟨d.negative, significand, exponent⟩

end Decimal

namespace Binary64

def isIntegral (b : Binary64) : Bool :=
  b.significand % Nat.pow 2 (-b.exponent).toNat == 0

def truncate (b : Binary64) : Int :=
  let size := b.significand * Nat.pow 2 b.exponent.toNat / Nat.pow 2 (-b.exponent).toNat
  if b.negative then -(size : Int) else size

end Binary64

end Xref.Json
