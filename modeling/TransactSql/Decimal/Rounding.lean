import TransactSql.Decimal.Binary64

/-!
# Rounding to double precision

The double-precision number nearest to a ratio of whole numbers, ties going to the even
significand, and the rounded product and quotient that follow from it. Beyond the largest number
lies infinity.
-/

namespace TransactSql.Binary64

open Decimal (twoTo tenTo)

/-- Positive and negative infinity. -/
def infinity (negative : Bool) : Binary64 :=
  ⟨if negative then 0xFFF0000000000000 else 0x7FF0000000000000⟩

/-- The whole number nearest to a ratio, a tie going to the even one. -/
def roundDiv (numerator denominator : Nat) : Nat :=
  let q := numerator / denominator
  let r := numerator % denominator
  if 2 * r < denominator || (2 * r = denominator && q % 2 = 0) then q else q + 1

/-- The scale at which a positive ratio has a significand of 53 bits, or the least scale where
that would be below it. -/
def scaleOf (numerator denominator : Nat) : Int :=
  let guess : Int := (numerator.log2 : Int) - denominator.log2 - 52
  let full := denominator * twoTo (guess + 52).toNat ≤ numerator * twoTo (-(guess + 52)).toNat
  max (if full then guess else guess - 1) (-1074)

/-- The number nearest to a ratio with a positive denominator. -/
def ofRatio (negative : Bool) (numerator denominator : Nat) : Binary64 :=
  if numerator = 0 then zero negative
  else
    let scale := scaleOf numerator denominator
    let m := roundDiv (numerator * twoTo (-scale).toNat) (denominator * twoTo scale.toNat)
    let (m, scale) := if m = twoTo 53 then (twoTo 52, scale + 1) else (m, scale)
    if 971 < scale then infinity negative else ofParts negative m scale

/-- The number nearest to `n · 10 ^ k`. Far outside of the range the power of ten is not formed. -/
def ofDecimal (negative : Bool) (n : Nat) (k : Int) : Binary64 :=
  let digits : Int := (Nat.toDigits 10 n).length
  if n = 0 || digits + k < -400 then zero negative
  else if 400 < digits + k then infinity negative
  else ofRatio negative (n * tenTo k.toNat) (tenTo (-k).toNat)

/-- A finite number's magnitude as a ratio. -/
def magnitude (x : Binary64) : Nat × Nat :=
  (x.significand * twoTo x.scale.toNat, twoTo (-x.scale).toNat)

/-- The rounded product of two finite numbers that are not negative. -/
def times (x y : Binary64) : Binary64 :=
  ofRatio false (x.magnitude.1 * y.magnitude.1) (x.magnitude.2 * y.magnitude.2)

/-- The rounded quotient of two finite numbers that are not negative, the second not zero. -/
def dividedBy (x y : Binary64) : Binary64 :=
  ofRatio false (x.magnitude.1 * y.magnitude.2) (x.magnitude.2 * y.magnitude.1)

/-- The number with the opposite sign. -/
def negate (x : Binary64) : Binary64 :=
  ⟨x.bits ^^^ 0x8000000000000000⟩

end TransactSql.Binary64
