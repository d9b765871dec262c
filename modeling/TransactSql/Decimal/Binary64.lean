import TransactSql.Decimal.Power

/-!
# Double-precision numbers

A double-precision number is its 64 bits: a sign, eleven bits of exponent and 52 bits of
fraction. Everything that is decided about it is decided on these fields in exact arithmetic.
-/

namespace TransactSql

/-- A floating-point number in the format binary64, given by its bits. -/
structure Binary64 where
  bits : UInt64
deriving DecidableEq, Repr, Inhabited

open Decimal (twoTo)

namespace Binary64

/-- The sign bit. -/
def negative (x : Binary64) : Bool :=
  twoTo 63 ≤ x.bits.toNat

/-- The eleven bits of the exponent. -/
def exponentField (x : Binary64) : Nat :=
  x.bits.toNat / twoTo 52 % twoTo 11

/-- The 52 bits of the fraction. -/
def fraction (x : Binary64) : Nat :=
  x.bits.toNat % twoTo 52

/-- Neither infinite nor a NaN. -/
def isFinite (x : Binary64) : Bool :=
  x.exponentField != 2047

/-- Not a number. -/
def isNaN (x : Binary64) : Bool :=
  x.exponentField == 2047 && x.fraction != 0

/-- One of the two zeros. -/
def isZero (x : Binary64) : Bool :=
  x.exponentField == 0 && x.fraction == 0

/-- The whole number `m` such that a finite number is `± m · 2 ^ scale`. -/
def significand (x : Binary64) : Nat :=
  if x.exponentField = 0 then x.fraction else x.fraction + twoTo 52

/-- The power of two of the significand's last bit. -/
def scale (x : Binary64) : Int :=
  max x.exponentField 1 - 1075

/-- Numerical equality: a NaN equals nothing, and the two zeros are equal. -/
def numEq (x y : Binary64) : Bool :=
  !x.isNaN && !y.isNaN && (x.bits == y.bits || (x.isZero && y.isZero))

/-- Positive and negative zero. -/
def zero (negative : Bool) : Binary64 :=
  ⟨if negative then 0x8000000000000000 else 0⟩

/-- The number with a given sign, significand below `2 ^ 53` and scale, where the significand
uses all 53 bits unless the scale is the least one. -/
def ofParts (negative : Bool) (significand : Nat) (scale : Int) : Binary64 :=
  let sign := if negative then twoTo 63 else 0
  let exponent := if significand < twoTo 52 then 0 else (scale + 1075).toNat
  ⟨UInt64.ofNat (sign + exponent * twoTo 52 + significand % twoTo 52)⟩

end Binary64

end TransactSql
