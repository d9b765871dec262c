import TransactSql.Decimal.Binary64

/-!
# Shortest decimals

The shortest decimal of a number is the one with the fewest digits among those that read back as
it; of several with that many digits the nearest to the number is taken, and of two equally near
the even one. A decimal reads back as the number exactly when it lies between the midpoints to
the neighbouring numbers, the midpoints themselves included when the significand is even.
-/

namespace TransactSql.Decimal

/-- A decimal: the digits of a whole number and the power of ten of the first of them. -/
structure Digits where
  digits : List Char
  exponent : Int
deriving DecidableEq, Repr

/-- A positive number with the interval of decimals that read back as it, as numerators over
one denominator. -/
structure Interval where
  low : Nat
  value : Nat
  high : Nat
  denominator : Nat
  closed : Bool
deriving DecidableEq, Repr

/-- The interval of a finite number. The lower neighbour of a power of two is half as far away as
the upper one. -/
def Interval.of (x : Binary64) : Interval :=
  let m := 4 * x.significand
  let scale := x.scale - 2
  let factor := twoTo scale.toNat
  let below := if x.fraction = 0 && 1 < x.exponentField then 1 else 2
  { low := (m - below) * factor
    value := m * factor
    high := (m + 2) * factor
    denominator := twoTo (-scale).toNat
    closed := x.significand % 2 = 0 }

/-- Whether `c · 10 ^ k` lies in the interval. -/
def Interval.contains (i : Interval) (c : Nat) (k : Int) : Bool :=
  let point := c * i.denominator * tenTo k.toNat
  let low := i.low * tenTo (-k).toNat
  let high := i.high * tenTo (-k).toNat
  if i.closed then low ≤ point && point ≤ high else low < point && point < high

/-- The multiple of `10 ^ k` that reads back as the number and is nearest to it, if one of the
two multiples around the number reads back. -/
def Interval.multiple? (i : Interval) (k : Int) : Option Nat :=
  let value := i.value * tenTo (-k).toNat
  let unit := i.denominator * tenTo k.toNat
  let c := value / unit
  let rest := value % unit
  match i.contains c k, i.contains (c + 1) k with
  | true, true =>
    if 2 * rest < unit || (2 * rest = unit && c % 2 = 0) then some c else some (c + 1)
  | true, false => some c
  | false, true => some (c + 1)
  | false, false => none

/-- The power of ten of the number's first digit. Scaled by `10 ^ 400` every positive number is
at least one. -/
def Interval.firstExponent (i : Interval) : Int :=
  (Nat.toDigits 10 (i.value * tenTo 400 / i.denominator)).length - 401

/-- The digits of `c · 10 ^ k` without zeros at the end. -/
def Digits.ofMultiple (c : Nat) (k : Int) : Digits :=
  let all := Nat.toDigits 10 c
  { digits := (all.reverse.dropWhile (· == '0')).reverse
    exponent := k + all.length - 1 }

/-- The shortest decimal of a finite number other than zero. Seventeen digits always suffice. -/
def shortest (x : Binary64) : Digits :=
  let i := Interval.of x
  let e := i.firstExponent
  let hit := (List.range 17).findSome? fun (n : Nat) =>
    (i.multiple? (e - n)).map fun c => Digits.ofMultiple c (e - n)
  hit.getD { digits := ['0'], exponent := 0 }

end TransactSql.Decimal
