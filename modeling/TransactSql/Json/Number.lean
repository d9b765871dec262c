import TransactSql.Decimal.Rounding
import TransactSql.Json.Basic

/-!
# Numbers in JSON text

A number without a fraction and an exponent is whole as long as it fits into 64 bits. Any other
one is read in two roundings: first the digits, as many from the front as fit into 64 bits, then
the power of ten. A number that is too large is infinite, which no value accepts. Minus zero has
no whole number and is read as one with a fraction.
-/

namespace TransactSql.Json

/-- The largest whole number of 64 bits. -/
def maxWhole : Nat := UInt64.size - 1

/-- Appends digits to a number while the result fits into 64 bits; also gives the number of
digits that are left. -/
def takeDigits (n : Nat) : List Char → Nat × Nat
  | [] => (n, 0)
  | c :: rest =>
    let next := n * 10 + (c.toNat - '0'.toNat)
    if next ≤ maxWhole then takeDigits next rest else (n, rest.length + 1)

/-- A power of ten, rounded. -/
def powerOfTen (k : Nat) : Binary64 :=
  .ofRatio false (Decimal.tenTo k) 1

/-- Divides by powers of ten until the exponent is used up or nothing is left of the number. -/
def scaleDown : Nat → Binary64 → Nat → Binary64
  | 0, _, _ => .zero false
  | steps + 1, x, k =>
    if k ≤ 308 then x.dividedBy (powerOfTen k)
    else scaleDown steps (x.dividedBy (powerOfTen 308)) (k - 308)

/-- `n · 10 ^ k`, with `n` rounded first. -/
def scaled (n : Nat) (k : Int) : Binary64 :=
  if n = 0 then .zero false
  else if k < 0 then scaleDown 4 (.ofRatio false n 1) k.natAbs
  else if 308 < k then .infinity false
  else (Binary64.ofRatio false n 1).times (powerOfTen k.natAbs)

/-- The number of its sign, the digits before and after the point, and its exponent. -/
def Number.ofDigits (negative : Bool) (whole : List Char) (fraction : Option (List Char))
    (exponent : Option Int) : Number :=
  let (n, left) := takeDigits 0 whole
  let sign (x : Binary64) : Number := .float (if negative then x.negate else x)
  match fraction, exponent with
  | none, none =>
    if left = 0 then
      if !negative then .whole n
      else if n = 0 || Decimal.twoTo 63 < n then sign (.ofRatio false n 1)
      else .whole (-n)
    else sign (scaled n left)
  | _, _ =>
    let digits := fraction.getD []
    let (m, dropped) := takeDigits n digits
    sign (scaled m ((left : Int) - (digits.length - dropped : Nat) + exponent.getD 0))

end TransactSql.Json
