/-!
# Powers of two and ten

The two bases between which numbers are converted, each with its powers as a function.
-/

namespace TransactSql.Decimal

/-- A power of two. -/
def twoTo (n : Nat) : Nat :=
  Nat.pow 2 n

/-- A power of ten. -/
def tenTo (n : Nat) : Nat :=
  Nat.pow 10 n

end TransactSql.Decimal
