/-!
# Sets of characters as ranges of code points

Character properties are tables of closed ranges of code points, and case mappings are runs of
evenly spaced code points that move by one distance. Both are searched from the front.
-/

namespace TransactSql.Text

/-- Whether a code point lies in one of the closed ranges. -/
def inRanges (ranges : List (Nat × Nat)) (n : Nat) : Bool :=
  ranges.any fun r => r.1 ≤ n && n ≤ r.2

/-- Every `step`-th code point from `first` to `last`, each mapped `delta` further. -/
structure CaseRun where
  first : Nat
  last : Nat
  step : Nat
  delta : Int
deriving DecidableEq, Repr

/-- Whether a run maps the code point. -/
def CaseRun.covers (run : CaseRun) (n : Nat) : Bool :=
  run.first ≤ n && n ≤ run.last && (n - run.first) % run.step == 0

/-- The code point that a table of runs maps `n` to; `n` itself where no run covers it. -/
def moveBy (runs : List CaseRun) (n : Nat) : Nat :=
  match runs.find? (·.covers n) with
  | some run => (n + run.delta).toNat
  | none => n

end TransactSql.Text
