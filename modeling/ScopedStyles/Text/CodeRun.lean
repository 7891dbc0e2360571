/-!
# Sets of code points

Character properties of all scripts are large sets with few gaps, so a set is written as a list of
runs. A step of two covers the alphabets that alternate capital and small letters.
-/

namespace ScopedStyles.Text

/-- The code points `first`, `first + step`, `first + 2 * step` and so on, up to `last`. -/
structure CodeRun where
  first : Nat
  last : Nat
  step : Nat

/-- Membership of a code point in a run. -/
def CodeRun.contains (run : CodeRun) (n : Nat) : Bool :=
  run.first ≤ n && n ≤ run.last && (n - run.first) % run.step == 0

/-- Membership of a code point in one of several runs. -/
def inRuns (runs : List CodeRun) (n : Nat) : Bool :=
  runs.any (·.contains n)

end ScopedStyles.Text
