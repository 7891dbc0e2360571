/-!
# Shortest decimals

The decimal with the fewest digits that reads back as a given binary floating-point number, and of
several such decimals the nearest. The numbers that read back as `m * 2 ^ e` are those between the
midpoints to its two neighbours, the midpoints included if `m` is even. All arithmetic is exact.
-/

namespace ScopedStyles.Decimal

/-- A decimal: `digits * 10 ^ exponent`. -/
structure Digits where
  digits : Nat
  exponent : Int
  deriving DecidableEq, Repr

/-- The fraction `numerator / denominator`. -/
structure Fraction where
  numerator : Nat
  denominator : Nat

/-- A number times a power of ten or of two. -/
def Fraction.scale (f : Fraction) (base : Nat) (e : Int) : Fraction :=
  if 0 ≤ e then { f with numerator := f.numerator * base.pow e.toNat }
  else { f with denominator := f.denominator * base.pow (-e).toNat }

/-- `n * f ≤ g`. -/
def Fraction.timesLe (n : Nat) (f g : Fraction) : Bool :=
  n * f.numerator * g.denominator ≤ g.numerator * f.denominator

/-- `n * f < g`. -/
def Fraction.timesLt (n : Nat) (f g : Fraction) : Bool :=
  n * f.numerator * g.denominator < g.numerator * f.denominator

/-- The greatest natural number below a fraction of fractions. -/
def Fraction.quotient (f g : Fraction) : Nat :=
  f.numerator * g.denominator / (f.denominator * g.numerator)

/-- The numbers that read back as one floating-point number, which is `value`. -/
structure Interval where
  value : Fraction
  low : Fraction
  high : Fraction
  closed : Bool

/-- The interval of `m * 2 ^ e`. `narrow` tells whether the neighbour below is only half as far away
as the one above. -/
def Interval.of (m : Nat) (e : Int) (narrow : Bool) : Interval :=
  let quarter (n : Nat) := Fraction.scale ⟨n, 1⟩ 2 (e - 2)
  { value := quarter (4 * m), low := quarter (4 * m - if narrow then 1 else 2),
    high := quarter (4 * m + 2), closed := m % 2 == 0 }

/-- Whether `n` times the grid's unit reads back. -/
def Interval.contains (i : Interval) (n : Nat) (unit : Fraction) : Bool :=
  if i.closed then !unit.timesLt n i.low && unit.timesLe n i.high
  else !unit.timesLe n i.low && unit.timesLt n i.high

/-- Which of two decimals is chosen where both are equally near. -/
inductive Tie where
  /-- The greater one. -/
  | up
  /-- The one whose last digit is even. -/
  | even
  deriving DecidableEq, Repr

/-- Whether the value is nearer to `below + 1` times the grid's unit than to `below` times it. -/
def Interval.isNearerAbove (i : Interval) (tie : Tie) (below : Nat) (unit : Fraction) : Bool :=
  let twice : Fraction := { i.value with numerator := 2 * i.value.numerator }
  if tie = .up ∨ below % 2 = 1 then unit.timesLe (2 * below + 1) twice
  else unit.timesLt (2 * below + 1) twice

/-- The multiple of `10 ^ exponent` nearest to the value, if one reads back. -/
def Interval.onGrid? (i : Interval) (tie : Tie) (exponent : Int) : Option Digits :=
  let unit := Fraction.scale ⟨1, 1⟩ 10 exponent
  let below := i.value.quotient unit
  let nearer := if i.isNearerAbove tie below unit then [below + 1, below] else [below, below + 1]
  (nearer.find? (i.contains · unit)).map (⟨·, exponent⟩)

/-- The least power of ten above a number that is not zero and lies between `10 ^ -400` and
`10 ^ 400`. -/
def magnitude (f : Fraction) : Int :=
  if f.denominator ≤ f.numerator then (Nat.toDigits 10 (f.numerator / f.denominator)).length
  else 1 - ((List.range 400).find? fun j => f.denominator ≤ f.numerator * Nat.pow 10 j).getD 400

/-- The decimal without zeros at its end. -/
def Digits.strip (fuel : Nat) (d : Digits) : Digits :=
  match fuel with
  | 0 => d
  | fuel + 1 => if d.digits % 10 = 0 then strip fuel ⟨d.digits / 10, d.exponent + 1⟩ else d

/-- Digits that always suffice. -/
def maxDigits : Nat := 17

/-- How many digits stand in front of the point; below zero, how many zeros follow it. -/
def Digits.point (d : Digits) : Int :=
  (Nat.toDigits 10 d.digits).length + d.exponent

/-- A decimal with at most `places` digits, where a half is rounded up. -/
def Digits.limit (places : Nat) (d : Digits) : Digits :=
  let surplus := (Nat.toDigits 10 d.digits).length - places
  if surplus = 0 then d
  else
    let rounded := (d.digits + 5 * Nat.pow 10 (surplus - 1)) / Nat.pow 10 surplus
    strip maxDigits ⟨rounded, d.exponent + surplus⟩

/-- The shortest decimal that reads back as `m * 2 ^ e`, where `m` is not zero. -/
def shortest (tie : Tie) (m : Nat) (e : Int) (narrow : Bool) : Digits :=
  let i := Interval.of m e narrow
  let above := magnitude i.value
  let found := (List.range maxDigits).findSome? fun n => i.onGrid? tie (above - (n + 1 : Nat))
  (found.getD ⟨m, e⟩).strip maxDigits

end ScopedStyles.Decimal
