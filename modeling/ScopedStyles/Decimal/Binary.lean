import ScopedStyles.Decimal.Shortest
/-!
# Binary floating-point numbers

Numbers with a bounded count of bits, in single and in double precision. A fraction becomes the
nearest of them, and of two equally near ones the even one; what is too large becomes infinite.
Results are computed exactly and rounded once.
-/

namespace ScopedStyles.Decimal

/-- Which numbers there are: those of at most `precision` bits times a power of two. -/
structure Format where
  precision : Nat
  leastExponent : Int
  greatestExponent : Int
  deriving DecidableEq, Repr

namespace Format

/-- Numbers of 32 bits in all. -/
def single : Format :=
  { precision := 24, leastExponent := -149, greatestExponent := 104 }

/-- Numbers of 64 bits in all. -/
def double : Format :=
  { precision := 53, leastExponent := -1074, greatestExponent := 971 }

end Format

/-- The number `mantissa * 2 ^ exponent` with a sign. The mantissa has all bits of the format unless
the exponent is the least one. One exponent above the greatest tells of what is no such number: with
the least mantissa it is infinite, and with any other it is not a number at all. -/
structure Binary (f : Format) where
  negative : Bool
  mantissa : Nat
  exponent : Int
  deriving DecidableEq, Repr

/-- A number in single precision. -/
abbrev Single := Binary .single

/-- A number in double precision. -/
abbrev Double := Binary .double

/-- A quotient as the nearest natural number, and of two equally near ones the even one. -/
def roundDiv (n d : Nat) : Nat :=
  let q := n / d
  let r := n % d
  if d < 2 * r ∨ (2 * r = d ∧ q % 2 = 1) then q + 1 else q

namespace Binary

variable {f g : Format}

/-- The least mantissa with all bits of the format. -/
def leastFull (f : Format) : Nat :=
  Nat.pow 2 (f.precision - 1)

/-- What is too large. Its digits are those of the power of two above all numbers. -/
def infinite (negative : Bool) : Binary f :=
  { negative, mantissa := leastFull f, exponent := f.greatestExponent + 1 }

/-- What is no number. Its digits are those of one and a half times the power of two above all
numbers. -/
def notANumber : Binary f :=
  { negative := false
    mantissa := leastFull f + leastFull f / 2
    exponent := f.greatestExponent + 1 }

/-- Zero. -/
def zero (negative : Bool) : Binary f :=
  { negative, mantissa := 0, exponent := f.leastExponent }

/-- A fraction as a multiple of `2 ^ e`. -/
def multiple (x : Fraction) (e : Int) : Nat :=
  let scaled := x.scale 2 (-e)
  roundDiv scaled.numerator scaled.denominator

/-- The number nearest to a fraction. -/
def ofFraction (negative : Bool) (x : Fraction) : Binary f :=
  if x.numerator = 0 then zero negative
  else
    let low : Int := Nat.log2 x.numerator - Nat.log2 x.denominator - f.precision
    let scaled := x.scale 2 (-low)
    let isFull := scaled.denominator * Nat.pow 2 f.precision ≤ scaled.numerator
    let e := if isFull then low + 1 else low
    let e := max e f.leastExponent
    let m := multiple x e
    let (m, e) := if m = 2 * leastFull f then (leastFull f, e + 1) else (m, e)
    if f.greatestExponent < e then infinite negative else { negative, mantissa := m, exponent := e }

/-- The number nearest to a quotient. -/
def ofRatio (n : Int) (d : Nat) : Binary f :=
  ofFraction (n < 0) ⟨n.natAbs, d⟩

/-- The number nearest to a natural one. -/
def ofNat (n : Nat) : Binary f :=
  ofRatio n 1

/-- The number nearest to `10 ^ e`. -/
def powerOfTen (e : Int) : Binary f :=
  if e < -400 then zero false
  else if 400 < e then infinite false
  else ofFraction false (Fraction.scale ⟨1, 1⟩ 10 e)

/-- A number without its sign, as a fraction. -/
def magnitude (x : Binary f) : Fraction :=
  Fraction.scale ⟨x.mantissa, 1⟩ 2 x.exponent

/-- Whether a number is zero. -/
def isZero (x : Binary f) : Bool :=
  x.mantissa == 0

/-- Whether a number is one that is not too large. -/
def isFinite (x : Binary f) : Bool :=
  x.exponent ≤ f.greatestExponent

/-- Whether a number is one at all. -/
def isNumber (x : Binary f) : Bool :=
  x.isFinite || x.mantissa == leastFull f

/-- A number in the precision of another format. -/
def convert (x : Binary f) : Binary g :=
  if x.isFinite then ofFraction x.negative x.magnitude
  else if x.isNumber then infinite x.negative
  else notANumber

/-- A number, where zero has no sign. -/
def unsignedZero (x : Binary f) : Binary f :=
  if x.isZero then zero false else x

/-- Whether the magnitude of a number is below `n / d`. -/
def isBelow (x : Binary f) (n d : Nat) : Bool :=
  let m := x.magnitude
  m.numerator * d < n * m.denominator

/-- Whether a number is whole. -/
def isWhole (x : Binary f) : Bool :=
  let m := x.magnitude
  x.isFinite && m.numerator % m.denominator == 0

/-- A number times a sign. -/
def withSign (negative : Bool) (n : Nat) : Int :=
  if negative then -n else n

/-- A number without what stands behind its point. -/
def truncate (x : Binary f) : Int :=
  let m := x.magnitude
  withSign x.negative (m.numerator / m.denominator)

/-- The greatest whole number that is not above a number. -/
def floor (x : Binary f) : Binary f :=
  if x.isWhole || !x.isFinite then x
  else ofRatio (if x.negative then x.truncate - 1 else x.truncate) 1

/-- The integer nearest to a number, and of two equally near ones the one further from zero. -/
def round (x : Binary f) : Int :=
  let m := x.magnitude
  withSign x.negative ((2 * m.numerator + m.denominator) / (2 * m.denominator))

/-- The number nearest to `n / d` times a number, where neither is zero. -/
def scale (x : Binary f) (n d : Nat) : Binary f :=
  let m := x.magnitude
  if x.isFinite then ofFraction x.negative ⟨m.numerator * n, m.denominator * d⟩ else x

/-- A number with the other sign. -/
def neg (x : Binary f) : Binary f :=
  if x.isNumber then { x with negative := !x.negative } else x

/-- The number nearest to a sum. -/
def add (x y : Binary f) : Binary f :=
  let m := x.magnitude
  let n := y.magnitude
  if x.isFinite && y.isFinite then
    if x.isZero && y.isZero then zero (x.negative && y.negative)
    else ofRatio (withSign x.negative m.numerator * n.denominator +
      withSign y.negative n.numerator * m.denominator) (m.denominator * n.denominator)
  else if x.isFinite then y
  else if y.isFinite || x = y then x
  else notANumber

/-- The number nearest to a product. -/
def mul (x y : Binary f) : Binary f :=
  let m := x.magnitude
  let n := y.magnitude
  let negative := x.negative != y.negative
  if x.isFinite && y.isFinite then
    ofFraction negative ⟨m.numerator * n.numerator, m.denominator * n.denominator⟩
  else if x.isNumber && y.isNumber && !x.isZero && !y.isZero then infinite negative
  else notANumber

/-- The number nearest to a quotient of numbers. -/
def div (x y : Binary f) : Binary f :=
  let m := x.magnitude
  let n := y.magnitude
  let negative := x.negative != y.negative
  if !x.isNumber || !y.isNumber || (x.isZero && y.isZero) || !(x.isFinite || y.isFinite) then
    notANumber
  else if y.isZero || !x.isFinite then infinite negative
  else if !y.isFinite then zero negative
  else ofFraction negative ⟨m.numerator * n.denominator, m.denominator * n.numerator⟩

instance : Add (Binary f) := ⟨add⟩
instance : Sub (Binary f) := ⟨fun x y => x.add y.neg⟩
instance : Mul (Binary f) := ⟨mul⟩
instance : Div (Binary f) := ⟨div⟩

/-- Whether a number is less than another one. -/
def lt (x y : Binary f) : Bool :=
  let difference := y - x
  difference.isNumber && !difference.negative && !difference.isZero

/-- The shortest decimal that reads back as the magnitude of a number. -/
def digits (tie : Tie) (x : Binary f) : Digits :=
  if x.isZero then ⟨0, 0⟩
  else shortest tie x.mantissa x.exponent
    (x.mantissa = leastFull f && f.leastExponent < x.exponent)

end Binary

end ScopedStyles.Decimal
