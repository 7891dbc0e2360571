import ScopedStyles.Decimal.Binary
/-!
# Layouts of decimals

How a decimal is written: with a point among its digits, or with a power of ten behind them.
-/

namespace ScopedStyles.Decimal

/-- What a format decides about decimals. -/
structure Layout where
  /-- A number below `10 ^ least` is written with a power of ten. -/
  least : Int
  /-- A number from `10 ^ greatest` on is written with a power of ten. -/
  greatest : Int
  /-- Which of two equally near decimals is shown. -/
  tie : Tie
  /-- The most digits that are shown. -/
  places : Nat := maxDigits
  /-- Whether a whole number has a point and a zero behind its digits. -/
  fraction : Bool
  /-- Whether a positive exponent has a sign. -/
  exponentSign : Bool := false

namespace Layout

variable (l : Layout)

/-- An exponent with its letter. -/
def exponent (e : Int) : List Char :=
  let sign := if e < 0 then ['-'] else if l.exponentSign then ['+'] else []
  'e' :: (sign ++ Nat.toDigits 10 e.natAbs)

/-- A decimal without a power of ten. -/
def positional (d : Digits) : List Char :=
  let digits := Nat.toDigits 10 d.digits
  if 0 ≤ d.exponent then digits ++ List.replicate d.exponent.toNat '0'
  else if 0 < d.point then digits.take d.point.toNat ++ '.' :: digits.drop d.point.toNat
  else '0' :: '.' :: (List.replicate (-d.point).toNat '0' ++ digits)

/-- A decimal as it is written. The power of ten is that of all its digits, also where the digits
that are shown are rounded up to the next one. -/
def text (d : Digits) : List Char :=
  let shown := d.limit l.places
  if l.least < d.point ∧ d.point ≤ l.greatest then
    positional shown ++ if l.fraction && 0 ≤ shown.exponent then ['.', '0'] else []
  else
    let power := d.point - 1
    positional { shown with exponent := shown.exponent - power } ++ l.exponent power

/-- The magnitude of a floating-point number as it is written. -/
def number {f : Format} (x : Binary f) : List Char :=
  l.text (x.digits l.tie)

end Layout

end ScopedStyles.Decimal
