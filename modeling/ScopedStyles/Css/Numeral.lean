import ScopedStyles.Css.Name
import ScopedStyles.Decimal.Layout
/-!
# Numbers in stylesheets

A number is digits with an optional sign, point and exponent. It is read digit by digit in double
precision and kept in single precision, with whether it has a sign and whether it is written as an
integer. Six digits are shown, and all of an integer in front of a unit.
-/

namespace ScopedStyles.Css

open Decimal (Binary Double Single)

/-- A number of a stylesheet. -/
structure Numeral where
  /-- Whether it is written with a sign. -/
  signed : Bool
  value : Single
  /-- The number as an integer, if it has neither a point nor an exponent. -/
  whole? : Option Int
  deriving DecidableEq, Repr

namespace Numeral

/-- Whether a number without a sign stands at the start of a text: digits, or a point with digits
behind it. -/
def startsUnsigned : List Char → Bool
  | '.' :: c :: _ => c.isDigit
  | c :: _ => c.isDigit
  | [] => false

/-- The digits behind a point, if one stands there, and what follows. -/
def readFraction : List Char → List Char × List Char
  | '.' :: c :: cs =>
    if c.isDigit then ((c :: cs).takeWhile Char.isDigit, (c :: cs).dropWhile Char.isDigit)
    else ([], '.' :: c :: cs)
  | s => ([], s)

/-- The sign at the start of a text, if one stands there, and what follows. -/
def readSign : List Char → Option Char × List Char
  | '+' :: cs => (some '+', cs)
  | '-' :: cs => (some '-', cs)
  | s => (none, s)

/-- The exponent behind its letter, if one stands there, and what follows. -/
def readExponent (s : List Char) : Option Int × List Char :=
  match s with
  | [] => (none, [])
  | c :: cs =>
    let (sign, rest) := readSign cs
    if (c = 'e' ∨ c = 'E') ∧ rest.head?.any Char.isDigit then
      let n : Int := Nat.ofDigitChars 10 (rest.takeWhile Char.isDigit) 0
      (some (if sign = some '-' then -n else n), rest.dropWhile Char.isDigit)
    else (none, c :: cs)

/-- A number without its sign as it stands: digits in front of the point and behind it, and an
exponent. -/
structure Reading where
  digits : List Char
  fraction : List Char
  exponent : Option Int

/-- Reads a number without a sign. -/
def readUnsigned (s : List Char) : Reading × List Char :=
  let (fraction, rest) := readFraction (s.dropWhile Char.isDigit)
  let (exponent, rest) := readExponent rest
  ({ digits := s.takeWhile Char.isDigit, fraction, exponent }, rest)

/-- The value of a digit. -/
def digitValue (c : Char) : Double :=
  .ofNat (c.toNat - '0'.toNat)

/-- The value of digits in front of a point. -/
def valueBefore (digits : List Char) : Double :=
  digits.foldl (fun x c => x * .ofNat 10 + digitValue c) (.zero false)

/-- The value of digits behind a point. The unit of each is a tenth of the one before. -/
def valueBehind (digits : List Char) : Double :=
  let tenth : Double := .ofRatio 1 10
  let step : Double × Double → Char → Double × Double := fun (x, unit) c =>
    (x + digitValue c * unit, unit * tenth)
  (digits.foldl step (.zero false, tenth)).1

/-- The value of a number. -/
def Reading.value (r : Reading) : Double :=
  let x := valueBefore r.digits + valueBehind r.fraction
  match r.exponent with
  | some e => x * .powerOfTen e
  | none => x

/-- A number without a point and without an exponent, as an integer. -/
def Reading.whole? (r : Reading) : Option Nat :=
  if r.fraction.isEmpty && r.exponent.isNone then some (Nat.ofDigitChars 10 r.digits 0) else none

/-- An integer within the range of 32 bits. -/
def clamp (n : Int) : Int :=
  max (-2147483648) (min 2147483647 n)

/-- The number of a reading with a sign. It counts parts, `parts` of which are one. -/
def ofReading (sign : Option Char) (parts : Nat) (r : Reading) : Numeral :=
  let negative : Bool := sign = some '-'
  let x := r.value / .ofNat parts
  { signed := sign.isSome
    value := (if negative then x.neg else x).convert
    whole? := r.whole?.map fun n => clamp (if negative then -n else n) }

/-- Six digits at most are shown, and a power of ten from `10 ^ 21` on and below `10 ^ -6`. -/
def layout : Decimal.Layout :=
  { least := -6, greatest := 21, tie := .up, places := 6, fraction := false }

/-- How messages lay out numbers. -/
def messageLayout : Decimal.Layout :=
  { least := -4, greatest := 16, tie := .up, fraction := true }

/-- The digits of a number with its sign. -/
def withSign (x : Single) (digits : List Char) : List Char :=
  if x.negative then '-' :: digits else digits

/-- An integer. -/
def integerText (n : Int) : List Char :=
  if n < 0 then '-' :: Nat.toDigits 10 n.natAbs else Nat.toDigits 10 n.natAbs

/-- A number as it is written on its own. The zero in front of a point is left out. -/
def text (x : Single) : List Char :=
  let digits := layout.number x
  if x.isZero then ['0']
  else withSign x (if x.isBelow 1 1 then digits.dropWhile (· = '0') else digits)

/-- A number as it is written in front of a unit. A whole number has all its digits, within the
range of 32 bits. -/
def unitText (x : Single) : List Char :=
  if x.isZero then withSign x ['0']
  else if x.isWhole then integerText (clamp x.truncate)
  else text x

/-- A number as a token: a sign is kept, an integer has all its digits, and any other number has a
point or a power of ten. -/
def tokenText (n : Numeral) (x : Single) : List Char :=
  if x.isZero && x.negative then ['-', '0']
  else
    let plus := if n.signed && x.isNumber && !x.negative then ['+'] else []
    let digits := layout.number x
    let bare := x.isWhole && digits.all fun c => c ≠ '.' ∧ c ≠ 'e'
    match n.whole? with
    | some i => plus ++ integerText i
    | none => plus ++ withSign x digits ++ if bare then ['.', '0'] else []

/-- The wording of what makes up a number, in messages. -/
def message (n : Numeral) (name : String) : String :=
  let digits :=
    if n.value.isFinite then messageLayout.number n.value
    else if n.value.isNumber then ['i', 'n', 'f']
    else ['N', 'a', 'N']
  let value := String.ofList (withSign n.value digits)
  let whole := match n.whole? with
    | some i => s!"Some({i})"
    | none => "None"
  s!"has_sign: {n.signed}, {name}: {value}, int_value: {whole}"

theorem length_dropWhile_le (p : Char → Bool) (s : List Char) :
    (s.dropWhile p).length ≤ s.length :=
  (List.dropWhile_suffix p).length_le

theorem length_readFraction_le (s : List Char) : (readFraction s).2.length ≤ s.length := by
  unfold readFraction
  split
  · split
    · exact Nat.le_trans (length_dropWhile_le _ _) (Nat.le_succ _)
    · exact Nat.le_refl _
  · exact Nat.le_refl _

theorem length_readSign_le (s : List Char) : (readSign s).2.length ≤ s.length := by
  unfold readSign
  split <;> simp

theorem length_readExponent_le (s : List Char) : (readExponent s).2.length ≤ s.length := by
  unfold readExponent
  split
  · simp
  · next c cs =>
    dsimp only
    split
    · exact Nat.le_trans (length_dropWhile_le _ _)
        (Nat.le_trans (length_readSign_le cs) (Nat.le_succ _))
    · exact Nat.le_refl _

/-- A number has at least one character. -/
theorem length_readUnsigned_le (c : Char) (cs : List Char) (h : startsUnsigned (c :: cs)) :
    (readUnsigned (c :: cs)).2.length ≤ cs.length := by
  refine Nat.le_trans (length_readExponent_le _) ?_
  by_cases hc : c.isDigit
  · refine Nat.le_trans (length_readFraction_le _) ?_
    rw [List.dropWhile_cons_of_pos hc]
    exact length_dropWhile_le _ cs
  · rw [List.dropWhile_cons_of_neg hc]
    unfold startsUnsigned at h
    split at h
    · next d rest heq =>
      obtain ⟨rfl, rfl⟩ := List.cons.inj heq
      simp only [h, if_true]
      exact length_dropWhile_le _ _
    · next heq =>
      obtain ⟨rfl, rfl⟩ := List.cons.inj heq
      exact absurd h hc
    · contradiction

end Numeral

end ScopedStyles.Css
