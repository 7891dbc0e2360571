import ScopedStyles.Decimal.Layout
import ScopedStyles.Json.Fault
/-!
# JSON numbers

Numbers are read for the messages that name them, and skipped elsewhere. Without a point or an
exponent a number of at most 64 bits is an integer. All others are floating-point numbers: as many
leading digits as fit into 64 bits are taken, and the result is multiplied or divided by a power of
ten.
-/

namespace ScopedStyles.Json.Number

open Decimal (Binary Double)

/-- The largest integer of 64 bits. -/
def maxUnsigned : Nat := Nat.pow 2 64 - 1

/-- The magnitude of the least negative integer of 64 bits. -/
def maxNegative : Nat := Nat.pow 2 63

/-- The value of a digit. -/
def digitValue (c : Char) : Nat :=
  c.toNat - 0x30

/-- Appends digits to a number as long as it fits into 64 bits. Gives the digits left over, too. -/
def accumulate (n : Nat) : List Char → Nat × List Char
  | [] => (n, [])
  | c :: cs =>
    if maxUnsigned < n * 10 + digitValue c then (n, c :: cs)
    else accumulate (n * 10 + digitValue c) cs

/-- The value of digits. -/
def value (digits : List Char) : Nat :=
  digits.foldl (fun n c => n * 10 + digitValue c) 0

/-- The digits at the start of a text and what follows them. -/
def digits (s : List Char) : List Char × List Char :=
  (s.takeWhile Char.isDigit, s.dropWhile Char.isDigit)

/-- Powers of ten that a floating-point number is scaled by at once. -/
def maxPower : Nat := 308

/-- Divides by a power of ten, in steps of `10 ^ maxPower`. Three steps leave nothing of any number
of 64 bits. -/
def divide (x : Double) (steps n : Nat) : Double :=
  match steps with
  | 0 => x
  | steps + 1 =>
    if n ≤ maxPower then x / .powerOfTen n
    else divide (x / .powerOfTen maxPower) steps (n - maxPower)

/-- `significand * 10 ^ exponent`, unless it is out of range. -/
def scale? (significand : Nat) (exponent : Int) : Option Double :=
  let x : Double := .ofNat significand
  if exponent < 0 then some (divide x 4 exponent.natAbs)
  else if significand = 0 then some x
  else if maxPower < exponent then none
  else
    let y := x * .powerOfTen exponent
    if y.isFinite then some y else none

/-- A number has a power of ten from `10 ^ 16` on and below `10 ^ -5`. A whole number keeps a point
and a zero, and an exponent its sign. -/
def layout : Decimal.Layout :=
  { least := -5, greatest := 16, tie := .even, fraction := true, exponentSign := true }

/-- The shortest text of a floating-point number. -/
def floatText (x : Double) : String :=
  String.ofList ((if x.negative then ['-'] else []) ++ layout.number x)

/-- A floating-point number with its sign, as messages show it. -/
def signed (negative : Bool) (x : Option Double) : Except Fault Found :=
  match x with
  | some x => .ok (.decimal (floatText (if negative then x.neg else x)))
  | none => .error .malformed

/-- An integer, or a floating-point number if it does not fit into 64 bits. Minus zero is a
floating-point number. -/
def whole (negative : Bool) (n : Nat) : Found :=
  if !negative then .integer n
  else if n = 0 ∨ maxNegative < n then .decimal (floatText (Binary.ofNat n).neg)
  else .integer (-n)

/-- The exponent behind its letter, if one stands there. -/
def exponent : Reader (Option Int) := fun s =>
  match s with
  | c :: rest =>
    if c = 'e' ∨ c = 'E' then
      let (negative, rest) := match rest with
        | '+' :: rest => (false, rest)
        | '-' :: rest => (true, rest)
        | rest => (false, rest)
      match digits rest with
      | ([], []) => .error .unexpectedEnd
      | ([], _) => .error .malformed
      | (ds, rest) => .ok (some (if negative then -value ds else value ds), rest)
    else .ok (none, s)
  | [] => .ok (none, s)

/-- The digits behind a point, if one stands there. -/
def fraction : Reader (Option (List Char)) := fun s =>
  match s with
  | '.' :: rest =>
    match digits rest with
    | ([], []) => .error .unexpectedEnd
    | ([], _) => .error .malformed
    | (ds, rest) => .ok (some ds, rest)
  | _ => .ok (none, s)

/-- The digits in front of a point. A zero stands alone. -/
def integral : Reader (List Char) := fun s =>
  match digits s with
  | ([], []) => .error .unexpectedEnd
  | ([], _) => .error .malformed
  | (['0'], rest) => .ok (['0'], rest)
  | ('0' :: _, _) => .error .malformed
  | (ds, rest) => .ok (ds, rest)

/-- Reads a number behind its sign. -/
def read (negative : Bool) : Reader Found := fun s => do
  let (whole', s) ← integral s
  let (fraction, s) ← fraction s
  let (exponent, s) ← exponent s
  let (n, left) := accumulate 0 whole'
  let found ← match fraction, exponent with
    | none, none =>
      if left.isEmpty then .ok (whole negative n) else signed negative (scale? n left.length)
    | _, _ =>
      let (m, unused) := accumulate n (fraction.getD [])
      let places := (fraction.getD []).length - unused.length
      signed negative (scale? m (left.length - places + exponent.getD 0))
  return (found, s)

/-- Passes over a number behind its sign. Whatever keeps it from being one makes it malformed. -/
def skip (s : List Char) : Except Fault (List Char) :=
  let passed := do
    let (_, s) ← integral s
    let (_, s) ← fraction s
    let (_, s) ← exponent s
    return s
  passed.mapError fun _ => .malformed

end ScopedStyles.Json.Number
