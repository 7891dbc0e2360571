/-!
# Hexadecimal digits

Numbers in base 16, as escapes write and read them.
-/

namespace ScopedStyles.Text

/-- The hexadecimal digits of a number, in small letters. -/
def hexDigits (n : Nat) : List Char :=
  Nat.toDigits 16 n

/-- The value of a hexadecimal digit, in small or capital letters. -/
def hexValue? (c : Char) : Option Nat :=
  let n := c.toNat
  if 0x30 ≤ n ∧ n ≤ 0x39 then some (n - 0x30)
  else if 0x41 ≤ n ∧ n ≤ 0x46 then some (n - 0x37)
  else if 0x61 ≤ n ∧ n ≤ 0x66 then some (n - 0x57)
  else none

/-- The number that digits spell, where a character that is no digit counts as zero. -/
def hexNumber (digits : List Char) : Nat :=
  digits.foldl (fun n c => n * 16 + (hexValue? c).getD 0) 0

end ScopedStyles.Text
