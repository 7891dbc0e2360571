import ScopedStyles.Text.Hex
import ScopedStyles.Text.Printable
/-!
# Quoting texts in messages

A message shows a text between quotes, with what would not show as itself written as an escape.
-/

namespace ScopedStyles.Text

/-- A character as messages show it. -/
def showChar (c : Char) : List Char :=
  if c = '"' || c = '\\' then ['\\', c]
  else if c = '\n' then ['\\', 'n']
  else if c = '\r' then ['\\', 'r']
  else if c = '\t' then ['\\', 't']
  else if c = '\x00' then ['\\', '0']
  else if isPrintable c && !isGraphemeExtend c then [c]
  else ['\\', 'u', '\x7b'] ++ hexDigits c.toNat ++ ['\x7d']

/-- A text as messages show it. -/
def quote (s : String) : String :=
  String.ofList ('"' :: s.toList.flatMap showChar ++ ['"'])

end ScopedStyles.Text
