import ScopedStyles.Json.Fault
import ScopedStyles.Text.Utf8
/-!
# JSON strings

Strings as JSON writes them: between quotes, with escapes. `encode` escapes quotes, backslashes and
control characters. What stands behind an opening quote is a `Literal`, whose escapes of four digits
are units of UTF-16; `read` pairs the surrogates among them and refuses the others, `skip` does not
look at them.
-/

namespace ScopedStyles.Json

/-- A control character, quote or backslash as its escape, and any other character as itself. -/
def escape (c : Char) : List Char :=
  if c = '"' then ['\\', '"']
  else if c = '\\' then ['\\', '\\']
  else if c = '\x08' then ['\\', 'b']
  else if c = '\x0c' then ['\\', 'f']
  else if c = '\n' then ['\\', 'n']
  else if c = '\r' then ['\\', 'r']
  else if c = '\t' then ['\\', 't']
  else if c.toNat < 0x20 then
    ['\\', 'u', '0', '0', Nat.digitChar (c.toNat / 16), Nat.digitChar (c.toNat % 16)]
  else [c]

/-- A text as a JSON string. -/
def encode (s : List Char) : List Char :=
  '"' :: (s.flatMap escape ++ ['"'])

/-- The text behind an opening quote: its characters and units of UTF-16 up to the closing quote and
what follows that, or up to the fault that keeps it from being closed. -/
inductive Literal where
  | close (rest : List Char)
  | fault (f : Fault)
  | char (c : Char) (next : Literal)
  | unit (n : Nat) (next : Literal)

namespace Literal

/-- The value of four hexadecimal digits. -/
def unit? (a b c d : Char) : Option Nat :=
  let digits := [a, b, c, d]
  if digits.all fun c => (Text.hexValue? c).isSome then some (Text.hexNumber digits) else none

/-- The character of an escape of one letter. -/
def unescape? (c : Char) : Option Char :=
  match c with
  | '"' => some '"'
  | '\\' => some '\\'
  | '/' => some '/'
  | 'b' => some '\x08'
  | 'f' => some '\x0c'
  | 'n' => some '\n'
  | 'r' => some '\r'
  | 't' => some '\t'
  | _ => none

/-- Why no four digits stand at the start of a text: it ends within four bytes, or has others. -/
def missingUnit (s : List Char) : Fault :=
  if Text.Utf8.size s < 4 then .unexpectedEnd else .malformed

/-- The literal behind an opening quote. -/
def ofText : List Char → Literal
  | [] => fault .unexpectedEnd
  | '"' :: rest => close rest
  | '\\' :: escaped =>
    match escaped with
    | [] => fault .unexpectedEnd
    | 'u' :: digits =>
      match digits with
      | a :: b :: c :: d :: rest =>
        match unit? a b c d with
        | some n => unit n (ofText rest)
        | none => fault (missingUnit digits)
      | _ => fault (missingUnit digits)
    | c :: rest =>
      match unescape? c with
      | some c => char c (ofText rest)
      | none => fault .malformed
  | c :: rest => if c.toNat < 0x20 then fault .malformed else char c (ofText rest)

/-- The first units of pairs. -/
def isLeading (n : Nat) : Bool :=
  0xD800 ≤ n && n ≤ 0xDBFF

/-- The second units of pairs. -/
def isTrailing (n : Nat) : Bool :=
  0xDC00 ≤ n && n ≤ 0xDFFF

/-- The character of a pair. -/
def pair (n m : Nat) : Char :=
  Char.ofNat ((n - 0xD800) * 0x400 + (m - 0xDC00) + 0x10000)

/-- The text of a literal and what follows it. -/
def read : Literal → Except Fault (List Char × List Char)
  | close rest => .ok ([], rest)
  | fault f => .error f
  | char c next => do
    let (s, rest) ← read next
    return (c :: s, rest)
  | unit n next =>
    if isTrailing n then .error .malformed
    else if isLeading n then
      match next with
      | unit m next =>
        if isTrailing m then do
          let (s, rest) ← read next
          return (pair n m :: s, rest)
        else .error .malformed
      | fault f => .error f
      | _ => .error .malformed
    else do
      let (s, rest) ← read next
      return (Char.ofNat n :: s, rest)

/-- What follows a literal. -/
def skip : Literal → Except Fault (List Char)
  | close rest => .ok rest
  | fault f => .error f
  | char _ next => skip next
  | unit _ next => skip next

end Literal

/-- Reads a string behind its opening quote. -/
def string : Reader String := fun s => do
  let (text, rest) ← (Literal.ofText s).read
  return (String.ofList text, rest)

end ScopedStyles.Json
