import ScopedStyles.Text.Quote
/-!
# Faults of JSON texts

Why a text is not read: it ends too early, it is no JSON, or it is JSON of the wrong shape. Only a
mismatch has a wording.
-/

namespace ScopedStyles.Json

/-- What stands where something else was expected. -/
inductive Found where
  | null
  | boolean (b : Bool)
  | integer (n : Int)
  /-- A number with a point or an exponent, as messages show it. -/
  | decimal (digits : String)
  | string (s : String)
  | sequence
  | map
  deriving DecidableEq, Repr

/-- The wording of what was found. -/
def Found.message : Found → String
  | null => "null"
  | boolean b => s!"boolean \x60{b}\x60"
  | integer n => s!"integer \x60{n}\x60"
  | decimal digits => s!"floating point \x60{digits}\x60"
  | string s => "string " ++ Text.quote s
  | sequence => "sequence"
  | map => "map"

/-- JSON that does not have the expected shape. -/
inductive Mismatch where
  | wrongType (found : Found) (expected : String)
  | unknownVariant (name : String) (first second : String)
  | duplicateField (name : String)
  deriving DecidableEq, Repr

/-- The wording of a mismatch. -/
def Mismatch.message : Mismatch → String
  | wrongType found expected => s!"invalid type: {found.message}, expected {expected}"
  | unknownVariant name first second =>
    s!"unknown variant \x60{name}\x60, expected \x60{first}\x60 or \x60{second}\x60"
  | duplicateField name => s!"duplicate field \x60{name}\x60"

/-- Why a text is not read. -/
inductive Fault where
  /-- The text ends inside of a value or before it. -/
  | unexpectedEnd
  /-- The text is no JSON, or a number of it is out of range. -/
  | malformed
  | mismatch (m : Mismatch)
  deriving DecidableEq, Repr

/-- A reading step: the value at the start of a text and what follows it. -/
abbrev Reader (α : Type) := List Char → Except Fault (α × List Char)

/-- White space between the parts of a text. -/
def isBlank (c : Char) : Bool :=
  c == ' ' || c == '\n' || c == '\t' || c == '\r'

/-- A text without the blanks at its start. -/
def skipBlank (s : List Char) : List Char :=
  s.dropWhile isBlank

/-- Reads a given word. -/
def word (expected : List Char) : Reader Unit := fun s =>
  match expected, s with
  | [], s => .ok ((), s)
  | _ :: _, [] => .error .unexpectedEnd
  | e :: es, c :: cs => if e = c then word es cs else .error .malformed

end ScopedStyles.Json
