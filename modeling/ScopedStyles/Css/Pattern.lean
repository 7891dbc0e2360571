import ScopedStyles.Css.Name
import ScopedStyles.Text.Utf8
/-!
# Patterns of scoped names

A pattern tells how a scoped name is made: of text that stands for itself, of the name as written,
of the name of the file, and of the file's digest.
-/

namespace ScopedStyles.Css.Pattern

/-- A part of a pattern. -/
inductive Segment where
  | literal (text : List Char)
  /-- The name as written. -/
  | localName
  /-- The name of the file without its extension. -/
  | fileName
  /-- The digest of the file's path. -/
  | digest
  deriving DecidableEq, Repr

/-- Why a pattern is none. The index is counted in bytes. -/
inductive Error where
  | unknownPlaceholder (text : List Char) (index : Nat)
  | unclosedBrackets (index : Nat)
  deriving DecidableEq, Repr

/-- The wording of an error. -/
def Error.message : Error → String
  | unknownPlaceholder text index =>
    "Error parsing CSS modules pattern: " ++
      s!"unknown placeholder \"{String.ofList text}\" at index {index}"
  | unclosedBrackets index =>
    s!"Error parsing CSS modules pattern: unclosed brackets at index {index}"

/-- The part of a pattern that stands between brackets. -/
def placeholder? (name : List Char) : Option Segment :=
  if name = "local".toList then some .localName
  else if name = "name".toList then some .fileName
  else if name = "hash".toList then some .digest
  else none

/-- The bytes of a text. -/
def byteLength (text : List Char) : Nat :=
  Text.Utf8.size text

/-- The literal of some characters, last one first, if there are any. -/
def literals (text : List Char) : List Segment :=
  if text.isEmpty then [] else [.literal text.reverse]

/-- Reads a pattern whose first bytes, `index` of them, were read. `inside` is whether a bracket is
open, and `text` what was read since then or since it was closed, last character first. -/
def readFrom (index : Nat) (inside : Bool) (text : List Char) :
    List Char → Except Error (List Segment)
  | [] => if inside then .error (.unclosedBrackets index) else .ok (literals text)
  | c :: cs =>
    if inside then
      if c = ']' then
        match placeholder? text.reverse with
        | some segment => (segment :: ·) <$> readFrom (index + byteLength text + 2) false [] cs
        | none => .error (.unknownPlaceholder ('[' :: text.reverse ++ [']']) index)
      else readFrom index true (c :: text) cs
    else if c = '[' then
      (literals text ++ ·) <$> readFrom (index + byteLength text) true [] cs
    else readFrom index false (c :: text) cs

/-- The segments of a pattern. -/
def ofString (s : String) : Except Error (List Segment) :=
  readFrom 0 false [] s.toList

end ScopedStyles.Css.Pattern
