import ScopedStyles.NameMap
import ScopedStyles.Text.Alphabetic
import ScopedStyles.Text.Blank
import ScopedStyles.Text.LetterCase
/-!
# Export keys

Scripts read a stylesheet's class names as keys in camel case: `foo-bar`, `foo_bar` and `foo bar`
are all `fooBar`, a name in camel case keeps its words, and a run of capitals is one word
(`XMLHttpRequest` is `xmlHttpRequest`).

The conversion marks the word boundaries of mixed-case names with `-`, lowercases, raises the
character after each run of digits, and then raises the character after each run of separators
while it drops the run.
-/

namespace ScopedStyles.ExportKey

open Text

/-- Characters that only separate the words of a name. -/
def isSeparator (c : Char) : Bool :=
  c == '_' || c == '.' || c == '-' || c == ' '

/-- Characters that a run of digits or separators can raise. -/
def isWordChar (c : Char) : Bool :=
  isAlphanumeric c || c == '_'

/-- Where the search for word boundaries stands: the text so far, last character first, and the
case of its last two characters. -/
structure BoundaryScan where
  marked : List Char := []
  lastLower : Bool := false
  lastUpper : Bool := false
  secondLastUpper : Bool := false

/-- Takes one more character. A boundary lies before a capital that follows a small letter, and
before the last of several capitals when a small letter follows it. -/
def BoundaryScan.step (s : BoundaryScan) (c : Char) : BoundaryScan :=
  if s.lastLower && isUppercase c then
    { marked := c :: '-' :: s.marked, lastLower := false, lastUpper := true,
      secondLastUpper := s.lastUpper }
  else if s.lastUpper && s.secondLastUpper && isLowercase c then
    { marked := match s.marked with
        | last :: earlier => c :: last :: '-' :: earlier
        | [] => [c]
      lastLower := true, lastUpper := false, secondLastUpper := false }
  else
    { marked := c :: s.marked, lastLower := isLowercase c, lastUpper := isUppercase c,
      secondLastUpper := s.lastUpper }

/-- Writes `-` at the word boundaries of a name in mixed case. -/
def markBoundaries (cs : List Char) : List Char :=
  (cs.foldl BoundaryScan.step {}).marked.reverse

/-- Raises the character after each run of digits, unless `-` or `_` follows it, so that `2x-large`
keeps its `x`. `afterDigit` tells whether a digit stands right before the text. -/
def raiseAfterDigits (afterDigit : Bool) : List Char → List Char
  | [] => []
  | c :: cs =>
    if c.isDigit then c :: raiseAfterDigits true cs
    else if afterDigit && isWordChar c then
      (if cs.head? = some '-' || cs.head? = some '_' then [c] else upperChar c) ++
        raiseAfterDigits false cs
    else c :: raiseAfterDigits false cs

/-- What is left of a run of separators in front of a character that cannot be raised: `_` if the
run ends in one and is longer, else the run. -/
def keepSeparators (run : List Char) : List Char :=
  if run.length > 1 && run.getLast? = some '_' then ['_'] else run

/-- Replaces each run of separators by raising the character after it, and drops a run at the end.
`run` is the separators that stand right before the text. -/
def raiseAfterSeparators (run : List Char) : List Char → List Char
  | [] => []
  | c :: cs =>
    if isSeparator c then raiseAfterSeparators (run ++ [c]) cs
    else if run.isEmpty then c :: raiseAfterSeparators [] cs
    else if isWordChar c then upperChar c ++ raiseAfterSeparators [] cs
    else keepSeparators run ++ c :: raiseAfterSeparators [] cs

/-- The camel case form of a name without blanks at its ends. -/
def camelCaseTrimmed : List Char → List Char
  | [] => []
  | [c] => if isSeparator c then [] else lowerChar c
  | cs =>
    let split := if cs.any isUppercase then markBoundaries cs else cs
    raiseAfterSeparators [] (raiseAfterDigits false (lowercase (split.dropWhile isSeparator)))

/-- The camel case form of a class name. -/
def camelCase (name : String) : String :=
  String.ofList (camelCaseTrimmed (trim name.toList))

/-- Converts every name of a map. Of names with one key the last in order counts. -/
def camelCaseKeys {α : Type} (names : NameMap α) : NameMap α :=
  .ofList (names.entries.map fun e => (camelCase e.1, e.2))

end ScopedStyles.ExportKey
