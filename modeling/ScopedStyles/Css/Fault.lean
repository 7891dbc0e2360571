import ScopedStyles.Css.Node
/-!
# Faults of stylesheets

What is wrong with a stylesheet, and where. A place is named by its line, counted from zero, and its
column, counted from one in units of UTF-16.
-/

namespace ScopedStyles.Css

/-- What is wrong with a stylesheet. -/
inductive Reason where
  | unexpectedEnd
  | emptySelector
  | danglingCombinator
  | classWithoutName (found : Token)
  | pseudoWithoutName (found : Token)
  | unexpectedToken (found : Token)
  /-- Brackets in more brackets than allowed. -/
  | tooDeep
  /-- A rule that starts as a custom property does. -/
  | invalidRule
  | ambiguousScope
  | misplacedComposes
  | nestedComposes
  deriving DecidableEq, Repr

/-- The wording of a reason. -/
def Reason.message : Reason → String
  | unexpectedEnd => "Unexpected end of input"
  | emptySelector => "Invalid empty selector"
  | danglingCombinator => "Invalid dangling combinator in selector"
  | classWithoutName found => s!"Expected identifier in class selector, got {found.message}"
  | pseudoWithoutName found => s!"Invalid token in pseudo element: {found.message}"
  | unexpectedToken found => s!"Unexpected token {found.message}"
  | tooDeep => "Overflowed the maximum nesting depth"
  | invalidRule => "Invalid qualified rule"
  | ambiguousScope => "Ambiguous CSS module class not supported"
  | misplacedComposes =>
    "The \x60composes\x60 property cannot be used with a simple class selector"
  | nestedComposes => "The \x60composes\x60 property cannot be used within nested rules"

/-- A reason, and the characters before the place that it is about. -/
structure Fault where
  reason : Reason
  offset : Nat
  deriving DecidableEq, Repr

/-- A line and a column. -/
structure Place where
  line : Nat := 0
  column : Nat := 1
  deriving DecidableEq, Repr

/-- The place right behind a text that starts at a place. -/
def Place.advance (p : Place) : List Char → Place
  | [] => p
  | '\r' :: '\n' :: cs => advance { line := p.line + 1 } cs
  | c :: cs =>
    if isNewline c then advance { line := p.line + 1 } cs
    else advance { p with column := p.column + if c.toNat < 0x10000 then 1 else 2 } cs

/-- The wording of a fault in a file with a given text. -/
def Fault.message (f : Fault) (filename : String) (text : List Char) : String :=
  let p := Place.advance {} (text.take f.offset)
  s!"{f.reason.message} at {filename}:{p.line}:{p.column}"

/-- How many brackets can be open at once in a value. -/
def maxDepth : Nat := 500

/-- What is wrong with nodes that nobody looks into, `depth` brackets deep. -/
def bracketsFault? (depth : Nat) : List Node → Option Fault
  | [] => none
  | .leaf l :: rest =>
    if l.token.isRefused then some ⟨.unexpectedToken l.token, l.start⟩
    else bracketsFault? depth rest
  | .block head inner _ :: rest =>
    if depth = maxDepth then some ⟨.tooDeep, head.stop⟩
    else (bracketsFault? (depth + 1) inner).or (bracketsFault? depth rest)

end ScopedStyles.Css
