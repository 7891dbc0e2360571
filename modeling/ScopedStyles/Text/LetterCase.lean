import ScopedStyles.Text.LetterCase.Runs
/-!
# Letter case

Capital and small letters of all scripts and the mappings between them. A mapping may give several
characters. Lowercasing a whole text writes a final capital sigma as `ς` and every other one as
`σ`; no other mapping looks at the neighbours of a character.
-/

namespace ScopedStyles.Text

open LetterCase

/-- Capital letters, including letter-like signs such as `Ⓐ`. -/
def isUppercase (c : Char) : Bool :=
  if c.toNat < 0x80 then c.isUpper else inRuns uppercaseRuns c.toNat

/-- Small letters, including letter-like signs such as `ª`. -/
def isLowercase (c : Char) : Bool :=
  if c.toNat < 0x80 then c.isLower else inRuns lowercaseRuns c.toNat

/-- Characters that have a case: capital, small or titlecase. -/
def isCased (c : Char) : Bool :=
  isUppercase c || isLowercase c || inRuns titlecaseRuns c.toNat

/-- Characters that a search for a cased neighbour passes over. -/
def isCaseIgnorable (c : Char) : Bool :=
  inRuns caseIgnorableRuns c.toNat

namespace LetterCase

/-- The code point that the first run holding `n` maps it to, or `n` itself. -/
def shifted (runs : List ShiftRun) (n : Nat) : Nat :=
  match runs.find? (·.run.contains n) with
  | some r => (n + r.shift).toNat
  | none => n

end LetterCase

/-- The lowercase form of a character, without regard to its neighbours. -/
def lowerChar (c : Char) : List Char :=
  if c.toNat < 0x80 then [c.toLower]
  else if c = 'İ' then ['i', '\u0307']
  else [Char.ofNat (shifted lowerShifts c.toNat)]

/-- The uppercase form of a character. -/
def upperChar (c : Char) : List Char :=
  if c.toNat < 0x80 then [c.toUpper]
  else match upperSequences.lookup c.toNat with
    | some seq => seq.map Char.ofNat
    | none => [Char.ofNat (shifted upperShifts c.toNat)]

/-- Whether the first character that is not passed over has a case. -/
def startsCased (cs : List Char) : Bool :=
  ((cs.dropWhile isCaseIgnorable).head?.map isCased).getD false

/-- Lowercases a text whose earlier part, nearest character first, is `before`. -/
def lowercaseAfter (before : List Char) : List Char → List Char
  | [] => []
  | c :: cs =>
    let lowered :=
      if c = 'Σ' then [if startsCased before && !startsCased cs then 'ς' else 'σ'] else lowerChar c
    lowered ++ lowercaseAfter (c :: before) cs

/-- The lowercase form of a text. -/
def lowercase (cs : List Char) : List Char :=
  lowercaseAfter [] cs

end ScopedStyles.Text
