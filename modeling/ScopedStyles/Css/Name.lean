import ScopedStyles.Text.Quote
/-!
# Names in stylesheets

A name is letters, digits, `-`, `_` and characters above ASCII; any other character can be part of
it as an escape, which is a backslash with the character or with its code. A name that would start
like a number is written with an escape, too.
-/

namespace ScopedStyles.Css

/-- The ends of lines. -/
def isNewline (c : Char) : Bool :=
  c == '\n' || c == '\r' || c == '\x0c'

/-- White space between the tokens of a stylesheet. -/
def isBlank (c : Char) : Bool :=
  c == ' ' || c == '\t' || isNewline c

/-- Characters that a name can start with. -/
def isNameStart (c : Char) : Bool :=
  c.isAlpha || c == '_' || 0x80 ≤ c.toNat || c == '\x00'

/-- Characters that a name can go on with. -/
def isNameChar (c : Char) : Bool :=
  isNameStart c || c.isDigit || c == '-'

/-- A name in small letters. Letters above ASCII stay as they are. -/
def lower (name : List Char) : List Char :=
  name.map Char.toLower

/-- Names that start with `--`. -/
def isDashed (name : List Char) : Bool :=
  ['-', '-'].isPrefixOf name

/-- Words that every property understands, so that they are no names. -/
def isReserved (name : List Char) : Bool :=
  ["default", "inherit", "initial", "revert", "revert-layer", "unset"].contains
    (String.ofList (lower name))

/-- Words that are no animations, unless they stand between quotes. -/
def isNoAnimation (name : List Char) : Bool :=
  isReserved name || lower name = "none".toList

/-- A character as its code in an escape, which a space ends. -/
def codeEscape (c : Char) : List Char :=
  '\\' :: (Text.hexDigits c.toNat ++ [' '])

/-- A character of a name as it is written. -/
def escapeChar (c : Char) : List Char :=
  if c = '\x00' then ['\ufffd']
  else if isNameChar c then [c]
  else if c.toNat < 0x20 || c = '\x7f' then codeEscape c
  else ['\\', c]

/-- The later part of a name as it is written. -/
def writeNamePart (name : List Char) : List Char :=
  name.flatMap escapeChar

/-- A name without a hyphen in front, as it is written. -/
def writeUnhyphenated : List Char → List Char
  | [] => []
  | c :: cs => (if c.isDigit then codeEscape c else escapeChar c) ++ writeNamePart cs

/-- A whole name as it is written. -/
def writeName (name : List Char) : List Char :=
  match name with
  | ['-'] => ['\\', '-']
  | '-' :: '-' :: _ => writeNamePart name
  | '-' :: rest => '-' :: writeUnhyphenated rest
  | name => writeUnhyphenated name

/-- Whether an escape stands at the start of a text. The end of the text can be escaped, too. -/
def startsEscape : List Char → Bool
  | '\\' :: rest => !rest.head?.any isNewline
  | _ => false

/-- Whether a name stands at the start of a text. Behind a hyphen any backslash counts: one that is
no escape leaves the hyphen alone as the name. -/
def startsName : List Char → Bool
  | '-' :: rest => rest.head?.any fun c => isNameStart c || c == '-' || c == '\\'
  | c :: rest => isNameStart c || startsEscape (c :: rest)
  | [] => false

/-- A code as a character, where the replacement character stands for codes without one. -/
def charOfCode (n : Nat) : Char :=
  if n = 0 || !n.isValidChar then '\ufffd' else Char.ofNat n

/-- Drops the white space that ends the code of an escape. -/
def dropOneBlank : List Char → List Char
  | '\r' :: '\n' :: rest => rest
  | c :: rest => if isBlank c then rest else c :: rest
  | [] => []

/-- Reads an escape behind its backslash. -/
def readEscape (s : List Char) : Char × List Char :=
  let code := (s.take 6).takeWhile fun c => (Text.hexValue? c).isSome
  match s, code with
  | [], _ => ('\ufffd', [])
  | c :: rest, [] => (c, rest)
  | s, code =>
    (charOfCode (Text.hexNumber code), dropOneBlank (s.drop code.length))

theorem length_dropOneBlank_le (s : List Char) : (dropOneBlank s).length ≤ s.length := by
  unfold dropOneBlank
  split
  · simp only [List.length_cons]
    omega
  · split <;> simp
  · simp

theorem length_readEscape_le (s : List Char) : (readEscape s).2.length ≤ s.length := by
  unfold readEscape
  dsimp only
  split
  · simp
  · simp
  · exact Nat.le_trans (length_dropOneBlank_le _) (by simp)

/-- A character of a name as it is read. -/
def keepChar (c : Char) : Char :=
  if c = '\x00' then '\ufffd' else c

/-- Reads the rest of a name. -/
def readNamePart (s : List Char) : List Char × List Char :=
  match s with
  | [] => ([], [])
  | c :: cs =>
    if isNameChar c then
      let (name, rest) := readNamePart cs
      (keepChar c :: name, rest)
    else if startsEscape (c :: cs) then
      let escaped := readEscape cs
      let (name, rest) := readNamePart escaped.2
      (escaped.1 :: name, rest)
    else ([], c :: cs)
termination_by s.length
decreasing_by
  · simp
  · exact Nat.lt_succ_of_le (length_readEscape_le cs)

theorem length_readNamePart_le (s : List Char) : (readNamePart s).2.length ≤ s.length := by
  fun_induction readNamePart s with
  | case1 => simp
  | case2 c cs _ name rest h ih =>
    simp only [h] at ih
    simp only [List.length_cons]
    omega
  | case3 c cs _ _ escaped name rest h ih =>
    simp only [h] at ih
    have : escaped.2.length ≤ cs.length := length_readEscape_le cs
    simp only [List.length_cons]
    omega
  | case4 => simp

/-- Reads the name at the start of the text `c :: cs`. -/
def readName (c : Char) (cs : List Char) : List Char × List Char :=
  if isNameChar c then
    let (name, rest) := readNamePart cs
    (keepChar c :: name, rest)
  else
    let (first, rest) := readEscape cs
    let (name, rest) := readNamePart rest
    (first :: name, rest)

theorem length_readName_le (c : Char) (cs : List Char) : (readName c cs).2.length ≤ cs.length := by
  unfold readName
  split
  · exact length_readNamePart_le cs
  · exact Nat.le_trans (length_readNamePart_le _) (length_readEscape_le cs)

end ScopedStyles.Css
