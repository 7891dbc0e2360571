import ScopedStyles.Css.Numeral
import ScopedStyles.Text.Quote
/-!
# Tokens of stylesheets

A stylesheet is cut into tokens, of which white space and comments are two kinds. Every token keeps
where it starts and ends, counted in characters, for the messages that name a place.
-/

namespace ScopedStyles.Css

/-- Brackets. -/
inductive Bracket where
  | round
  | square
  | curly
  deriving DecidableEq, Repr

/-- The opening character of a bracket. -/
def Bracket.opening : Bracket → Char
  | round => '('
  | square => '['
  | curly => '\x7b'

/-- The closing character of a bracket. -/
def Bracket.closing : Bracket → Char
  | round => ')'
  | square => ']'
  | curly => '\x7d'

/-- A token. -/
inductive Token where
  | name (s : List Char)
  /-- A name right before a round bracket, which belongs to it. -/
  | function (s : List Char)
  | atKeyword (s : List Char)
  /-- A name behind `#`. -/
  | idHash (s : List Char)
  /-- What stands behind `#` and is no name, though it has the characters of one. -/
  | hash (s : List Char)
  | string (s : List Char)
  /-- A string that a line feed ends. -/
  | badString (s : List Char)
  | number (n : Numeral)
  /-- A number of hundredths. Its integer is the number in front of the sign. -/
  | percentage (n : Numeral)
  | dimension (n : Numeral) (unit : List Char)
  /-- An address between round brackets, without quotes. -/
  | url (address : List Char)
  /-- What stands between the brackets of an address and is none. -/
  | badUrl (text : List Char)
  | blank (text : List Char)
  | comment (text : List Char)
  /-- `<!--`, which hides a stylesheet from old readers. -/
  | cdo
  /-- `-->`, which ends what `<!--` starts. -/
  | cdc
  /-- A character of `~|^$*` with an equals sign behind it. -/
  | matching (c : Char)
  | delim (c : Char)
  | opening (b : Bracket)
  | closing (b : Bracket)
  deriving DecidableEq, Repr

/-- A token where it stands. -/
structure Lexeme where
  token : Token
  start : Nat
  stop : Nat
  deriving DecidableEq, Repr

namespace Token

/-- The wording of a text in messages. -/
def quote (s : List Char) : String :=
  Text.quote (String.ofList s)

/-- The wording of a number in messages. -/
def numeric (kind content : String) : String :=
  kind ++ " \x7b " ++ content ++ " \x7d"

/-- The wording of a token in messages. -/
def message : Token → String
  | name s => s!"Ident({quote s})"
  | function s => s!"Function({quote s})"
  | atKeyword s => s!"AtKeyword({quote s})"
  | idHash s => s!"IDHash({quote s})"
  | hash s => s!"Hash({quote s})"
  | string s => s!"String({quote s})"
  | badString s => s!"BadString({quote s})"
  | number n => numeric "Number" (n.message "value")
  | percentage n => numeric "Percentage" (n.message "unit_value")
  | dimension n unit => numeric "Dimension" (n.message "value" ++ ", unit: " ++ quote unit)
  | url address => s!"UnquotedUrl({quote address})"
  | badUrl text => s!"BadUrl({quote text})"
  | blank text => s!"WhiteSpace({quote text})"
  | comment text => s!"Comment({quote text})"
  | cdo => "CDO"
  | cdc => "CDC"
  | matching '~' => "IncludeMatch"
  | matching '|' => "DashMatch"
  | matching '^' => "PrefixMatch"
  | matching '$' => "SuffixMatch"
  | matching _ => "SubstringMatch"
  | delim ':' => "Colon"
  | delim ';' => "Semicolon"
  | delim ',' => "Comma"
  | delim c => s!"Delim('{String.ofList (Text.showChar c)}')"
  | opening .round => "ParenthesisBlock"
  | opening .square => "SquareBracketBlock"
  | opening .curly => "CurlyBracketBlock"
  | closing .round => "CloseParenthesis"
  | closing .square => "CloseSquareBracket"
  | closing .curly => "CloseCurlyBracket"

/-- Whether a token is white space. -/
def isBlank : Token → Bool
  | blank _ => true
  | _ => false

/-- Whether a token is a comment. -/
def isComment : Token → Bool
  | comment _ => true
  | _ => false

/-- Whether a token is white space or a comment. -/
def isSpace (t : Token) : Bool :=
  t.isBlank || t.isComment

/-- Whether a token is a word, in small or capital letters. -/
def isWord (word : String) : Token → Bool
  | name s => lower s = word.toList
  | _ => false

/-- Whether a token stands nowhere by right. -/
def isRefused : Token → Bool
  | badString _ | badUrl _ | closing _ => true
  | _ => false

/-- The token that closes what a token opens. -/
def closer : Token → Token
  | opening b => closing b
  | _ => closing .round

/-- The text of a comment and what follows it, given the text behind its start. -/
def readComment : List Char → List Char × List Char
  | [] => ([], [])
  | '*' :: '/' :: rest => ([], rest)
  | c :: cs =>
    let (text, rest) := readComment cs
    (c :: text, rest)

/-- How the reading of a string ended. -/
inductive StringEnd where
  | closed
  | broken
  deriving DecidableEq

/-- The token of a string. -/
def ofString (text : List Char) : StringEnd → Token
  | .closed => string text
  | .broken => badString text

/-- A string's characters, how it ended, and what follows its closing quote. A string ends before a
line feed, unless a backslash stands before that. -/
def readString (quote : Char) (s : List Char) : List Char × StringEnd × List Char :=
  match s with
  | [] => ([], .closed, [])
  | c :: cs =>
    if c = quote then ([], .closed, cs)
    else if isNewline c then ([], .broken, c :: cs)
    else if c = '\\' then
      if cs.head?.all isNewline then readString quote (dropOneBlank cs)
      else
        let escaped := readEscape cs
        let (text, rest) := readString quote escaped.2
        (escaped.1 :: text, rest)
    else
      let (text, rest) := readString quote cs
      (keepChar c :: text, rest)
termination_by s.length
decreasing_by
  · exact Nat.lt_succ_of_le (length_dropOneBlank_le cs)
  · exact Nat.lt_succ_of_le (length_readEscape_le cs)
  · simp

/-- Whether a character can stand in no address. -/
def isUnprintable (c : Char) : Bool :=
  let n := c.toNat
  (1 ≤ n && n ≤ 8) || n = 0x0b || (0x0e ≤ n && n ≤ 0x1f) || n = 0x7f

/-- An address and what follows its closing bracket. Where it turns out to be none, there is only
what follows the character that tells so. -/
def readAddress (s : List Char) : Option (List Char) × List Char :=
  match s with
  | [] => (some [], [])
  | c :: cs =>
    if c = ')' then (some [], cs)
    else if Css.isBlank c then
      match cs.dropWhile Css.isBlank with
      | [] => (some [], [])
      | d :: rest => (if d = ')' then some [] else none, rest)
    else if c = '"' || c = '\'' || c = '(' || isUnprintable c then (none, cs)
    else if c = '\\' then
      if cs.head?.any isNewline then (none, cs)
      else
        let escaped := readEscape cs
        let (address, rest) := readAddress escaped.2
        (address.map (escaped.1 :: ·), rest)
    else
      let (address, rest) := readAddress cs
      (address.map (keepChar c :: ·), rest)
termination_by s.length
decreasing_by
  · exact Nat.lt_succ_of_le (length_readEscape_le cs)
  · simp

/-- The rest of what is no address, and what follows its closing bracket. -/
def skipAddress : List Char → List Char × List Char
  | [] => ([], [])
  | ')' :: rest => ([], rest)
  | '\\' :: c :: rest =>
    if c = ')' || c = '\\' then
      let (text, after) := skipAddress rest
      ('\\' :: c :: text, after)
    else
      let (text, after) := skipAddress (c :: rest)
      ('\\' :: text, after)
  | c :: rest =>
    let (text, after) := skipAddress rest
    (c :: text, after)

/-- The token of `name`, which announces an address, with the bracket behind it. A quote starts an
argument instead. -/
def readUrl (name s : List Char) : Token × List Char :=
  let inside := s.dropWhile Css.isBlank
  if inside.head?.any fun c => c = '"' || c = '\'' then (function name, s)
  else match readAddress inside with
    | (some address, rest) => (url address, rest)
    | (none, rest) =>
      let (text, after) := skipAddress rest
      (badUrl (inside.take (inside.length - rest.length) ++ text), after)

/-- The token that starts with a number, whose sign is given, and what follows. -/
def readNumber (sign : Option Char) (s : List Char) : Token × List Char :=
  let (reading, rest) := Numeral.readUnsigned s
  match rest with
  | '%' :: rest => (percentage (.ofReading sign 100 reading), rest)
  | c :: cs =>
    if startsName (c :: cs) then
      let (unit, rest) := readName c cs
      (dimension (.ofReading sign 1 reading) unit, rest)
    else (number (.ofReading sign 1 reading), c :: cs)
  | [] => (number (.ofReading sign 1 reading), [])

/-- The token of a character that starts no longer one. -/
def ofChar : Char → Token
  | '(' => opening .round
  | ')' => closing .round
  | '[' => opening .square
  | ']' => closing .square
  | '\x7b' => opening .curly
  | '\x7d' => closing .curly
  | c => delim c

/-- The name at the start of `c :: cs`, with the bracket that belongs to it, and what follows. -/
def readWord (c : Char) (cs : List Char) : Token × List Char :=
  let (s, rest) := readName c cs
  match rest with
  | '(' :: rest => if lower s = ['u', 'r', 'l'] then readUrl s rest else (function s, rest)
  | rest => (name s, rest)

/-- The token at the start of `c :: cs`, which is a name or a sign, and what follows. -/
def nextWord (c : Char) (cs : List Char) : Token × List Char :=
  if c = '-' && ['-', '>'].isPrefixOf cs then (cdc, cs.drop 2)
  else if c = '<' && ['!', '-', '-'].isPrefixOf cs then (cdo, cs.drop 3)
  else if startsName (c :: cs) then readWord c cs
  else if ['~', '|', '^', '$', '*'].contains c && cs.head? = some '=' then (matching c, cs.drop 1)
  else (ofChar c, cs)

/-- The token at the start of `c :: cs`, and what follows. -/
def next (c : Char) (cs : List Char) : Token × List Char :=
  if Css.isBlank c then
    (blank (c :: cs.takeWhile Css.isBlank), cs.dropWhile Css.isBlank)
  else if c = '/' && cs.head? = some '*' then
    let (text, rest) := readComment (cs.drop 1)
    (comment text, rest)
  else if c = '"' || c = '\'' then
    let (text, stop, rest) := readString c cs
    (ofString text stop, rest)
  else if c = '#' && (cs.head?.any isNameChar || startsEscape cs) then
    let (s, rest) := readNamePart cs
    (if startsName cs then idHash s else hash s, rest)
  else if c = '@' && startsName cs then
    let (s, rest) := readNamePart cs
    (atKeyword s, rest)
  else if (c = '+' || c = '-') && Numeral.startsUnsigned cs then readNumber (some c) cs
  else if Numeral.startsUnsigned (c :: cs) then readNumber none (c :: cs)
  else nextWord c cs

theorem length_readComment_le (s : List Char) : (readComment s).2.length ≤ s.length := by
  fun_induction readComment s with
  | case1 => simp
  | case2 rest => simp only [List.length_cons]; omega
  | case3 c cs _ text rest h ih =>
    simp only [h] at ih
    simp only [List.length_cons]
    omega

theorem length_readString_le (quote : Char) (s : List Char) :
    (readString quote s).2.2.length ≤ s.length := by
  fun_induction readString quote s with
  | case1 => simp
  | case2 => simp
  | case3 => simp
  | case4 cs _ _ _ ih =>
    have : (dropOneBlank cs).length ≤ cs.length := length_dropOneBlank_le cs
    simp only [List.length_cons]
    omega
  | case5 cs _ escaped text rest h _ _ ih =>
    simp only [h] at ih
    have : escaped.2.length ≤ cs.length := length_readEscape_le cs
    simp only [List.length_cons]
    omega
  | case6 c cs _ _ _ text rest h ih =>
    simp only [h] at ih
    simp only [List.length_cons]
    omega

theorem length_readAddress_le (s : List Char) : (readAddress s).2.length ≤ s.length := by
  fun_induction readAddress s with
  | case1 => simp
  | case2 => simp
  | case3 => simp
  | case4 c cs _ _ d rest h =>
    have := Numeral.length_dropWhile_le Css.isBlank cs
    rw [h] at this
    simp only [List.length_cons] at this ⊢
    omega
  | case5 => simp
  | case6 => simp
  | case7 cs _ escaped address rest h _ _ _ ih =>
    simp only [h] at ih
    have : escaped.2.length ≤ cs.length := length_readEscape_le cs
    simp only [List.length_cons]
    omega
  | case8 c cs _ _ _ _ address rest h ih =>
    simp only [h] at ih
    simp only [List.length_cons]
    omega

theorem length_skipAddress_le (s : List Char) : (skipAddress s).2.length ≤ s.length := by
  fun_induction skipAddress s with
  | case1 => simp
  | case2 => simp
  | case3 c rest _ text after h ih =>
    simp only [h] at ih
    simp only [List.length_cons]
    omega
  | case4 c rest _ text after h ih =>
    simp only [h] at ih
    simp only [List.length_cons] at ih ⊢
    omega
  | case5 c rest _ _ text after h ih =>
    rw [h] at ih
    exact Nat.le_trans ih (Nat.le_succ _)

theorem length_readUrl_le (name s : List Char) : (readUrl name s).2.length ≤ s.length := by
  have hs : (s.dropWhile Css.isBlank).length ≤ s.length := Numeral.length_dropWhile_le _ s
  have ha := length_readAddress_le (s.dropWhile Css.isBlank)
  unfold readUrl
  dsimp only
  split
  · exact Nat.le_refl _
  · split
    · next h =>
      rw [h] at ha
      exact Nat.le_trans ha hs
    · next rest h =>
      rw [h] at ha
      exact Nat.le_trans (length_skipAddress_le rest) (Nat.le_trans ha hs)

/-- Reading on behind a number takes no character back. -/
theorem length_readNumber_le (sign : Option Char) (s : List Char) :
    (readNumber sign s).2.length ≤ (Numeral.readUnsigned s).2.length := by
  unfold readNumber
  split
  next reading rest h =>
  rw [h]
  split
  · simp
  · split
    · exact Nat.le_trans (length_readName_le _ _) (Nat.le_succ _)
    · exact Nat.le_refl _
  · exact Nat.le_refl _

theorem length_readWord_le (c : Char) (cs : List Char) :
    (readWord c cs).2.length ≤ cs.length := by
  have := length_readName_le c cs
  unfold readWord
  dsimp only
  split
  · next rest h =>
    rw [h, List.length_cons] at this
    split
    · exact Nat.le_trans (length_readUrl_le _ rest) (Nat.le_of_succ_le this)
    · exact Nat.le_of_succ_le this
  · exact this

theorem length_nextWord_le (c : Char) (cs : List Char) :
    (nextWord c cs).2.length ≤ cs.length := by
  unfold nextWord
  split
  · exact (List.drop_suffix 2 cs).length_le
  split
  · exact (List.drop_suffix 3 cs).length_le
  split
  · exact length_readWord_le c cs
  split
  · exact (List.drop_suffix 1 cs).length_le
  · exact Nat.le_refl _

theorem length_next_le (c : Char) (cs : List Char) : (next c cs).2.length ≤ cs.length := by
  unfold next
  split
  · exact Numeral.length_dropWhile_le _ cs
  split
  · exact Nat.le_trans (length_readComment_le _) (List.drop_suffix 1 cs).length_le
  split
  · exact length_readString_le c cs
  split
  · exact length_readNamePart_le cs
  split
  · exact length_readNamePart_le cs
  split
  · next h =>
    obtain ⟨d, ds, rfl⟩ : ∃ d ds, cs = d :: ds := by
      cases cs with
      | nil => simp [Numeral.startsUnsigned] at h
      | cons d ds => exact ⟨d, ds, rfl⟩
    refine Nat.le_trans (length_readNumber_le _ _) (Nat.le_trans ?_ (Nat.le_succ _))
    exact Numeral.length_readUnsigned_le d ds (by simp_all)
  split
  · next h =>
    exact Nat.le_trans (length_readNumber_le _ _) (Numeral.length_readUnsigned_le c cs h)
  exact length_nextWord_le c cs

end Token

/-- The tokens of a text that starts at the character `offset`. -/
def lex (offset : Nat) : List Char → List Lexeme
  | [] => []
  | c :: cs =>
    let step := Token.next c cs
    let stop := offset + (cs.length + 1 - step.2.length)
    { token := step.1, start := offset, stop } :: lex stop step.2
termination_by text => text.length
decreasing_by exact Nat.lt_succ_of_le (Token.length_next_le c cs)

end ScopedStyles.Css
