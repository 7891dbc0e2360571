import ScopedStyles.Import.Statement
import ScopedStyles.Text.Utf8
/-!
# Scanning a script for imports

A script is cut into lexemes: comments, quoted literals, import statements and all other
characters one by one. Nothing is lost: the texts of the lexemes, put together, are the script
(`Lexeme.flatMap_text_scan`). An import's offset and line follow from the lexemes before it, and
neither has a greatest value.
-/

namespace ScopedStyles

open Text

/-- A piece of a script. -/
inductive Lexeme where
  /-- A comment to the end of the line or between `/*` and `*/`. -/
  | comment (text : List Char)
  /-- A string or template literal. -/
  | literal (text : List Char)
  /-- An import statement. -/
  | statement (s : Statement)
  /-- A character of its own, or the word `import` where no statement follows. -/
  | other (text : List Char)

namespace Lexeme

/-- The characters of a lexeme. -/
def text : Lexeme → List Char
  | comment text => text
  | literal text => text
  | statement s => s.text
  | other text => text

/-- A block comment's text up to and with its end, and what follows. -/
def untilBlockEnd : List Char → List Char × List Char
  | [] => ([], [])
  | '*' :: '/' :: rest => (['*', '/'], rest)
  | c :: cs =>
    let (body, rest) := untilBlockEnd cs
    (c :: body, rest)

/-- A literal's text up to and with the closing `quote`, and what follows. A backslash takes the
next character with it. Only a template literal runs on over the end of a line. -/
def untilLiteralEnd (quote : Char) : List Char → List Char × List Char
  | [] => ([], [])
  | '\\' :: [] => (['\\'], [])
  | '\\' :: c :: cs =>
    let (body, rest) := untilLiteralEnd quote cs
    ('\\' :: c :: body, rest)
  | c :: cs =>
    if c = quote then ([c], cs)
    else if c = '\n' && quote != '\x60' then ([], c :: cs)
    else
      let (body, rest) := untilLiteralEnd quote cs
      (c :: body, rest)

/-- The line feeds of a literal that advance the line number: those not taken by a backslash. -/
def literalLineFeeds : List Char → Nat
  | [] => 0
  | '\\' :: [] => 0
  | '\\' :: _ :: cs => literalLineFeeds cs
  | c :: cs => (if c = '\n' then 1 else 0) + literalLineFeeds cs

/-- The lines by which a lexeme advances the line number. -/
def lineFeeds : Lexeme → Nat
  | literal text => literalLineFeeds text
  | lexeme => lexeme.text.count '\n'

/-- Bytes of a lexeme in UTF-8. -/
def byteLength (lexeme : Lexeme) : Nat :=
  Utf8.size lexeme.text

/-- The characters that open a literal. -/
def isQuote (c : Char) : Bool :=
  c == '"' || c == '\'' || c == '\x60'

/-- The lexeme at the start of the text `c :: cs`, and what follows it. `before` is the character
in front of the text. -/
def next (before : Option Char) (c : Char) (cs : List Char) : Lexeme × List Char :=
  if c = '/' && cs.head? = some '/' then
    (comment (c :: cs.takeWhile (· != '\n')), cs.dropWhile (· != '\n'))
  else if c = '/' && cs.head? = some '*' then
    let (body, rest) := untilBlockEnd (cs.drop 1)
    (comment (c :: (cs.take 1 ++ body)), rest)
  else if isQuote c then
    let (body, rest) := untilLiteralEnd c cs
    (literal (c :: body), rest)
  else match Statement.wholeWord? Statement.keyword before (c :: cs) with
    | none => (other [c], cs)
    | some after => match Statement.read? after with
      | none => (other Statement.keyword, after)
      | some (s, rest) => (statement s, rest)

theorem untilBlockEnd_append (cs : List Char) :
    (untilBlockEnd cs).1 ++ (untilBlockEnd cs).2 = cs := by
  fun_induction untilBlockEnd cs <;> simp_all

theorem untilLiteralEnd_append (quote : Char) (cs : List Char) :
    (untilLiteralEnd quote cs).1 ++ (untilLiteralEnd quote cs).2 = cs := by
  fun_induction untilLiteralEnd quote cs <;> simp_all

theorem next_append (before : Option Char) (c : Char) (cs : List Char) :
    (next before c cs).1.text ++ (next before c cs).2 = c :: cs := by
  unfold next
  split
  · simp [text]
  · split
    · simp only [text, List.cons_append, List.append_assoc, untilBlockEnd_append,
        List.take_append_drop]
    · split
      · simp only [text, List.cons_append, untilLiteralEnd_append]
      · split
        · simp [text]
        · next after hw =>
          have hw := Statement.wholeWord?_eq_some hw
          split
          · simp [text, hw]
          · next s rest hr => simp [text, hw, Statement.read?_append hr]

theorem next_text_ne_nil (before : Option Char) (c : Char) (cs : List Char) :
    (next before c cs).1.text ≠ [] := by
  unfold next
  repeat' split
  all_goals simp_all [text, Statement.keyword]
  next hr => simp [Statement.read?_text hr, Statement.keyword]

theorem length_next_lt (before : Option Char) (c : Char) (cs : List Char) :
    (next before c cs).2.length < (c :: cs).length := by
  have happend := congrArg List.length (next_append before c cs)
  have hpos := List.length_pos_iff.2 (next_text_ne_nil before c cs)
  simp only [List.length_append] at happend
  omega

/-- The lexemes of a text behind the character `before`. -/
def scan (before : Option Char) : List Char → List Lexeme
  | [] => []
  | c :: cs =>
    let step := next before c cs
    step.1 :: scan step.1.text.getLast? step.2
termination_by text => text.length
decreasing_by exact length_next_lt before c cs

/-- The texts of the lexemes, put together, are the text that was scanned. -/
theorem flatMap_text_scan (before : Option Char) (cs : List Char) :
    (scan before cs).flatMap text = cs := by
  fun_induction scan before cs with
  | case1 => rfl
  | case2 before c cs step ih => rw [List.flatMap_cons, ih, next_append]

/-- The imports among lexemes that start at byte `offset` of line `line`. -/
def imports (offset line : Nat) : List Lexeme → List Import
  | [] => []
  | lexeme :: rest =>
    let later := imports (offset + lexeme.byteLength) (line + lexeme.lineFeeds) rest
    match lexeme with
    | statement s => s.place offset line :: later
    | _ => later

end Lexeme

/-- The static imports of a script, in order. -/
def Import.scan (source : String) : List Import :=
  Lexeme.imports 0 1 (Lexeme.scan none source.toList)

end ScopedStyles
