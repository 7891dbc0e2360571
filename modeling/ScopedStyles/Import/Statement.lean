import ScopedStyles.Text.Split
/-!
# Import statements

A static import is `import "specifier"` or `import clause from "specifier"`, with an optional `;`
after it. This module reads one from the text behind its keyword. A clause ends at the first whole
word `from` outside braces; it holds no `;`, quote, backquote or `(` outside braces, and it is
short. Imports of types only are erased from the running program and are not read as statements.
-/

namespace ScopedStyles

open Text

/-- A static import where it stands in a source. -/
structure Import where
  /-- The statement as written, with the `;` that ends it. -/
  text : String
  /-- Byte offset of the keyword. -/
  start : Nat
  /-- Byte offset behind the statement. -/
  stop : Nat
  specifier : String
  /-- What stands between the keyword and `from`, if anything is bound. -/
  clause : Option String
  /-- Number of the line that the statement starts on, from one. It is a number without a bound: one
  of 32 bits is the same in a source with fewer than `2 ^ 32` line feeds. -/
  line : Nat
  deriving DecidableEq, Repr

/-- The statement that imports `specifier` under `clause`, as the only line of a source. -/
def Import.of (specifier : String) (clause : Option String) : Import :=
  let text := match clause with
    | some clause => "import " ++ clause ++ " from '" ++ specifier ++ "';"
    | none => "import '" ++ specifier ++ "';"
  { text, start := 0, stop := text.utf8ByteSize, specifier, clause, line := 1 }

/-- A static import without its place: its text, specifier and clause. -/
structure Statement where
  text : List Char
  specifier : List Char
  clause : Option (List Char)

namespace Statement

/-- Characters that continue a word. All characters above ASCII do. -/
def isIdentifierChar (c : Char) : Bool :=
  c.isAlphanum || c == '_' || c == '$' || 0x80 ≤ c.toNat

/-- What follows `word` at the start of a text, if it stands there as a whole word: neither behind
an identifier character or a dot nor before an identifier character. -/
def wholeWord? (word : List Char) (before : Option Char) (text : List Char) : Option (List Char) :=
  (dropLead? word text).filter fun rest =>
    before.all (fun c => !isIdentifierChar c && c != '.') &&
      rest.head?.all (fun c => !isIdentifierChar c)

/-- What precedes and what follows a closing quote on the same line. -/
def untilQuote? (quote : Char) : List Char → Option (List Char × List Char)
  | [] => none
  | c :: cs =>
    if c = quote then some ([], cs)
    else if c = '\n' then none
    else (untilQuote? quote cs).map fun (inside, rest) => (c :: inside, rest)

/-- The inside of a quoted text and what follows it. -/
def quoted? : List Char → Option (List Char × List Char)
  | [] => none
  | quote :: cs => if quote = '"' || quote = '\'' then untilQuote? quote cs else none

/-- Bytes within which the `from` of a statement starts. -/
def clauseLimit : Nat := 1000

/-- Characters that no clause holds outside braces. -/
def endsClause (c : Char) : Bool :=
  c == ';' || c == '"' || c == '\'' || c == '\x60' || c == '('

/-- What precedes and what follows the first whole word `from` outside braces. `depth` is the number
of open braces and `used` the number of bytes before the text. -/
def untilFrom? (before : Option Char) (depth used : Nat) :
    List Char → Option (List Char × List Char)
  | [] => none
  | c :: cs =>
    let go (depth : Nat) := (untilFrom? (some c) depth (used + c.utf8Size) cs).map
      fun (clause, rest) => (c :: clause, rest)
    if clauseLimit ≤ used then none
    else if c = '{' then go (depth + 1)
    else if c = '}' then go (depth - 1)
    else if depth = 0 then
      if endsClause c then none
      else match wholeWord? ['f', 'r', 'o', 'm'] before (c :: cs) with
        | some rest => some ([], rest)
        | none => go depth
    else go depth

/-- Clauses such as `type T` and `type { T }`, which bind types only. -/
def isTypeOnly (clause : List Char) : Bool :=
  match dropLead? ['t', 'y', 'p', 'e'] clause with
  | some (c :: _) => isBlank c || c == '{'
  | _ => false

/-- What follows a `;` behind spaces and tabs, or the whole text if there is none. -/
def afterSemicolon (text : List Char) : List Char :=
  match text.dropWhile (fun c => c == ' ' || c == '\t') with
  | ';' :: rest => rest
  | _ => text

/-- The keyword that starts a statement. -/
def keyword : List Char := ['i', 'm', 'p', 'o', 'r', 't']

/-- The specifier and clause of a statement whose text behind the keyword and its blanks is `body`,
with what follows the closing quote. -/
def parts? (body : List Char) : Option ((List Char × Option (List Char)) × List Char) :=
  match body with
  | [] => none
  | c :: _ =>
    if c = '(' || c = '.' then none
    else if c = '"' || c = '\'' then
      (quoted? body).map fun (specifier, rest) => ((specifier, none), rest)
    else match untilFrom? none 0 0 body with
      | none => none
      | some (clause, rest) =>
        let clause := trim clause
        if clause.isEmpty || isTypeOnly clause then none
        else (quoted? (rest.dropWhile isAsciiBlank)).map
          fun (specifier, rest) => ((specifier, some clause), rest)

/-- Reads a statement from the text behind its keyword, and what follows it. -/
def read? (after : List Char) : Option (Statement × List Char) := do
  let ((specifier, clause), rest) ← parts? (after.dropWhile isAsciiBlank)
  let rest := afterSemicolon rest
  return ({ text := keyword ++ upTo after rest, specifier, clause }, rest)

/-- The statement at its place in a source. -/
def place (s : Statement) (start line : Nat) : Import :=
  let text := String.ofList s.text
  { text, start, stop := start + text.utf8ByteSize, specifier := String.ofList s.specifier,
    clause := s.clause.map String.ofList, line }

theorem wholeWord?_eq_some {word text rest : List Char} {before : Option Char}
    (h : wholeWord? word before text = some rest) : text = word ++ rest := by
  unfold wholeWord? at h
  exact dropLead?_eq_some (Option.eq_some_of_filter_eq_some h)

theorem untilQuote?_suffix {quote : Char} {text inside rest : List Char}
    (h : untilQuote? quote text = some (inside, rest)) : rest <:+ text := by
  induction text generalizing inside with
  | nil => simp [untilQuote?] at h
  | cons c cs ih =>
    simp only [untilQuote?] at h
    split at h
    · obtain ⟨-, rfl⟩ := Prod.mk.inj (Option.some.inj h)
      exact List.suffix_cons c cs
    · split at h
      · simp at h
      · obtain ⟨⟨inside', rest'⟩, h', heq⟩ := Option.map_eq_some_iff.1 h
        obtain ⟨-, rfl⟩ := Prod.mk.inj heq
        exact (ih h').trans (List.suffix_cons c cs)

theorem quoted?_suffix {text inside rest : List Char} (h : quoted? text = some (inside, rest)) :
    rest <:+ text := by
  cases text with
  | nil => simp [quoted?] at h
  | cons c cs =>
    simp only [quoted?] at h
    split at h
    · exact (untilQuote?_suffix h).trans (List.suffix_cons c cs)
    · simp at h

theorem untilFrom?_suffix {before : Option Char} {depth used : Nat} {text clause rest : List Char}
    (h : untilFrom? before depth used text = some (clause, rest)) : rest <:+ text := by
  induction text generalizing before depth used clause with
  | nil => simp [untilFrom?] at h
  | cons c cs ih =>
    have go {d : Nat} {clause : List Char}
        (h : (untilFrom? (some c) d (used + c.utf8Size) cs).map
          (fun (clause, rest) => (c :: clause, rest)) = some (clause, rest)) :
        rest <:+ c :: cs := by
      obtain ⟨⟨clause', rest'⟩, h', heq⟩ := Option.map_eq_some_iff.1 h
      obtain ⟨-, rfl⟩ := Prod.mk.inj heq
      exact (ih h').trans (List.suffix_cons c cs)
    simp only [untilFrom?] at h
    split at h
    · simp at h
    · split at h
      · exact go h
      · split at h
        · exact go h
        · split at h
          · split at h
            · simp at h
            · split at h
              · next hw =>
                obtain ⟨-, rfl⟩ := Prod.mk.inj (Option.some.inj h)
                exact ⟨_, (wholeWord?_eq_some hw).symm⟩
              · exact go h
          · exact go h

theorem afterSemicolon_suffix (text : List Char) : afterSemicolon text <:+ text := by
  unfold afterSemicolon
  split
  · next rest h =>
    exact (List.suffix_cons ';' rest).trans (h ▸ List.dropWhile_suffix _)
  · exact List.suffix_refl text

theorem parts?_suffix {body rest : List Char} {parts : List Char × Option (List Char)}
    (h : parts? body = some (parts, rest)) : rest <:+ body := by
  unfold parts? at h
  split at h
  · simp at h
  · split at h
    · simp at h
    · split at h
      · obtain ⟨⟨inside, rest'⟩, h', heq⟩ := Option.map_eq_some_iff.1 h
        obtain ⟨-, rfl⟩ := Prod.mk.inj heq
        exact quoted?_suffix h'
      · split at h
        · simp at h
        · next clause tail hf =>
          simp only at h
          split at h
          · simp at h
          · obtain ⟨⟨specifier, last⟩, hq, heq⟩ := Option.map_eq_some_iff.1 h
            obtain ⟨-, rfl⟩ := Prod.mk.inj heq
            exact ((quoted?_suffix hq).trans (List.dropWhile_suffix _)).trans (untilFrom?_suffix hf)

theorem read?_text {after rest : List Char} {s : Statement} (h : read? after = some (s, rest)) :
    s.text = keyword ++ upTo after rest := by
  simp only [read?, Option.bind_eq_bind, Option.bind_eq_some_iff] at h
  obtain ⟨⟨⟨specifier, clause⟩, tail⟩, -, h⟩ := h
  obtain ⟨rfl, rfl⟩ := Prod.mk.inj (Option.some.inj h)
  rfl

theorem read?_suffix {after rest : List Char} {s : Statement} (h : read? after = some (s, rest)) :
    rest <:+ after := by
  simp only [read?, Option.bind_eq_bind, Option.bind_eq_some_iff] at h
  obtain ⟨⟨⟨specifier, clause⟩, tail⟩, hp, h⟩ := h
  obtain ⟨-, rfl⟩ := Prod.mk.inj (Option.some.inj h)
  exact ((afterSemicolon_suffix tail).trans (parts?_suffix hp)).trans (List.dropWhile_suffix _)

/-- A statement and what follows it make up the text it was read from. -/
theorem read?_append {after rest : List Char} {s : Statement} (h : read? after = some (s, rest)) :
    s.text ++ rest = keyword ++ after := by
  rw [read?_text h, List.append_assoc, upTo_append (read?_suffix h)]

end Statement

end ScopedStyles
