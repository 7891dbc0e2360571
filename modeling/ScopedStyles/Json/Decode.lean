import ScopedStyles.Json.Skip
/-!
# Reading JSON of a given shape

Readers for the values of a given type. A text is read once, from its start, and the first thing
that is wrong with it is its fault: a mismatch counts before anything that follows it. Where a value
has another type, that value alone is still read if it is no array or object.
-/

namespace ScopedStyles.Json

/-- Reads a value that is no array or object. -/
def scalar : Reader Found := fun s =>
  match s with
  | [] => .error .unexpectedEnd
  | 'n' :: rest => (fun r => (.null, r.2)) <$> word ['u', 'l', 'l'] rest
  | 't' :: rest => (fun r => (.boolean true, r.2)) <$> word ['r', 'u', 'e'] rest
  | 'f' :: rest => (fun r => (.boolean false, r.2)) <$> word ['a', 'l', 's', 'e'] rest
  | '"' :: rest => (fun r => (.string r.1, r.2)) <$> string rest
  | '-' :: rest => Number.read true rest
  | c :: rest => if c.isDigit then Number.read false (c :: rest) else .error .malformed

/-- Refuses the value at the start of a text for its type. -/
def wrongType {α : Type} (expected : String) : Reader α := fun s =>
  match s with
  | '[' :: _ => .error (.mismatch (.wrongType .sequence expected))
  | '{' :: _ => .error (.mismatch (.wrongType .map expected))
  | s => do
    let (found, _) ← scalar s
    .error (.mismatch (.wrongType found expected))

/-- Reads a text. -/
def text (expected : String) : Reader String := fun s =>
  match skipBlank s with
  | '"' :: rest => string rest
  | s => wrongType expected s

/-- Reads `true` or `false`. -/
def boolean (expected : String) : Reader Bool := fun s =>
  match skipBlank s with
  | 't' :: rest => (fun r => (true, r.2)) <$> word ['r', 'u', 'e'] rest
  | 'f' :: rest => (fun r => (false, r.2)) <$> word ['a', 'l', 's', 'e'] rest
  | s => wrongType expected s

/-- Reads `null`. -/
def unit (expected : String) : Reader Unit := fun s =>
  match skipBlank s with
  | 'n' :: rest => word ['u', 'l', 'l'] rest
  | s => wrongType expected s

/-- Reads a value or `null`. -/
def nullable {α : Type} (read : Reader α) : Reader (Option α) := fun s =>
  match skipBlank s with
  | 'n' :: rest => (fun r => (none, r.2)) <$> word ['u', 'l', 'l'] rest
  | s => (fun r => (some r.1, r.2)) <$> read s

/-- Goes on to the next entry of an array or object, and tells whether there is one. A comma stands
before every entry but the first. -/
def nextEntry (close : Char) (first : Bool) : Reader Bool := fun s =>
  match skipBlank s with
  | [] => .error .unexpectedEnd
  | c :: rest =>
    if c = close then .ok (false, rest)
    else if first then .ok (true, c :: rest)
    else if c = ',' then
      match skipBlank rest with
      | [] => .error .unexpectedEnd
      | s => .ok (true, s)
    else .error .malformed

/-- Reads the entries of an array that are left. Every entry takes one of `fuel`. -/
def elements {α : Type} (read : Reader α) (fuel : Nat) (first : Bool) : Reader (List α) := fun s =>
  match fuel with
  | 0 => .error .malformed
  | fuel + 1 => do
    let (more, s) ← nextEntry ']' first s
    if more then
      let (a, s) ← read s
      let (as, s) ← elements read fuel false s
      return (a :: as, s)
    else return ([], s)

/-- Reads an array of values of one type. -/
def array {α : Type} (expected : String) (read : Reader α) : Reader (List α) := fun s =>
  match skipBlank s with
  | '[' :: rest => elements read (rest.length + 1) true rest
  | s => wrongType expected s

/-- Reads the members of an object that are left. `member` takes a key, what was read so far and the
text behind the key. Every member takes one of `fuel`. -/
def members {σ : Type} (member : String → σ → Reader σ) (fuel : Nat) (first : Bool) (state : σ) :
    Reader σ := fun s =>
  match fuel with
  | 0 => .error .malformed
  | fuel + 1 => do
    let (more, s) ← nextEntry '}' first s
    if more then
      match s with
      | '"' :: rest => do
        let (key, s) ← string rest
        let (state, s) ← member key state s
        members member fuel false state s
      | _ => .error .malformed
    else return (state, s)

/-- Reads an object, member by member. -/
def object {σ : Type} (expected : String) (member : String → σ → Reader σ) (state : σ) :
    Reader σ := fun s =>
  match skipBlank s with
  | '{' :: rest => members member (rest.length + 1) true state rest
  | s => wrongType expected s

/-- Reads values of different types from an array that may end early. `readers` read the values that
are left and add them to what was read so far. -/
def positional {σ : Type} (readers : List (σ → Reader σ)) (first : Bool) (state : σ) :
    Reader σ := fun s =>
  match readers with
  | [] =>
    match skipBlank s with
    | ']' :: rest => .ok (state, rest)
    | [] => .error .unexpectedEnd
    | _ => .error .malformed
  | read :: readers => do
    let (more, s) ← nextEntry ']' first s
    if more then
      let (state, s) ← read state s
      positional readers false state s
    else return (state, s)

/-- The one of two values that has a given name. -/
def choose {α : Type} (name : α → String) (first second : α) (text : String) : Except Fault α :=
  if text = name first then .ok first
  else if text = name second then .ok second
  else .error (.mismatch (.unknownVariant text (name first) (name second)))

/-- Reads one of two values by its name, which may also be the key of an object that holds only
`null`. -/
def variant {α : Type} (name : α → String) (first second : α) : Reader α := fun s =>
  match skipBlank s with
  | '"' :: rest => do
    let (text, s) ← string rest
    return (← choose name first second text, s)
  | '{' :: rest =>
    match skipBlank rest with
    | '"' :: rest => do
      let (text, s) ← string rest
      let value ← choose name first second text
      let ((), s) ← colon s
      let ((), s) ← unit "unit" s
      match skipBlank s with
      | '}' :: rest => return (value, rest)
      | [] => .error .unexpectedEnd
      | _ => .error .malformed
    | [] => .error .unexpectedEnd
    | _ => .error .malformed
  | [] => .error .unexpectedEnd
  | _ => .error .malformed

/-- Reads a whole text, behind whose value only blanks stand. -/
def document {α : Type} (read : Reader α) (s : List Char) : Except Fault α := do
  let (value, rest) ← read s
  if (skipBlank rest).isEmpty then return value else .error .malformed

end ScopedStyles.Json
