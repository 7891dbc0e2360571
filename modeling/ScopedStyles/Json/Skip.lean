import ScopedStyles.Json.Literal
import ScopedStyles.Json.Number
/-!
# Skipping JSON values

A value that nobody reads must still be JSON. It may nest to any depth, and neither the size of its
numbers nor the surrogates of its strings matter.
-/

namespace ScopedStyles.Json

/-- Reads the colon behind a key. -/
def colon : Reader Unit := fun s =>
  match skipBlank s with
  | ':' :: rest => .ok ((), rest)
  | [] => .error .unexpectedEnd
  | _ => .error .malformed

mutual

/-- What follows a value. Every bracket and every entry of a value takes one of `fuel`. -/
def skipWithin (fuel : Nat) (s : List Char) : Except Fault (List Char) :=
  match fuel with
  | 0 => .error .malformed
  | fuel + 1 =>
    match skipBlank s with
    | [] => .error .unexpectedEnd
    | 'n' :: rest => (·.2) <$> word ['u', 'l', 'l'] rest
    | 't' :: rest => (·.2) <$> word ['r', 'u', 'e'] rest
    | 'f' :: rest => (·.2) <$> word ['a', 'l', 's', 'e'] rest
    | '"' :: rest => (Literal.ofText rest).skip
    | '-' :: rest => Number.skip rest
    | '[' :: rest =>
      match skipBlank rest with
      | ']' :: rest => .ok rest
      | rest => skipElements fuel rest
    | '{' :: rest =>
      match skipBlank rest with
      | '}' :: rest => .ok rest
      | rest => skipMembers fuel rest
    | c :: rest => if c.isDigit then Number.skip (c :: rest) else .error .malformed

/-- What follows the elements of an array and its closing bracket. -/
def skipElements (fuel : Nat) (s : List Char) : Except Fault (List Char) :=
  match fuel with
  | 0 => .error .malformed
  | fuel + 1 => do
    match skipBlank (← skipWithin fuel s) with
    | ',' :: rest => skipElements fuel rest
    | ']' :: rest => .ok rest
    | [] => .error .unexpectedEnd
    | _ => .error .malformed

/-- What follows the members of an object and its closing brace. -/
def skipMembers (fuel : Nat) (s : List Char) : Except Fault (List Char) :=
  match fuel with
  | 0 => .error .malformed
  | fuel + 1 =>
    match skipBlank s with
    | '"' :: rest => do
      let ((), rest) ← colon (← (Literal.ofText rest).skip)
      match skipBlank (← skipWithin fuel rest) with
      | ',' :: rest => skipMembers fuel rest
      | '}' :: rest => .ok rest
      | [] => .error .unexpectedEnd
      | _ => .error .malformed
    | [] => .error .unexpectedEnd
    | _ => .error .malformed

end

/-- What follows a value. -/
def skip (s : List Char) : Except Fault (List Char) :=
  skipWithin (2 * s.length + 1) s

end ScopedStyles.Json
