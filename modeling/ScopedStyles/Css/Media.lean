import ScopedStyles.Css.Fault
import ScopedStyles.Css.Node
/-!
# Media

Descriptions of the media that rules are for. A description is the name of a kind of media, which
`not` or `only` can stand in front of, and conditions behind `and`. Conditions between brackets are
kept as they are written.
-/

namespace ScopedStyles.Css

/-- Descriptions of media, of which one has to match. -/
abbrev Query := List (List Token)

namespace Query

/-- Words of media that are written in small letters. -/
def words : List (List Char) :=
  ["all", "and", "not", "only", "or", "print", "screen"].map String.toList

/-- A token of a description. -/
def token : Token → Token
  | .name s => .name (if words.contains (lower s) then lower s else s)
  | t => t

/-- Tokens with one space for white space and comments, and none at their ends. -/
def squeeze (started : Bool) : List Token → List Token
  | [] => []
  | t :: rest =>
    if t.isSpace then
      match squeeze false rest with
      | [] => []
      | u :: us => if started then .blank [' '] :: u :: us else u :: us
    else token t :: squeeze true rest

/-- Whether a token is a name. -/
def isName : Token → Bool
  | .name _ => true
  | _ => false

/-- How much of a description there is. -/
inductive Extent where
  | whole
  /-- It ends where something has to follow. -/
  | cut
  | faulty (f : Fault)

/-- The extent of conditions. What stands in front of them ends at `place`. -/
def conditions (place : Nat) : List Node → Extent
  | [] => .cut
  | n :: rest =>
    if n.token = .opening .round then .whole
    else if n.token.isWord "not" then
      match rest with
      | [] => .cut
      | m :: _ =>
        if m.token = .opening .round then .whole
        else .faulty ⟨.unexpectedToken m.token, n.lexeme.stop⟩
    else .faulty ⟨.unexpectedToken n.token, place⟩

/-- The extent of what follows the name of a kind of media, which ends at `place`. -/
def behindKind (place : Nat) : List Node → Extent
  | [] => .whole
  | n :: rest =>
    if n.token.isWord "and" then conditions n.lexeme.stop rest
    else .faulty ⟨.unexpectedToken n.token, place⟩

/-- The extent of a description that starts behind `place`, given its nodes without white space. -/
def extent (place : Nat) : List Node → Extent
  | [] => .cut
  | n :: rest =>
    let isLead := n.token.isWord "not" || n.token.isWord "only"
    match rest with
    | m :: others =>
      if isLead && isName m.token then behindKind m.lexeme.stop others
      else if !isLead && isName n.token then behindKind n.lexeme.stop rest
      else conditions place (n :: rest)
    | [] => if !isLead && isName n.token then .whole else conditions place [n]

/-- Reads descriptions from their nodes with where these end. The first one starts behind `place`.
At the end, one that is cut short is left out. -/
def readParts (place : Nat) : List (List Node × Nat) → Except Fault Query
  | [] => .ok []
  | (part, stop) :: rest =>
    match extent place (Node.words part) with
    | .faulty f => .error f
    | .cut => if rest.isEmpty then .ok [] else .error ⟨.unexpectedToken (.delim ','), stop⟩
    | .whole => do
      let others ← readParts (stop + 1) rest
      return squeeze false (Node.tokens part) :: others

/-- Reads the descriptions of media behind `place`. -/
def read (place : Nat) (nodes : List Node) : Except Fault Query :=
  readParts place (Node.splitOn ',' 0 nodes)

/-- Whether descriptions match all media. -/
def alwaysMatches (q : Query) : Bool :=
  q.all fun tokens => tokens = [.name "all".toList]

/-- Whether descriptions match no media, and say so. -/
def neverMatches (q : Query) : Bool :=
  !q.isEmpty && q.all fun tokens =>
    tokens = [.name "not".toList, .blank [' '], .name "all".toList]

end Query

end ScopedStyles.Css
