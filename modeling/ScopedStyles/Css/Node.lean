import ScopedStyles.Css.Token
/-!
# Nested tokens

The tokens of a stylesheet with what stands between a pair of brackets as one node. A bracket that
is never closed ends with the text.
-/

namespace ScopedStyles.Css

/-- A token, or brackets with what stands between them. -/
inductive Node where
  | leaf (l : Lexeme)
  /-- `head` opens the brackets, and `stop` is where their inside ends. -/
  | block (head : Lexeme) (inner : List Node) (stop : Nat)

namespace Node

/-- The token that a node starts with. -/
def lexeme : Node → Lexeme
  | leaf l => l
  | block head _ _ => head

/-- The token that a node starts with, without its place. -/
def token (n : Node) : Token :=
  n.lexeme.token

/-- Where a node starts. -/
def start (n : Node) : Nat :=
  n.lexeme.start

/-- Whether a node is a comment. -/
def isComment (n : Node) : Bool :=
  n.token.isComment

/-- Whether a node is white space or a comment. -/
def isSpace (n : Node) : Bool :=
  n.token.isSpace

/-- Nodes without the comments among them. -/
def withoutComments (nodes : List Node) : List Node :=
  nodes.filter fun n => !n.isComment

/-- The tokens of nodes. -/
def tokens : List Node → List Token
  | [] => []
  | leaf l :: rest => l.token :: tokens rest
  | block head inner _ :: rest => head.token :: (tokens inner ++ head.token.closer :: tokens rest)

/-- Nodes without the white space and the comments among them. -/
def words (nodes : List Node) : List Node :=
  nodes.filter fun n => !n.isSpace

/-- The tokens of nodes, unless there are brackets. -/
def leaves? : List Node → Option (List Token)
  | [] => some []
  | leaf l :: rest => (leaves? rest).map (l.token :: ·)
  | block _ _ _ :: _ => none

/-- The parts of nodes between occurrences of a character, each with where it ends; always at least
one. `stop` is where the nodes end. -/
def splitOn (sep : Char) (stop : Nat) : List Node → List (List Node × Nat)
  | [] => [([], stop)]
  | n :: ns =>
    if n.token = .delim sep then ([], n.start) :: splitOn sep stop ns
    else match splitOn sep stop ns with
      | (part, place) :: parts => (n :: part, place) :: parts
      | [] => [([n], stop)]

/-- A bracket that is still open, with the nodes before it, last one first. -/
structure Frame where
  head : Lexeme
  before : List Node

/-- Whether a bracket closes what a token opens. -/
def closes (b : Bracket) : Token → Bool
  | .opening c => b = c
  | .function _ => b = .round
  | _ => false

/-- The nodes of open brackets at the end of a text. `nodes` is what stands behind the innermost
one, last one first. -/
def closeAll (stop : Nat) (nodes : List Node) : List Frame → List Node
  | [] => nodes.reverse
  | frame :: rest => closeAll stop (block frame.head nodes.reverse stop :: frame.before) rest

/-- The nodes of tokens behind open brackets. -/
def nest (stop : Nat) (frames : List Frame) (nodes : List Node) : List Lexeme → List Node
  | [] => closeAll stop nodes frames
  | l :: ls =>
    match l.token with
    | .opening _ | .function _ => nest stop ({ head := l, before := nodes } :: frames) [] ls
    | .closing b =>
      match frames with
      | frame :: rest =>
        if closes b frame.head.token then
          nest stop rest (block frame.head nodes.reverse l.start :: frame.before) ls
        else nest stop frames (leaf l :: nodes) ls
      | [] => nest stop [] (leaf l :: nodes) ls
    | _ => nest stop frames (leaf l :: nodes) ls

/-- The nodes of a text. -/
def ofText (text : List Char) : List Node :=
  nest text.length [] [] (lex 0 text)

theorem sizeOf_filter_le (p : Node → Bool) (nodes : List Node) :
    sizeOf (nodes.filter p) ≤ sizeOf nodes := by
  induction nodes with
  | nil => exact Nat.le_refl _
  | cons n rest ih =>
    rw [List.filter_cons]
    split <;> simp only [List.cons.sizeOf_spec] <;> omega

theorem sizeOf_withoutComments_le (nodes : List Node) :
    sizeOf (withoutComments nodes) ≤ sizeOf nodes :=
  sizeOf_filter_le _ nodes

theorem sizeOf_words_le (nodes : List Node) : sizeOf (words nodes) ≤ sizeOf nodes :=
  sizeOf_filter_le _ nodes

end Node

end ScopedStyles.Css
