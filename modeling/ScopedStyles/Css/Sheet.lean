import ScopedStyles.Css.Declaration
import ScopedStyles.Css.Media
import ScopedStyles.Css.Selector
/-!
# Stylesheets

A stylesheet is rules: selectors with declarations, rules for some media, and animations. Comments
are left out, except for notices in front of all rules.
-/

namespace ScopedStyles.Css

open Decimal (Single)

/-- A time of an animation. -/
inductive Time where
  | start
  | finish
  | percent (value : Single)
  deriving DecidableEq, Repr

/-- A step of an animation. -/
structure Keyframe where
  times : List Time
  declarations : List Declaration

/-- A rule. -/
inductive Rule where
  | style (selectors : List Selector) (declarations : List Declaration)
  | media (query : Query) (rules : List Rule)
  | keyframes (name : List Char) (frames : List Keyframe)

/-- A stylesheet. -/
structure Sheet where
  /-- The comments that start with `!` in front of all rules. -/
  notices : List (List Char)
  rules : List Rule

namespace Time

/-- Reads a time. -/
def read? (nodes : List Node) : Option Time :=
  match Node.words nodes with
  | [n] =>
    match n.token with
    | .percentage x => some (percent x.value)
    | .name s =>
      if lower s = "from".toList then some start
      else if lower s = "to".toList then some finish
      else none
    | _ => none
  | _ => none

end Time

/-- Whether nodes, last one first, start with an at-keyword. A semicolon ends what they start. -/
def startsAtRule (head : List Node) : Bool :=
  match head.getLast? with
  | some (.leaf ⟨.atKeyword _, _, _⟩) => true
  | _ => false

/-- Where nodes start if that is with a property of the stylesheet's own and a colon. Nothing that
does is a rule. -/
def propertyStart? : List Node → Option Nat
  | .leaf ⟨.name s, start, _⟩ :: rest =>
    if isDashed s && (rest.dropWhile Node.isSpace).head?.any (·.token = .delim ':') then some start
    else none
  | _ => none

namespace Keyframe

/-- A step with the times and the declarations that nodes are. A step composes no classes. -/
def read? (times inner : List Node) (stop : Nat) : Option Keyframe := do
  let times ← (Node.splitOn ',' 0 times).mapM fun (part, _) => Time.read? part
  let declarations ← (Declaration.readAll .plain stop inner).toOption
  return { times, declarations }

/-- Reads the steps of an animation that are left. `head` is what stands in front of them, last node
first. What is no step is left out, up to a block or a semicolon, or past the block if it starts as
a property does. -/
def readAll (head : List Node) : List Node → List Keyframe
  | [] => []
  | .block ⟨.opening .curly, start, place⟩ inner stop :: rest =>
    if (propertyStart? head.reverse).isSome then
      readAll (.block ⟨.opening .curly, start, place⟩ inner stop :: head) rest
    else (read? head.reverse inner stop).toList ++ readAll [] rest
  | n :: rest =>
    if n.token = .delim ';' || head.isEmpty && n.isSpace then readAll [] rest
    else readAll (n :: head) rest

end Keyframe

/-- What stands in front of the block of a rule. -/
inductive Prelude where
  | style (selectors : List Selector)
  | media (query : Query)
  | keyframes (name : List Char)

namespace Prelude

/-- The name of an animation that nodes are, up to `stop`. -/
def animationName (stop : Nat) (nodes : List Node) : Except Fault (List Char) :=
  match nodes.dropWhile Node.isSpace with
  | [] => .error ⟨.unexpectedEnd, stop⟩
  | n :: rest =>
    let name? := match n.token with
      | .name s => if isNoAnimation s then none else some s
      | .string s => some s
      | _ => none
    match name?, rest.dropWhile Node.isSpace with
    | some name, [] => .ok name
    | some _, m :: _ => .error ⟨.unexpectedToken m.token, n.lexeme.stop⟩
    | none, _ => .error ⟨.unexpectedToken n.token, n.lexeme.stop⟩

/-- Reads what stands in front of a block that starts at `stop`. -/
def read (d : Dialect) (stop : Nat) : List Node → Except Fault Prelude
  | .leaf ⟨.atKeyword name, start, place⟩ :: rest =>
    if lower name = "media".toList then media <$> Query.read place rest
    else if lower name = "keyframes".toList then keyframes <$> animationName stop rest
    else .error ⟨.unexpectedToken (.atKeyword name), start⟩
  | nodes =>
    match propertyStart? nodes with
    | some start => .error ⟨.invalidRule, start⟩
    | none => style <$> Selector.readList d.modules stop nodes

/-- The fault of a rule that has no block, of which `head` is all, last node first. It ends at
`stop`, with a semicolon up to `after` unless that is the same place. An at-rule has the faults of
what it says before, and is said to end with a semicolon in any case. -/
def missingBlock (d : Dialect) (stop after : Nat) (head : List Node) : Fault :=
  if startsAtRule head then
    match read d stop head.reverse with
    | .error e => e
    | .ok _ => ⟨.unexpectedToken (.delim ';'), after⟩
  else match propertyStart? head.reverse with
    | some start => ⟨.invalidRule, start⟩
    | none => if stop = after then ⟨.unexpectedEnd, stop⟩ else ⟨.unexpectedToken (.delim ';'), stop⟩

end Prelude

namespace Rule

/-- Whether a node in front of a rule says nothing. Among rules for some media, which are not the
`outer` ones, semicolons do not. -/
def isIdle (outer : Bool) (n : Node) : Bool :=
  n.isSpace || if outer then n.token = .cdo || n.token = .cdc else n.token = .delim ';'

/-- Reads the rules that are left. `head` is what stands in front of them, last node first, and
`stop` is where they end. -/
def readAll (d : Dialect) (outer : Bool) (stop : Nat) (head : List Node) (nodes : List Node) :
    Except Fault (List Rule) :=
  match nodes with
  | [] => if head.isEmpty then .ok [] else .error (Prelude.missingBlock d stop stop head)
  | .block ⟨.opening .curly, start, _⟩ inner innerStop :: rest => do
    let rule ← match ← Prelude.read d start head.reverse with
      | .media query => do
        let rules ← readAll d false innerStop [] inner
        Except.ok (media query rules)
      | .keyframes name => Except.ok (keyframes name (Keyframe.readAll [] inner))
      | .style selectors => do
        let declarations ← Declaration.readAll d innerStop inner
        Except.ok (style selectors declarations)
    let rules ← readAll d outer stop [] rest
    return rule :: rules
  | n :: rest =>
    if head.isEmpty && isIdle outer n then readAll d outer stop [] rest
    else if (startsAtRule head || !outer) && n.token = .delim ';' then
      .error (Prelude.missingBlock d n.lexeme.start n.lexeme.stop head)
    else readAll d outer stop (n :: head) rest

end Rule

namespace Sheet

/-- The notices in front of all rules. -/
def readNotices : List Node → List (List Char)
  | .leaf ⟨.blank _, _, _⟩ :: rest => readNotices rest
  | .leaf ⟨.comment text, _, _⟩ :: rest =>
    if text.head? = some '!' then text :: readNotices rest else []
  | _ => []

/-- Reads a stylesheet. -/
def ofText (d : Dialect) (text : List Char) : Except Fault Sheet := do
  let nodes := Node.ofText text
  let rules ← Rule.readAll d true text.length [] nodes
  return { notices := readNotices nodes, rules }

end Sheet

end ScopedStyles.Css
