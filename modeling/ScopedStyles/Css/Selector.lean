import ScopedStyles.Css.Fault
import ScopedStyles.Css.Node
/-!
# Selectors

A selector is simple selectors and the combinators between them, in their order. `:global` and
`:local`, which mark selectors whose names are not scoped or scoped, mean that only where names are
scoped at all; elsewhere they are functions like any other.
-/

namespace ScopedStyles.Css

/-- What stands between two compound selectors. -/
inductive Combinator where
  | descendant
  | child
  | nextSibling
  | laterSibling
  deriving DecidableEq, Repr

/-- A simple selector that holds no others. -/
inductive Simple where
  | universal
  | type (name : List Char)
  | className (name : List Char)
  | id (name : List Char)
  | pseudoClass (name : List Char)
  | pseudoElement (name : List Char)
  /-- A function whose arguments nobody looks at. -/
  | function (name : List Char) (arguments : List Token)
  deriving DecidableEq, Repr

/-- What selectors between brackets are for. -/
inductive Group where
  /-- What they match is left out. -/
  | negation
  /-- Their names are not scoped. -/
  | unscoped
  /-- Their names are scoped. -/
  | scoped
  deriving DecidableEq, Repr

/-- A part of a selector. -/
inductive Part where
  | simple (s : Simple)
  | combinator (c : Combinator)
  | group (g : Group) (selectors : List (List Part))

/-- The parts of a selector, in order. -/
abbrev Selector := List Part

mutual

/-- Whether two parts are the same. -/
def Part.same : Part → Part → Bool
  | .simple s, .simple t => s = t
  | .combinator c, .combinator d => c = d
  | .group g s, .group h t => g = h && Selector.sameLists s t
  | _, _ => false

/-- Whether two selectors are the same. -/
def Selector.same : List Part → List Part → Bool
  | [], [] => true
  | p :: ps, q :: qs => Part.same p q && Selector.same ps qs
  | _, _ => false

/-- Whether two lists of selectors are the same. -/
def Selector.sameLists : List (List Part) → List (List Part) → Bool
  | [], [] => true
  | s :: ss, t :: ts => Selector.same s t && Selector.sameLists ss ts
  | _, _ => false

end

namespace Simple

/-- The pseudo-classes of the standards. Their names are written in small letters. -/
def pseudoClasses : List (List Char) :=
  ["active", "any-link", "autofill", "blank", "buffering", "checked", "closed", "current",
    "default", "defined", "disabled", "empty", "enabled", "first-child", "first-of-type", "focus",
    "focus-visible", "focus-within", "fullscreen", "future", "host", "hover", "in-range",
    "indeterminate", "invalid", "last-child", "last-of-type", "link", "local-link", "modal",
    "muted", "only-child", "only-of-type", "open", "optional", "out-of-range", "past", "paused",
    "picture-in-picture", "placeholder-shown", "playing", "popover-open", "read-only",
    "read-write", "required", "root", "scope", "seeking", "stalled", "target", "target-within",
    "user-invalid", "user-valid", "valid", "visited", "volume-locked"].map String.toList

/-- The pseudo-elements that are as old as classes, and are written with one colon as they are. -/
def oldPseudoElements : List (List Char) :=
  ["after", "before", "first-letter", "first-line"].map String.toList

/-- The other pseudo-elements of the standards. -/
def newPseudoElements : List (List Char) :=
  ["backdrop", "cue", "cue-region", "file-selector-button", "marker", "placeholder",
    "selection"].map String.toList

/-- Whether a pseudo-element is one of the standards. -/
def isPseudoElement (name : List Char) : Bool :=
  oldPseudoElements.contains name || newPseudoElements.contains name

/-- A name in small letters if it is known in them. -/
def known (isKnown : List Char → Bool) (name : List Char) : List Char :=
  if isKnown (lower name) then lower name else name

/-- What a name behind a colon selects. -/
def ofPseudo (name : List Char) : Simple :=
  if oldPseudoElements.contains (lower name) then pseudoElement (lower name)
  else pseudoClass (known pseudoClasses.contains name)

/-- What a name behind two colons selects. -/
def ofPseudoElement (name : List Char) : Simple :=
  pseudoElement (known isPseudoElement name)

/-- Whether every reader of stylesheets knows a selector. -/
def isStandard : Simple → Bool
  | pseudoClass name => pseudoClasses.contains name
  | pseudoElement name => isPseudoElement name
  | function _ _ => false
  | _ => true

end Simple

mutual

/-- Whether a part keeps its meaning next to any other selector. -/
def Part.isStandard : Part → Bool
  | .simple s => s.isStandard
  | .combinator _ => true
  | .group .negation selectors => Selector.areStandard selectors
  | .group _ _ => false

/-- Whether all parts of a selector are standard ones. -/
def Selector.isStandard : List Part → Bool
  | [] => true
  | p :: rest => Part.isStandard p && Selector.isStandard rest

/-- Whether all selectors of a list are standard ones. -/
def Selector.areStandard : List (List Part) → Bool
  | [] => true
  | s :: rest => Selector.isStandard s && Selector.areStandard rest

end

namespace Selector

/-- Where the reading of a selector stands. -/
inductive Phase where
  /-- At its start or behind a combinator. -/
  | expecting
  /-- Right behind a simple selector. -/
  | inside
  /-- Behind white space that follows a simple selector. -/
  | spaced
  deriving DecidableEq

/-- Selectors read so far, and the parts of the one that is being read. Both are last one first. -/
structure Progress where
  done : List Selector := []
  parts : List Part := []
  phase : Phase := .expecting
  /-- Where the last simple selector ends. -/
  stop : Nat := 0

namespace Progress

/-- What is wrong where a simple selector is missing. -/
def gap (p : Progress) : Reason :=
  if p.parts.isEmpty then .emptySelector else .danglingCombinator

/-- Takes white space. -/
def space (p : Progress) : Progress :=
  { p with phase := if p.phase = .inside then .spaced else p.phase }

/-- Takes a part that ends at `stop`. White space before it combines it with the one before. -/
def add (p : Progress) (stop : Nat) (part : Part) : Progress :=
  let parts := if p.phase = .spaced then .combinator .descendant :: p.parts else p.parts
  { p with parts := part :: parts, phase := .inside, stop }

/-- Takes a simple selector that ends at `stop`. -/
def addSimple (p : Progress) (stop : Nat) (s : Simple) : Progress :=
  p.add stop (.simple s)

/-- Takes a combinator that is not white space. -/
def combine (p : Progress) (c : Combinator) : Progress :=
  { p with parts := .combinator c :: p.parts, phase := .expecting }

/-- Takes the end of a selector. -/
def finish (p : Progress) : Progress :=
  { done := p.parts.reverse :: p.done }

/-- What is wrong where a token is no part of a selector. Comments in front of one that has no
business behind a simple selector belong to it. -/
def refuse (p : Progress) (l : Lexeme) : Fault :=
  match p.phase with
  | .expecting => ⟨p.gap, l.start⟩
  | .inside => ⟨.unexpectedToken l.token, p.stop⟩
  | .spaced => ⟨.danglingCombinator, l.start⟩

end Progress

/-- The combinator of a character. -/
def combinator? : Char → Option Combinator
  | '>' => some .child
  | '+' => some .nextSibling
  | '~' => some .laterSibling
  | _ => none

/-- The selectors of a function that holds some. -/
def group? (modules : Bool) (name : List Char) : Option Group :=
  let name := lower name
  if name = "not".toList then some .negation
  else if modules && name = "global".toList then some .unscoped
  else if modules && name = "local".toList then some .scoped
  else none

/-- Whether a name is one of those that tell whether names are scoped. -/
def tellsScope (name : List Char) : Bool :=
  (group? true name).any (· ≠ .negation)

/-- Whether a group holds several selectors. -/
def isList : Group → Bool
  | .negation => true
  | _ => false

/-- What is wrong at `place` where a name is missing behind a point or a colon. A selector ends at
`stop` and, in a list, at a comma. -/
def missingName (list : Bool) (stop place : Nat) (reason : Token → Reason) (found : Option Node) :
    Fault :=
  match found with
  | none => ⟨.unexpectedEnd, stop⟩
  | some n =>
    if list && n.token = .delim ',' then ⟨.unexpectedEnd, n.start⟩ else ⟨reason n.token, place⟩

/-- Reads the selectors that are left. `modules` tells whether names are scoped at all, `list`
whether there can be several selectors, and `stop` is where they end. There is no comment among the
nodes, but there can be some between brackets. -/
def readFrom (modules list : Bool) (stop : Nat) (p : Progress) (nodes : List Node) :
    Except Fault (List Selector) :=
  match nodes with
  | [] => if p.phase = .expecting then .error ⟨p.gap, stop⟩ else .ok p.finish.done.reverse
  | .leaf ⟨.blank _, _, _⟩ :: rest => readFrom modules list stop p.space rest
  | .leaf ⟨.delim '.', _, _⟩ :: .leaf ⟨.name name, _, place⟩ :: rest =>
    readFrom modules list stop (p.addSimple place (.className name)) rest
  | .leaf ⟨.delim '.', _, place⟩ :: rest =>
    .error (missingName list stop place .classWithoutName rest.head?)
  | .leaf ⟨.delim ':', _, colon⟩ :: .leaf ⟨.name name, _, place⟩ :: rest =>
    if modules && tellsScope name then .error ⟨.ambiguousScope, colon⟩
    else readFrom modules list stop (p.addSimple place (.ofPseudo name)) rest
  | .leaf ⟨.delim ':', _, _⟩ :: .leaf ⟨.delim ':', _, _⟩ :: .leaf ⟨.name name, _, place⟩ :: rest =>
    readFrom modules list stop (p.addSimple place (.ofPseudoElement name)) rest
  | .leaf ⟨.delim ':', _, _⟩ :: .block ⟨.function name, _, _⟩ inner innerStop :: rest =>
    match group? modules name with
    | some g => do
      let selectors ← readFrom modules (isList g) innerStop {} (Node.withoutComments inner)
      readFrom modules list stop (p.add (innerStop + 1) (.group g selectors)) rest
    | none =>
      match bracketsFault? 0 inner with
      | some fault => .error fault
      | none =>
        let function := Simple.function name (Node.tokens inner)
        readFrom modules list stop (p.addSimple (innerStop + 1) function) rest
  | .leaf ⟨.delim ':', _, place⟩ :: rest =>
    let rest := if rest.head?.any (·.token = .delim ':') then rest.drop 1 else rest
    let place := (rest.head?.map (·.lexeme.stop)).getD place
    .error (missingName list stop place .pseudoWithoutName rest.head?)
  | .leaf ⟨.idHash name, _, place⟩ :: rest =>
    readFrom modules list stop (p.addSimple place (.id name)) rest
  | .leaf ⟨.name name, start, place⟩ :: rest =>
    if p.phase = .inside then .error (p.refuse ⟨.name name, start, place⟩)
    else readFrom modules list stop (p.addSimple place (.type name)) rest
  | .leaf ⟨.delim '*', start, place⟩ :: rest =>
    if p.phase = .inside then .error (p.refuse ⟨.delim '*', start, place⟩)
    else readFrom modules list stop (p.addSimple place .universal) rest
  | .leaf ⟨.delim ',', start, place⟩ :: rest =>
    if p.phase = .expecting then .error ⟨p.gap, start⟩
    else if list then readFrom modules list stop p.finish rest
    else .error (p.refuse ⟨.delim ',', start, place⟩)
  | n :: rest =>
    match n.token with
    | .delim c =>
      match combinator? c with
      | some c =>
        if p.phase = .expecting then .error ⟨p.gap, n.start⟩
        else readFrom modules list stop (p.combine c) rest
      | none => .error (p.refuse n.lexeme)
    | _ => .error (p.refuse n.lexeme)
termination_by sizeOf nodes
decreasing_by
  all_goals simp only [List.cons.sizeOf_spec, Node.block.sizeOf_spec]
  all_goals try have := Node.sizeOf_withoutComments_le inner
  all_goals omega

/-- Reads a list of selectors. -/
def readList (modules : Bool) (stop : Nat) (nodes : List Node) : Except Fault (List Selector) :=
  readFrom modules true stop {} (Node.withoutComments nodes)

end Selector

end ScopedStyles.Css
