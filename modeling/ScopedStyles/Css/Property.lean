import ScopedStyles.Css.Display
import ScopedStyles.Css.GridArea
import ScopedStyles.Css.Margin
/-!
# Properties

The properties whose values are understood, and the values that each of them understands. Any other
value of such a property is kept as it is written, and so is every value of all other properties.
-/

namespace ScopedStyles.Css

open Decimal (Single)

/-- A property whose values are understood. -/
inductive Standard where
  | animationName
  | color
  /-- Takes other classes into a class. -/
  | composes
  | containerName
  | display
  | gridArea
  | margin
  | opacity
  deriving DecidableEq, Repr

/-- A property. -/
inductive Property where
  | standard (s : Standard)
  /-- A property of the stylesheet's own, whose name starts with `--`. -/
  | custom (name : List Char)
  | unknown (name : List Char)
  deriving DecidableEq, Repr

/-- The value of a property. -/
inductive Value where
  | understood (items : List Item)
  | raw (items : List Item)
  /-- Classes to take into a class. `place` is where they start. -/
  | composes (place : Nat)
  deriving DecidableEq, Repr

namespace Standard

/-- The properties whose values are understood. -/
def all : List Standard :=
  [animationName, color, composes, containerName, display, gridArea, margin, opacity]

/-- The name of a property. -/
def name : Standard → List Char
  | animationName => "animation-name".toList
  | color => "color".toList
  | composes => "composes".toList
  | containerName => "container-name".toList
  | display => "display".toList
  | gridArea => "grid-area".toList
  | margin => "margin".toList
  | opacity => "opacity".toList

/-- The name of an animation. -/
def animation? : Token → Option Item
  | .name s =>
    if lower s = "none".toList then some (.word (lower s))
    else if isReserved s then none
    else some (.word s)
  | .string s => some (.quotedName s)
  | _ => none

/-- The names of animations, between commas. -/
def animations? : List Token → Option (List Item)
  | [t] => (animation? t).map fun item => [item]
  | t :: .delim ',' :: rest => do
    let first ← animation? t
    let others ← animations? rest
    return first :: others
  | _ => none

/-- A color. -/
def color? : List Node → Option Item
  | [n] => (Color.ofNode? n).map .color
  | _ => none

/-- The name of a container. -/
def container? : Token → Option Item
  | .name s =>
    if isReserved s || ["and", "none", "not", "or"].contains (String.ofList (lower s)) then none
    else some (.word s)
  | _ => none

/-- The names of a container. -/
def containers? : List Token → Option (List Item)
  | [] => none
  | [.name s] => if lower s = "none".toList then some [.word (lower s)]
    else (container? (.name s)).map fun item => [item]
  | words => (words.mapM container?).map (Item.joined .space)

/-- A way to display an element. -/
def display? (words : List Token) : Option (List Item) := do
  let names ← words.mapM fun
    | .name s => some (String.ofList (lower s))
    | _ => none
  let display ← Display.read? names
  return Item.joined .space (display.words.map fun name => .word name.toList)

/-- How opaque an element is. -/
def opacity? : List Node → Option Item
  | [n] => do
    let q ← Quantity.ofNode? n
    if q.measure = .number ∨ q.measure = .percent then
      some (.number q.value.unsignedZero)
    else none
  | _ => none

/-- Whether words are the names of classes, with or without where these come from. -/
def areComposed : List Token → Bool
  | [] => false
  | words =>
    let isName : Token → Bool
      | .name s => !isReserved s && lower s ≠ "from".toList
      | _ => false
    match words.takeWhile isName, words.dropWhile isName with
    | [], _ => false
    | _, [] => true
    | _, [.name s, .string _] => lower s = "from".toList
    | _, [.name s, .name t] => lower s = "from".toList && lower t = "global".toList
    | _, _ => false

/-- The value of a property, if the property understands it, given nodes without white space. -/
def value? (s : Standard) (place : Nat) (nodes : List Node) : Option Value :=
  let single (item : Option Item) := item.map fun item => Value.understood [item]
  let words := Node.leaves? nodes
  match s with
  | animationName => ((words.bind animations?).map (Item.joined .separator)).map .understood
  | color => single (color? nodes)
  | composes => if words.any areComposed then some (.composes place) else none
  | containerName => (words.bind containers?).map .understood
  | display => (words.bind display?).map .understood
  | gridArea => (GridArea.read? nodes).map fun a => .understood a.items
  | margin => (Margin.readAll? nodes).map .understood
  | opacity => single (opacity? nodes)

end Standard

namespace Property

/-- The property of a name. -/
def ofName (name : List Char) : Property :=
  if isDashed name then custom name
  else match Standard.all.find? fun s => s.name = lower name with
    | some s => standard s
    | none => unknown name

/-- Reads a value that starts at `place`. Composing classes means something only where they are
scoped. -/
def read (d : Dialect) (place : Nat) (p : Property) (nodes : List Node) :
    Except Fault Value := do
  let known := match p with
    | .standard s => if s = .composes && !d.modules then none
      else s.value? place (Node.words nodes)
    | _ => none
  match known with
  | some value => return value
  | none =>
    let items ← Item.read d nodes
    return .raw items

/-- Whether brackets in front of a rule end the property's value. -/
def endsAtBlock : Property → Bool
  | custom _ => false
  | _ => true

end Property

end ScopedStyles.Css
