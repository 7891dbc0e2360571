import ScopedStyles.Css.Token
/-!
# Ways to display an element

An element is part of what is around it, holds what is inside of it, and can be an item of a list.
Some combinations have a name of their own, and some ways to display are neither.
-/

namespace ScopedStyles.Css

/-- How an element takes part in what is around it. -/
inductive Outside where
  | block
  | inline
  | runIn
  deriving DecidableEq, Repr

/-- How an element holds what is inside of it. -/
inductive Inside where
  | flow
  | flowRoot
  | flex
  | grid
  | ruby
  | table
  deriving DecidableEq, Repr

/-- The name of a way to take part. -/
def Outside.name : Outside → String
  | block => "block"
  | inline => "inline"
  | runIn => "run-in"

/-- The name of a way to hold. -/
def Inside.name : Inside → String
  | flow => "flow"
  | flowRoot => "flow-root"
  | flex => "flex"
  | grid => "grid"
  | ruby => "ruby"
  | table => "table"

/-- How an element takes part if it is not said. -/
def Inside.defaultOutside : Inside → Outside
  | ruby => .inline
  | _ => .block

/-- A way to display an element. -/
inductive Display where
  /-- One that is neither outside nor inside. -/
  | special (name : String)
  | pair (outside : Outside) (inside : Inside) (listItem : Bool)
  deriving DecidableEq, Repr

namespace Display

/-- The ways to display that are neither outside nor inside. -/
def specialNames : List String :=
  ["contents", "none", "ruby-base", "ruby-base-container", "ruby-text", "ruby-text-container",
    "table-caption", "table-cell", "table-column", "table-column-group", "table-footer-group",
    "table-header-group", "table-row", "table-row-group"]

/-- What of a pair was read. -/
structure Progress where
  outside : Option Outside := none
  inside : Option Inside := none
  listItem : Bool := false

/-- Takes the next word of a pair. -/
def Progress.take (p : Progress) (word : String) : Option Progress :=
  if word = "list-item" then some { p with listItem := true }
  else
    let outside := [Outside.block, .inline, .runIn].find? (·.name = word)
    let inside := [Inside.flow, .flowRoot, .flex, .grid, .ruby, .table].find? (·.name = word)
    if p.outside.isNone && outside.isSome then some { p with outside }
    else if p.inside.isNone && inside.isSome then some { p with inside }
    else none

/-- The pair of what was read. Only what flows can be an item of a list. -/
def Progress.finish (p : Progress) : Option Display :=
  let inside := p.inside.getD .flow
  if p.listItem && inside ≠ .flow && inside ≠ .flowRoot then none
  else some (pair (p.outside.getD inside.defaultOutside) inside p.listItem)

/-- The pairs with a name of their own. -/
def inlineNames : List (String × Inside) :=
  [("inline-block", .flowRoot), ("inline-flex", .flex), ("inline-grid", .grid),
    ("inline-table", .table)]

/-- Reads a way to display from its words, in small letters. -/
def read? (words : List String) : Option Display :=
  match words with
  | [] => none
  | [word] =>
    if specialNames.contains word then some (special word)
    else match inlineNames.lookup word with
      | some inside => some (pair .inline inside false)
      | none => (Progress.take {} word).bind Progress.finish
  | words => (words.foldlM Progress.take {}).bind Progress.finish

/-- The words of a way to display. -/
def words : Display → List String
  | special name => [name]
  | pair outside inside listItem =>
    let named := inlineNames.find? fun (_, i) => outside = .inline && inside = i && !listItem
    match named with
    | some (name, _) => [name]
    | none =>
      (if outside ≠ inside.defaultOutside || (inside = .flow && !listItem) then [outside.name]
        else []) ++
      (if inside = .flow then [] else [inside.name]) ++ if listItem then ["list-item"] else []

end Display

end ScopedStyles.Css
