import ScopedStyles.Css.Value
/-!
# Areas of a grid

An area lies between two lines for rows and two for columns. A line is counted, named or counted
among those of its name, or it lies a span away from the other one. The end of what starts at a name
alone is the end of that name, and otherwise left to the grid, so that it need not be written.
-/

namespace ScopedStyles.Css

/-- A line of a grid. -/
inductive GridLine where
  | auto
  | area (name : List Char)
  | line (index : Int) (name : Option (List Char))
  | span (count : Int) (name : Option (List Char))
  deriving DecidableEq, Repr

namespace GridLine

/-- An integer that is not zero. -/
def index? : Token → Option Int
  | .number n => n.whole?.filter (· ≠ 0)
  | _ => none

/-- A name. -/
def name? : Token → Option (List Char)
  | .name s => if isReserved s then none else some s
  | _ => none

/-- An integer and a name in any order, of which one can be missing. -/
def position? : List Token → Option (Option Int × Option (List Char))
  | [t] => ((index? t).map fun i => (some i, none)).or ((name? t).map fun s => (none, some s))
  | [t, u] => do
    let i ← (index? t).or (index? u)
    let s ← if (index? t).isSome then name? u else name? t
    return (some i, some s)
  | _ => none

/-- The line of a position. -/
def ofPosition? : Option Int × Option (List Char) → Option GridLine
  | (some i, name) => some (line i name)
  | (none, name) => name.map area

/-- Reads a line. -/
def read? (tokens : List Token) : Option GridLine :=
  let first := tokens.head?.bind name?
  if first.map lower = some "auto".toList then if tokens.length = 1 then some auto else none
  else if first.map lower = some "span".toList then
    (position? (tokens.drop 1)).map fun (count, name) => span (count.getD 1) name
  else (position? tokens).bind ofPosition?

/-- Where an area ends that starts at a line, unless that is written. -/
def opposite : GridLine → GridLine
  | area name => area name
  | _ => auto

/-- The items of a line, without the space between them. -/
def words : GridLine → List Item
  | auto => [.word "auto".toList]
  | area name => [.word name]
  | line index name => .integer index :: name.toList.map .word
  | span count name =>
    .word "span".toList :: ((if count ≠ 1 || name.isNone then [Item.integer count] else []) ++
      name.toList.map .word)

/-- The items of a line. -/
def items (l : GridLine) : List Item :=
  Item.joined .space l.words

end GridLine

/-- An area of a grid. -/
structure GridArea where
  rowStart : GridLine
  columnStart : GridLine
  rowEnd : GridLine
  columnEnd : GridLine
  deriving DecidableEq, Repr

namespace GridArea

/-- The area of one to four lines. -/
def ofLines? : List GridLine → Option GridArea
  | [] => none
  | rowStart :: lines =>
    let columnStart := lines[0]?.getD rowStart.opposite
    if 3 < lines.length then none
    else some { rowStart, columnStart
                rowEnd := lines[1]?.getD rowStart.opposite
                columnEnd := lines[2]?.getD columnStart.opposite }

/-- Reads an area from nodes without white space. There are slashes between its lines. -/
def read? (nodes : List Node) : Option GridArea := do
  let parts ← ((Node.splitOn '/' 0 nodes).map fun (part, _) => part).mapM Node.leaves?
  let lines ← parts.mapM GridLine.read?
  ofLines? lines

/-- The lines of an area that have to be written. -/
def lines (a : GridArea) : List GridLine :=
  if a.columnEnd ≠ a.columnStart.opposite then
    [a.rowStart, a.columnStart, a.rowEnd, a.columnEnd]
  else if a.rowEnd ≠ a.rowStart.opposite then [a.rowStart, a.columnStart, a.rowEnd]
  else if a.columnStart ≠ a.rowStart.opposite then [a.rowStart, a.columnStart]
  else [a.rowStart]

/-- The items of an area. -/
def items (a : GridArea) : List Item :=
  [Item.slash].intercalate (a.lines.map GridLine.items)

end GridArea

end ScopedStyles.Css
