import ScopedStyles.Css.ColorFunction
import ScopedStyles.Css.Dialect
import ScopedStyles.Css.Fault
import ScopedStyles.Css.Item
/-!
# Values

The items of a value that nobody has to understand. Some functions are understood all the same:
those that another value stands for, addresses, and colors as far as they are known.
-/

namespace ScopedStyles.Css.Item

/-- The names of what a reader's surroundings tell, in small letters. -/
def surroundings : List (List Char) :=
  ["safe-area-inset-bottom", "safe-area-inset-left", "safe-area-inset-right",
    "safe-area-inset-top", "viewport-segment-bottom", "viewport-segment-height",
    "viewport-segment-left", "viewport-segment-right", "viewport-segment-top",
    "viewport-segment-width"].map String.toList

/-- Where a name comes from that items follow, and what follows that. -/
def origin (items : List Item) : Origin × List Item :=
  match items.dropWhile isSpace with
  | token (.name s) :: rest =>
    if lower s = "from".toList then
      match rest.dropWhile isSpace with
      | token (.string file) :: rest => (.file file, rest)
      | _ :: rest => (.everywhere, rest)
      | [] => (.here, items)
    else (.here, items)
  | _ => (.here, items)

/-- A name as what it refers to, and the items that follow. -/
def referenced (name : Item) (rest : List Item) : Item × List Item :=
  match name with
  | dashedName name =>
    let (origin, rest) := origin rest
    (reference name origin, rest)
  | token (.name s) => (word (if surroundings.contains (lower s) then lower s else s), rest)
  | item => (item, rest)

/-- The integers in front of items, each behind a space, and what follows them. -/
def indices : List Item → List Item × List Item
  | [] => ([], [])
  | token (.number n) :: rest =>
    match n.whole? with
    | some i =>
      let (others, rest) := indices rest
      (space :: integer i :: others, rest)
    | none => ([], token (.number n) :: rest)
  | item :: rest => if item.isSpace then indices rest else ([], item :: rest)

/-- What to take if there is no value that a name refers to, behind a comma. -/
def fallback : List Item → List Item
  | [] => []
  | _ :: items => behindComma items

/-- A function that another value stands for, given what is between its brackets: a name with
integers, and what to take if there is no such value. -/
def substitution (head : Token) (inside : List Item) : List Item :=
  match inside.dropWhile isSpace with
  | [] => [token head, close]
  | name :: rest =>
    let (name, rest) := referenced name rest
    let (indices, rest) := indices rest
    token head :: name :: (indices ++ fallback rest ++ [close])

/-- A pair of values for light and dark pages, if there is a comma. -/
def lightDark? (name : List Char) (inside : List (List Item)) : Option (List Item) :=
  let name := lower name
  if name = "light-dark".toList && inside.contains [comma] then
    let light := inside.takeWhile (· ≠ [comma])
    let dark := inside.drop (light.length + 1)
    some (token (.function name) :: (trim light.flatten ++
      separator :: (trim dark.flatten ++ [close])))
  else none

/-- A slash as it stands. -/
def bareSlash : Item :=
  token (.delim '/')

/-- The components of a color that is known up to how opaque it is. -/
def translucent? (name : String) (components : List Quantity) : Option (List Item) := do
  match components with
  | [a, b, c] =>
    if name = "rgb" then
      let bytes ← components.mapM Color.channel?
      return bytes.map fun (n : Nat) => integer n
    else if name = "hsl" then
      return [number (← a.degrees?), percent (← Color.share? (some b)),
        percent (← Color.share? (some c))]
    else none
  | _ => none

/-- A color that is known up to how opaque it is, which stands behind a slash. -/
def translucentColor? (name : List Char) (inner : List Node) (inside : List (List Item)) :
    Option (List Item) := do
  let words := Node.words inner
  if (words[3]?.map Node.token) ≠ some (.delim '/') then none
  let components ← (words.take 3).mapM Quantity.ofNode?
  let name := lower name
  let items ← translucent? (String.ofList name) components
  let alpha := (inside.dropWhile (· ≠ [bareSlash])).drop 1
  return token (.function name) :: (joined space items ++
    slash :: (trim alpha.flatten ++ [close]))

/-- What a function stands for. -/
inductive Role where
  /-- A property of the stylesheet's own. -/
  | property
  /-- What a reader's surroundings tell. -/
  | surrounding
  | address
  | plain

/-- What a function of a name, in small letters, stands for. -/
def Role.ofName (name : List Char) : Role :=
  if name = "var".toList then property
  else if name = "env".toList then surrounding
  else if name = "url".toList then address
  else plain

/-- A function with what stands between its brackets, node by node. -/
def call (name : List Char) (inner : List Node) (inside : List (List Item)) : List Item :=
  let plain := token (.function name) :: (trim inside.flatten ++ [close])
  match Role.ofName name with
  | .property | .surrounding => substitution (.function name) inside.flatten
  | .address =>
    match inside.flatten.dropWhile isSpace with
    | token (.string address) :: _ => [url address]
    | _ => plain
  | .plain => ((lightDark? name inside).or (translucentColor? name inner inside)).getD plain

/-- Brackets with what stands between them. -/
def enclose (head : Token) (inner : List Node) (inside : List (List Item)) : List Item :=
  match head with
  | .function name => call name inner inside
  | _ => token head :: (inside.flatten ++ [token head.closer])

/-- What is wrong behind a name that ends at `place`: anything but a comma, and integers in front of
it where `integers` are allowed. -/
def behindNameFault? (integers : Bool) (place : Nat) : List Node → Option Fault
  | [] => none
  | n :: rest =>
    let fault : Option Fault := some ⟨.unexpectedToken n.token, place⟩
    match n.token with
    | .blank _ | .comment _ => behindNameFault? integers place rest
    | .delim ',' => none
    | .number x =>
      if integers && x.whole?.isSome then behindNameFault? integers n.lexeme.stop rest else fault
    | _ => fault

/-- Passes over where a name comes from, which ends at `place`, in front of some nodes that end at
`stop`. Gives where it ends and what follows. -/
def behindOrigin (d : Dialect) (place stop : Nat) (nodes : List Node) :
    Except Fault (Nat × List Node) :=
  match nodes.dropWhile Node.isSpace with
  | .leaf ⟨.name s, _, place'⟩ :: rest =>
    if d.dashedIdents && lower s = "from".toList then
      match rest.dropWhile Node.isSpace with
      | [] => .error ⟨.unexpectedEnd, stop⟩
      | n :: rest =>
        match n.token with
        | .string _ => .ok (n.lexeme.stop, rest)
        | t =>
          if t.isWord "global" then .ok (n.lexeme.stop, rest)
          else .error ⟨.unexpectedToken t, place'⟩
    else .ok (place, nodes)
  | _ => .ok (place, nodes)

/-- What is wrong behind the name of a property, which ends at `place`. -/
def behindPropertyFault? (d : Dialect) (place stop : Nat) (nodes : List Node) : Option Fault :=
  match behindOrigin d place stop nodes with
  | .ok (place, nodes) => behindNameFault? false place nodes
  | .error fault => some fault

/-- What is wrong behind the name of what a reader's surroundings tell, which ends at `place`. -/
def behindSurroundingFault? (d : Dialect) (dashed : Bool) (place stop : Nat) (nodes : List Node) :
    Option Fault :=
  match behindOrigin d place stop nodes with
  | .ok (place', rest) =>
    if dashed then behindNameFault? true place' rest else behindNameFault? true place nodes
  | .error _ => behindNameFault? true place nodes

/-- What is wrong between the brackets of a function, which start at `start` and end at `stop`. -/
def callFault? (d : Dialect) (name : List Char) (start stop : Nat) (inner : List Node) :
    Option Fault :=
  match Role.ofName name, inner.dropWhile Node.isSpace with
  | .plain, _ => none
  | _, [] => some ⟨.unexpectedEnd, stop⟩
  | role, n :: rest =>
    let place := n.lexeme.stop
    let fault : Option Fault := some ⟨.unexpectedToken n.token, start⟩
    match role, n.token with
    | .property, .name s => if isDashed s then behindPropertyFault? d place stop rest else fault
    | .surrounding, .name s =>
      if isReserved s then fault else behindSurroundingFault? d (isDashed s) place stop rest
    | .address, .string _ =>
      (rest.find? fun m => !m.isSpace).map fun m => ⟨.unexpectedToken m.token, place⟩
    | _, _ => fault

/-- What is wrong with brackets, apart from what stands between them. -/
def bracketFault? (d : Dialect) (head : Lexeme) (stop : Nat) (inner : List Node) : Option Fault :=
  match head.token with
  | .function name => callFault? d name head.stop stop inner
  | _ => none

/-- The items of each of some nodes, `depth` brackets deep. -/
def readEach (d : Dialect) (depth : Nat) : List Node → Except Fault (List (List Item))
  | [] => .ok []
  | .leaf l :: rest =>
    if l.token.isRefused then .error ⟨.unexpectedToken l.token, l.start⟩
    else do
      let others ← readEach d depth rest
      return [ofToken l.token] :: others
  | .block head inner stop :: rest =>
    match Color.ofNode? (.block head inner stop), bracketFault? d head stop inner with
    | some c, _ => do
      let others ← readEach d depth rest
      return [color c] :: others
    | none, some fault => .error fault
    | none, none => do
      if depth = maxDepth then throw ⟨.tooDeep, head.stop⟩
      let inside ← readEach d (depth + 1) inner
      let others ← readEach d depth rest
      return enclose head.token inner inside :: others
termination_by nodes => nodes
decreasing_by
  all_goals
    simp only [List.cons.sizeOf_spec, Node.block.sizeOf_spec]
    omega

/-- The items of a value. -/
def read (d : Dialect) (nodes : List Node) : Except Fault (List Item) := do
  let items ← readEach d 0 nodes
  return trim items.flatten

end ScopedStyles.Css.Item
