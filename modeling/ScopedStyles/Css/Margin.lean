import ScopedStyles.Css.Value
/-!
# Margins

The margins at the top, on the right, at the bottom and on the left of an element. What is not said
about one side follows from another one, so that it need not be written either.
-/

namespace ScopedStyles.Css

/-- The margin on a side. -/
inductive Margin where
  | auto
  /-- A length that a sum of quantities comes to. -/
  | length (sum : Quantity.Sum)
  deriving DecidableEq, Repr

namespace Margin

/-- A quantity where zero has no sign. -/
def unsignedZero (q : Quantity) : Quantity :=
  { q with value := q.value.unsignedZero }

/-- Whether two margins are the same. What is not a number is the same as nothing. -/
def same : Margin → Margin → Bool
  | auto, auto => true
  | length sum, length other =>
    sum.map unsignedZero = other.map unsignedZero && sum.all fun q => q.value.isNumber
  | _, _ => false

/-- Whether a quantity can be part of a length. -/
def isLength (q : Quantity) : Bool :=
  match q.measure with
  | .unit name => Item.lengthUnits.contains name
  | _ => true

/-- Reads a margin. A number on its own is one of pixels. -/
def read? (n : Node) : Option Margin :=
  match n.token with
  | .name s => if lower s = "auto".toList then some auto else none
  | .number x => some (length [{ value := x.value, measure := .unit "px".toList }])
  | _ =>
    let sum := (Quantity.ofCalculation? n).or ((Quantity.ofNode? n).map fun q => [q])
    (sum.filter fun sum => sum.all isLength).map length

/-- A quantity of a length as an item. Zero needs a unit in a sum. -/
def quantityItem (alone : Bool) (q : Quantity) : Item :=
  match q.measure with
  | .number => .number q.value
  | .percent => .percent q.value
  | .unit name => if alone then .length q.value.unsignedZero name else .measure q.value name

/-- The quantities behind the first one of a sum, each with whether it is added or taken away. -/
def termItems (q : Quantity) : List Item :=
  let sign := if q.value.negative then '-' else '+'
  [.space, .token (.delim sign), .space,
    quantityItem false (if q.value.negative then q.neg else q)]

/-- A margin as items. -/
def items : Margin → List Item
  | auto => [.word "auto".toList]
  | length [] => []
  | length [q] => [quantityItem true q]
  | length (q :: rest) =>
    .token (.function "calc".toList) :: quantityItem false q ::
      (rest.flatMap termItems ++ [Item.close])

/-- The margins that have to be written. -/
def sides (top right bottom left : Margin) : List Margin :=
  if !left.same right then [top, right, bottom, left]
  else if !bottom.same top then [top, right, bottom]
  else if !right.same top then [top, right]
  else [top]

/-- Reads the margins of one to four words. -/
def readAll? (words : List Node) : Option (List Item) := do
  let sides ← match ← words.mapM read? with
    | [a] => some (sides a a a a)
    | [a, b] => some (sides a b a b)
    | [a, b, c] => some (sides a b c b)
    | [a, b, c, d] => some (sides a b c d)
    | _ => none
  return [Item.space].intercalate (sides.map items)

end Margin

end ScopedStyles.Css
