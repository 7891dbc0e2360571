import ScopedStyles.Css.Node
/-!
# Quantities

A quantity is a number, a number of hundredths or a number with a unit. What it is can be left to a
calculation between the brackets of `calc`. That comes to a sum, of as few quantities as are known
to count different things.
-/

namespace ScopedStyles.Css

open Decimal (Binary Single)

/-- What a quantity counts. -/
inductive Measure where
  | number
  /-- Hundredths. The value is that of the whole quantity. -/
  | percent
  | unit (name : List Char)
  deriving DecidableEq, Repr

/-- A number of what it counts. -/
structure Quantity where
  value : Single
  measure : Measure := .number
  deriving DecidableEq, Repr

namespace Quantity

/-- The quantity of a token. A unit is written in small letters. -/
def ofToken? : Token → Option Quantity
  | .number n => some { value := n.value }
  | .percentage n => some { value := n.value, measure := .percent }
  | .dimension n unit => some { value := n.value, measure := .unit (lower unit) }
  | _ => none

/-- One as a single-precision number. -/
def one : Single :=
  .ofNat 1

/-- How many pixels there are in a unit of length, if that is known. -/
def pixelsPer? (unit : List Char) : Option Single :=
  let whole (n : Nat) : Single := .ofNat n
  let inch := whole 96
  let centimetre := inch / .ofRatio 127 50
  ([("px", one), ("in", inch), ("cm", centimetre), ("mm", centimetre / whole 10),
    ("q", centimetre / whole 40), ("pt", inch / whole 72), ("pc", inch / whole 6)]).lookup
      (String.ofList unit)

/-- A quantity as a number of pixels, if it is known how many these are. -/
def pixels? (q : Quantity) : Option Single :=
  match q.measure with
  | .unit name => (pixelsPer? name).map (q.value * ·)
  | _ => none

/-- The number of degrees of an angle. -/
def angle? (q : Quantity) : Option Single :=
  match q.measure with
  | .unit name =>
    if name = "deg".toList then some q.value
    else if name = "grad".toList then some ((q.value.scale 180 1).scale 1 200)
    else if name = "rad".toList then some (q.value.scale 469367 8192)
    else if name = "turn".toList then some (q.value.scale 360 1)
    else none
  | _ => none

/-- The number of degrees of an angle. A number is one of degrees. -/
def degrees? (q : Quantity) : Option Single :=
  if q.measure = .number then some q.value else q.angle?

/-- The sum of quantities that count the same. -/
def add? (p q : Quantity) : Option Quantity :=
  if p.measure = q.measure then some { p with value := p.value + q.value }
  else match p.pixels?, q.pixels?, p.angle?, q.angle? with
    | some x, some y, _, _ => some { value := x + y, measure := .unit "px".toList }
    | _, _, some x, some y => some { value := x + y, measure := .unit "deg".toList }
    | _, _, _, _ => none

/-- A quantity with the other sign. -/
def neg (q : Quantity) : Quantity :=
  { q with value := q.value.neg }

/-- A sum of quantities, no two of which can be added up. -/
abbrev Sum := List Quantity

namespace Sum

/-- A sum with a quantity that cannot be added to any of it. Zero says nothing next to another
quantity, and of two quantities one that is not taken away comes first. -/
def append (sum : Sum) (q : Quantity) : Sum :=
  match sum with
  | [] => [q]
  | [p] =>
    if p.measure = .number ∨ q.measure = .number then [p, q]
    else if p.value.isZero then [q]
    else if q.value.isZero then [p]
    else if p.value.negative && !q.value.negative then [q, p]
    else [p, q]
  | sum => if q.value.isZero && q.measure ≠ .number then sum else sum ++ [q]

/-- A sum where a quantity is added to the first one that counts the same. -/
def merge? (q : Quantity) : Sum → Option Sum
  | [] => none
  | p :: rest =>
    match p.add? q with
    | some r => some (r :: rest)
    | none => (merge? q rest).map (p :: ·)

/-- The sum of a sum and a quantity. -/
def insert (sum : Sum) (q : Quantity) : Sum :=
  match merge? q sum with
  | some merged => merged.foldl append []
  | none => append sum q

/-- The sum of two sums. -/
def add (sum other : Sum) : Sum :=
  other.foldl insert sum

/-- A sum times a number. -/
def scale (sum : Sum) (x : Single) : Sum :=
  sum.map fun q => { q with value := q.value * x }

/-- The product of sums, one of which is a number. -/
def mul? : Sum → Sum → Option Sum
  | sum, [⟨x, .number⟩] => some (sum.scale x)
  | [⟨x, .number⟩], sum => some (sum.scale x)
  | _, _ => none

/-- A sum divided by a number, which is not zero. It is multiplied by what one divided by the number
is. -/
def div? : Sum → Sum → Option Sum
  | sum, [⟨x, .number⟩] => if x.isZero then none else some (sum.scale (one / x))
  | _, _ => none

end Sum

/-- Whether brackets hold a calculation. -/
def isCalculation : Token → Bool
  | .opening b => b = .round
  | .function name => lower name = "calc".toList
  | _ => false

/-- A calculation of which some was read. -/
structure Calculation where
  /-- The sum of what is left of the last product. -/
  sum : Option Sum := none
  /-- Whether the last product is taken away from that. -/
  minus : Bool := false
  /-- The last product, up to its last factor. -/
  product : Option Sum := none
  /-- Whether that is divided by what comes next. -/
  divided : Bool := false

namespace Calculation

/-- A calculation with the next factor, or the next divisor, of its last product. -/
def take (c : Calculation) (factor : Sum) : Option Calculation := do
  let product ← match c.product with
    | none => some factor
    | some p => if c.divided then p.div? factor else p.mul? factor
  return { c with product := some product }

/-- What a calculation amounts to. -/
def total (c : Calculation) : Option Sum := do
  let product ← c.product
  let term := if c.minus then product.map neg else product
  match c.sum with
  | none => some term
  | some sum => some (sum.add term)

/-- A calculation where a new product starts. -/
def next (c : Calculation) (minus : Bool) : Option Calculation := do
  let sum ← c.total
  return { sum := some sum, minus }

mutual

/-- What a calculation amounts to where a quantity comes next. -/
def value (c : Calculation) : List Node → Option Sum
  | [] => none
  | .leaf l :: rest =>
    if l.token.isSpace then c.value rest
    else do
      let q ← ofToken? l.token
      let c ← c.take [q]
      c.operator false rest
  | .block head inner _ :: rest =>
    if isCalculation head.token then do
      let sum ← value {} inner
      let c ← c.take sum
      c.operator false rest
    else none

/-- What a calculation amounts to where an operator comes next, or the end. White space, which
`spaced` tells of, stands in front of a sign. -/
def operator (c : Calculation) (spaced : Bool) : List Node → Option Sum
  | [] => c.total
  | .leaf l :: rest =>
    match l.token with
    | .blank _ => c.operator true rest
    | .comment _ => c.operator spaced rest
    | .delim '*' => value { c with divided := false } rest
    | .delim '/' => value { c with divided := true } rest
    | .delim '+' => if spaced then do (← c.next false).value rest else none
    | .delim '-' => if spaced then do (← c.next true).value rest else none
    | _ => none
  | .block _ _ _ :: _ => none

end

end Calculation

/-- The sum of a node that holds a calculation. -/
def ofCalculation? : Node → Option Sum
  | .block ⟨.function name, _, _⟩ inner _ =>
    if isCalculation (.function name) then Calculation.value {} inner else none
  | _ => none

/-- The quantity of a node. -/
def ofNode? : Node → Option Quantity
  | .leaf l => ofToken? l.token
  | n =>
    match ofCalculation? n with
    | some [q] => some q
    | _ => none

end Quantity

end ScopedStyles.Css
