import ScopedStyles.Css.Color
/-!
# Functions of colors

A function gives a color by three components and how opaque it is: by red, green and blue, by hue,
saturation and lightness, by hue, whiteness and blackness, or by the components of another space.
Functions of red, green and blue and of hues have commas between the components or none, and count
missing components as zero.
-/

namespace ScopedStyles.Css.Color

open Decimal (Binary Single)

/-- What stands between the brackets of a function of colors. Components can be missing. -/
structure Components where
  /-- Whether there are commas between the components. -/
  commas : Bool
  first : Option Quantity
  second : Option Quantity
  third : Option Quantity
  alpha : Option Quantity

/-- One, as a number. -/
def one : Quantity :=
  { value := Quantity.one }

/-- A component. It is missing where it says `none`, or is not a number. -/
def component? (n : Node) : Option (Option Quantity) :=
  match n.token with
  | .name s => if lower s = "none".toList then some none else none
  | _ => (Quantity.ofNode? n).map fun q => if q.value.isNumber then some q else none

/-- The components of nodes without white space. How opaque the color is stands behind a third
comma, or behind a slash where there are no commas. Between commas, nothing else can be missing. -/
def components? (nodes : List Node) : Option Components := do
  let isComma (n : Node) : Bool := n.token = .delim ','
  let commas := (nodes.drop 1).head?.any isComma
  let (three, rest) ← match nodes with
    | a :: b :: c :: d :: e :: rest =>
      if commas then if isComma d then some ([a, c, e], rest) else none
      else some ([a, b, c], d :: e :: rest)
    | [a, b, c] => some ([a, b, c], [])
    | _ => none
  let alpha ← match rest with
    | [] => some (some one)
    | [mark, alpha] =>
      if mark.token = .delim (if commas then ',' else '/') then component? alpha else none
    | _ => none
  match three.mapM component? with
  | some [first, second, third] =>
    if commas && [first, second, third].any Option.isNone then none
    else some { commas, first, second, third, alpha }
  | _ => none

/-- A component that is zero where it is missing. -/
def orZero (q : Option Quantity) : Quantity :=
  q.getD { value := .zero false }

/-- A number, or zero if it is below. -/
def notNegative (x : Single) : Single :=
  if x.negative && !x.isZero then .zero false else x

/-- A number between zero and one. -/
def clamp (x : Single) : Single :=
  if Quantity.one.lt x then Quantity.one else notNegative x

/-- A component as a number, where `basis` is that of a hundred hundredths. -/
def number? (basis : Single) (q : Quantity) : Option Single :=
  match q.measure with
  | .number => some q.value
  | .percent => some (q.value * basis)
  | .unit _ => none

/-- The byte nearest to a number, and zero if that is none. -/
def byte (x : Single) : Nat :=
  if x.isNumber then (min x.round 255).toNat else 0

/-- The part of a color, from zero to one, as a byte. -/
def partByte (x : Single) : Nat :=
  byte (x.scale 255 1)

/-- The byte of red, of green or of blue. -/
def channel? (q : Quantity) : Option Nat :=
  (number? (.ofNat 255) q).map byte

/-- The color of three bytes. -/
def ofBytes? (alpha : Option Quantity) : List Nat → Option Color
  | [red, green, blue] => do
    let alpha ← number? Quantity.one (orZero alpha)
    return rgba { rgb := (red * 256 + green) * 256 + blue, alpha := partByte alpha }
  | _ => none

/-- The color of red, green and blue. Between commas all of them are numbers, or all hundredths. -/
def ofRgb? (c : Components) : Option Color := do
  let parts := [c.first, c.second, c.third].map orZero
  if c.commas && !parts.all fun q => q.measure = (orZero c.first).measure then none
  ofBytes? c.alpha (← parts.mapM channel?)

/-- The part of red, of green or of blue in a color, between `low` and `high`. The hue is counted in
thirds of its circle. The part rises for half a third, stays for one and falls for another half. -/
def partOfHue (low high hue : Single) : Single :=
  let whole (n : Nat) : Single := .ofNat n
  let hue := if hue.lt (whole 0) then hue + whole 3 else hue
  let hue := if (whole 3).lt hue then hue - whole 3 else hue
  if (hue * whole 2).lt (whole 1) then low + (high - low) * hue * whole 2
  else if (hue * whole 2).lt (whole 3) then high
  else if hue.lt (whole 2) then low + (high - low) * (whole 2 - hue) * whole 2
  else low

/-- Red, green and blue, from zero to one, of a hue in degrees, a saturation and a lightness. -/
def parts (degrees saturation lightness : Single) : List Single :=
  let turns := (degrees.scale 1 360).floor
  let turn := (degrees - turns.scale 360 1).scale 1 360
  let high :=
    if (Binary.ofRatio 1 2).lt lightness then lightness + saturation - lightness * saturation
    else lightness * (saturation + Quantity.one)
  let low := lightness.scale 2 1 - high
  let hue := turn.scale 3 1
  [hue + Quantity.one, hue, hue - Quantity.one].map (partOfHue low high)

/-- A share from zero to one. It is given in hundredths, or as a number of them. -/
def share? (q : Option Quantity) : Option Single :=
  (number? (.ofNat 100) (orZero q)).map fun x => clamp (x.scale 1 100)

/-- The color of hue, saturation and lightness. -/
def ofHsl? (c : Components) : Option Color := do
  let parts := parts (← (orZero c.first).degrees?) (← share? c.second) (← share? c.third)
  ofBytes? c.alpha (parts.map partByte)

/-- The color of hue, whiteness and blackness. -/
def ofHwb? (c : Components) : Option Color := do
  let degrees ← (orZero c.first).degrees?
  let white ← share? c.second
  let black ← share? c.third
  let gray := white / (white + black)
  let parts := if (white + black).lt Quantity.one then
      (parts degrees Quantity.one (.ofRatio 1 2)).map fun x =>
        x * (Quantity.one - white - black) + white
    else [gray, gray, gray]
  if c.commas then none
  ofBytes? c.alpha (parts.map partByte)

/-- A space of colors by lightness and two other components. -/
structure PerceivedSpace where
  name : String
  /-- The greatest lightness. -/
  lightness : Single
  /-- What a hundred hundredths of the other components are. -/
  basis : Single
  /-- Whether the other components are a chroma and a hue. -/
  polar : Bool

/-- The spaces of colors by lightness. -/
def perceivedSpaces : List PerceivedSpace :=
  let whole (n : Nat) : Single := .ofNat n
  [⟨"lab", whole 100, whole 125, false⟩, ⟨"lch", whole 100, whole 150, true⟩,
    ⟨"oklab", whole 1, .ofRatio 2 5, false⟩, ⟨"oklch", whole 1, .ofRatio 2 5, true⟩]

/-- How opaque a color of another space is. -/
def alpha? (c : Components) : Option (Option Single) :=
  c.alpha.mapM fun q => (number? Quantity.one q).map clamp

/-- The color of a space by lightness. -/
def ofPerceived? (s : PerceivedSpace) (c : Components) : Option Color := do
  let lightness ← c.first.mapM fun q =>
    (number? s.lightness q).map fun x => notNegative x / s.lightness
  let first ← c.second.mapM fun q =>
    (number? s.basis q).map fun x => if s.polar then notNegative x else x
  let second ← c.third.mapM fun q => if s.polar then q.degrees? else number? s.basis q
  if c.commas then none
  return perceived s.name.toList lightness first second (← alpha? c)

/-- The spaces of colors with names of their own. -/
def predefinedSpaces : List String :=
  ["a98-rgb", "display-p3", "prophoto-rgb", "rec2020", "srgb", "srgb-linear", "xyz", "xyz-d50"]

/-- The color of a space with a name of its own. -/
def ofPredefined? (name : String) (c : Components) : Option Color := do
  let name := if name = "xyz-d65" then "xyz" else name
  let component (q : Option Quantity) := q.mapM (number? Quantity.one)
  if c.commas || !predefinedSpaces.contains name then none
  return predefined name.toList (← component c.first) (← component c.second)
    (← component c.third) (← alpha? c)

/-- The color of a function, given the nodes between its brackets without white space. -/
def ofFunction? (name : List Char) (nodes : List Node) : Option Color := do
  let name := String.ofList (lower name)
  if name = "rgb" ∨ name = "rgba" then ofRgb? (← components? nodes)
  else if name = "hsl" ∨ name = "hsla" then ofHsl? (← components? nodes)
  else if name = "hwb" then ofHwb? (← components? nodes)
  else if name = "color" then
    match nodes with
    | .leaf ⟨.name space, _, _⟩ :: rest =>
      ofPredefined? (String.ofList (lower space)) (← components? rest)
    | _ => none
  else
    let space ← perceivedSpaces.find? fun s => s.name = name
    ofPerceived? space (← components? nodes)

/-- The color of a node. -/
def ofNode? : Node → Option Color
  | .leaf l => ofToken? l.token
  | .block ⟨.function name, _, _⟩ inner _ =>
    match _h : Node.words inner with
    | [l, comma, d] =>
      if lower name = "light-dark".toList && comma.token = .delim ',' then do
        let l ← ofNode? l
        let d ← ofNode? d
        some (lightDark l.light d.dark)
      else ofFunction? name [l, comma, d]
    | nodes => ofFunction? name nodes
  | .block _ _ _ => none
termination_by n => sizeOf n
decreasing_by
  all_goals
    have := Node.sizeOf_words_le inner
    rw [_h] at this
    simp only [List.cons.sizeOf_spec, Node.block.sizeOf_spec] at this ⊢
    omega

end ScopedStyles.Css.Color
