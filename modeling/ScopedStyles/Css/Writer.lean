import ScopedStyles.Css.Item
import ScopedStyles.Css.Scope
/-!
# Writing names, tokens and values

A stylesheet is written with a declaration on each line and an empty line between rules, or
minified, without any white space that can be left out. Names are scoped on the way if there is a
scope.
-/

namespace ScopedStyles.Css

open Decimal (Single)

/-- How a stylesheet is written. -/
structure Writer where
  minify : Bool
  scope : Option Scope

namespace Writer

variable (w : Writer)

/-- White space that can be left out. -/
def space : List Char :=
  if w.minify then [] else [' ']

/-- The end of a line, and the indentation of the next one. -/
def newline (depth : Nat) : List Char :=
  if w.minify then [] else '\n' :: List.replicate (2 * depth) ' '

/-- Texts with commas between them. -/
def commaSeparated (items : List (List Char)) : List Char :=
  (',' :: w.space).intercalate items

/-- A class name or an id. -/
def localName (name : List Char) : List Char :=
  match w.scope with
  | some scope => scope.write name
  | none => writeName name

/-- A name that starts with `--`. -/
def dashedName (name : List Char) : List Char :=
  match w.scope with
  | some scope => if scope.dashedIdents then scope.writeDashed name else writeName name
  | none => writeName name

/-- A name that starts with `--` and comes from somewhere. -/
def reference (name : List Char) (origin : Origin) : List Char :=
  match w.scope, origin with
  | some scope, .file file => scope.writeDashedFrom file name
  | _, .everywhere => writeName name
  | _, _ => w.dashedName name

/-- A string. -/
def string (text : List Char) : List Char :=
  '"' :: (text.flatMap fun c =>
    if c = '"' || c = '\\' then ['\\', c]
    else if c = '\x00' then ['\ufffd']
    else if c.toNat < 0x20 || c = '\x7f' then codeEscape c
    else [c]) ++ ['"']

/-- A unit. What starts like an exponent is no unit as it stands. -/
def unit (s : List Char) : List Char :=
  match s with
  | c :: rest =>
    if (c = 'e' ∨ c = 'E') ∧ (rest.isEmpty ∨ rest.head? = some '-') then
      codeEscape 'e' ++ writeNamePart rest
    else writeName s
  | [] => []

/-- An address without quotes. -/
def address (text : List Char) : List Char :=
  text.flatMap fun c =>
    if c.toNat ≤ 0x20 || c = '\x7f' then codeEscape c
    else if ['(', ')', '"', '\'', '\\'].contains c then ['\\', c]
    else [c]

/-- An address, without quotes when minified, unless it is longer so. -/
def url (text : List Char) : List Char :=
  let size := Pattern.byteLength
  let quoted := "url(".toList ++ string text ++ [')']
  let bare := "url(".toList ++ address text ++ [')']
  if w.minify && (size bare ≤ size text + 7 || size bare ≤ size quoted) then bare else quoted

/-- A token. -/
def token : Token → List Char
  | .name s => writeName s
  | .function s => writeName s ++ ['(']
  | .atKeyword s => '@' :: writeName s
  | .idHash s => '#' :: writeName s
  | .hash s => '#' :: writeNamePart s
  | .string s | .badString s => string s
  | .url s | .badUrl s => "url(".toList ++ address s ++ [')']
  | .cdo => ['<', '!', '-', '-']
  | .cdc => ['-', '-', '>']
  | .matching c => [c, '=']
  | .number n => n.tokenText n.value
  | .percentage n => n.tokenText (n.value.scale 100 1) ++ ['%']
  | .dimension n s => n.tokenText n.value ++ unit s
  | .blank text => if w.minify then [' '] else text
  | .comment text => if w.minify then [] else ['/', '*'] ++ text ++ ['*', '/']
  | .delim c => [c]
  | .opening b => [b.opening]
  | .closing b => [b.closing]

/-- A number of hundredths. -/
def percent (x : Single) : List Char :=
  Numeral.unitText (x.scale 100 1) ++ ['%']

/-- A time in seconds or, if that is shorter, in milliseconds. -/
def time (x : Single) (unit : List Char) : List Char :=
  let s : List Char := ['s']
  let ms : List Char := ['m', 's']
  if unit = s && !x.negative && !x.isZero && x.isBelow 1 10 then
    Numeral.text (x.scale 1000 1) ++ ms
  else if unit = ms && (x.isZero || (x.isNumber && !x.negative && !x.isBelow 100 1)) then
    Numeral.text (x.scale 1 1000) ++ s
  else Numeral.text x ++ unit

/-- An angle. Radians are written in degrees, as long as there are enough of them. -/
def angle (x : Single) (unit : List Char) : List Char :=
  let degrees := x.scale 469367 8192
  if unit = "rad".toList && (degrees.scale 100000 1).isFinite then
    Numeral.unitText degrees.unsignedZero ++ "deg".toList
  else Numeral.unitText x.unsignedZero ++ unit

/-- A resolution. -/
def resolution (x : Single) (unit : List Char) : List Char :=
  Numeral.unitText x ++ if unit = "dppx".toList then ['x'] else unit

/-- A number with a known unit. -/
def measure (x : Single) (unit : List Char) : List Char :=
  if Item.timeUnits.contains unit then time x unit
  else if Item.angleUnits.contains unit then angle x unit
  else if Item.resolutionUnits.contains unit then resolution x unit
  else Numeral.unitText x ++ unit

/-- A component of a color. -/
def component : Option Single → List Char
  | some x => Numeral.text x
  | none => "none".toList

/-- How opaque a color is, if it is not wholly so. -/
def alpha (x : Option Single) : List Char :=
  if x = some Quantity.one then [] else w.space ++ '/' :: (w.space ++ component x)

/-- A color. -/
def color : Color → List Char
  | .rgba c => c.text
  | .current => "currentColor".toList
  | .system name => name
  | .perceived space lightness first second opacity =>
    let lightness := (lightness.map percent).getD "none".toList
    space ++ '(' :: ([' '].intercalate [lightness, component first, component second] ++
      (w.alpha opacity ++ [')']))
  | .predefined space first second third opacity =>
    let components := [first, second, third].map component
    "color(".toList ++ ([' '].intercalate (space :: components) ++ (w.alpha opacity ++ [')']))
  | .lightDark light dark =>
    "light-dark(".toList ++ color light ++ ',' :: (w.space ++ color dark ++ [')'])

/-- The name of an animation. A word that is no name stands between quotes. -/
def animationName (name : List Char) : List Char :=
  if isNoAnimation name then string name else writeName name

/-- An item of a value. -/
def item : Item → List Char
  | .token (.number n) => Numeral.text n.value
  | .token (.dimension n s) => Numeral.unitText n.value ++ unit s
  | .token t => w.token t
  | .color c => w.color c
  | .integer n => Numeral.integerText n
  | .measure x unit => measure x unit
  | .length x unit => if x.isZero then ['0'] else measure x unit
  | .percent x => percent x
  | .quotedName name => animationName name
  | .dashedName name => w.dashedName name
  | .reference name origin => w.reference name origin
  | .url address => w.url address
  | .separator => ',' :: w.space
  | .slash => w.space ++ '/' :: w.space

/-- The items of a value. -/
def items (list : List Item) : List Char :=
  list.flatMap w.item

end Writer

end ScopedStyles.Css
