import ScopedStyles.Css.Color
/-!
# Items of values

A value is kept item by item, with its white space and its comments, where nobody has to understand
it. Names that start with `--`, colors, addresses and numbers with known units are told from other
tokens.
-/

namespace ScopedStyles.Css

open Decimal (Single)

/-- Where a name that starts with `--` comes from. -/
inductive Origin where
  | here
  /-- No scope at all. -/
  | everywhere
  | file (name : List Char)
  deriving DecidableEq, Repr

/-- An item of a value. -/
inductive Item where
  | token (t : Token)
  | color (c : Color)
  | integer (n : Int)
  /-- A number with a known unit. -/
  | measure (value : Single) (unit : List Char)
  /-- A length where zero needs no unit. -/
  | length (value : Single) (unit : List Char)
  /-- A number of hundredths. -/
  | percent (value : Single)
  /-- The name of an animation, written between quotes. -/
  | quotedName (name : List Char)
  /-- A name that starts with `--`. -/
  | dashedName (name : List Char)
  /-- A name that starts with `--`, whose value is taken. -/
  | reference (name : List Char) (origin : Origin)
  | url (address : List Char)
  /-- A comma that white space follows only for the eye. -/
  | separator
  /-- A slash that white space surrounds only for the eye. -/
  | slash
  deriving DecidableEq, Repr

namespace Item

/-- Units of lengths. -/
def lengthUnits : List (List Char) :=
  ["cap", "ch", "cm", "cqb", "cqh", "cqi", "cqmax", "cqmin", "cqw", "dvb", "dvh", "dvi", "dvmax",
    "dvmin", "dvw", "em", "ex", "ic", "in", "lh", "lvb", "lvh", "lvi", "lvmax", "lvmin", "lvw",
    "mm", "pc", "pt", "px", "q", "rcap", "rch", "rem", "rex", "ric", "rlh", "svb", "svh", "svi",
    "svmax", "svmin", "svw", "vb", "vh", "vi", "vmax", "vmin", "vw"].map String.toList

/-- Units of times. -/
def timeUnits : List (List Char) :=
  ["ms", "s"].map String.toList

/-- Units of angles. -/
def angleUnits : List (List Char) :=
  ["deg", "grad", "rad", "turn"].map String.toList

/-- Units of resolutions. -/
def resolutionUnits : List (List Char) :=
  ["dpcm", "dpi", "dppx", "x"].map String.toList

/-- Units that are known. -/
def units : List (List Char) :=
  lengthUnits ++ timeUnits ++ angleUnits ++ resolutionUnits

/-- The item of a token. -/
def ofToken : Token → Item
  | .name s => if isDashed s then dashedName s else token (.name s)
  | .hash s | .idHash s => ((Rgba.ofHex? s).map fun c => color (.rgba c)).getD (token (.hash s))
  | .dimension n unit =>
    if units.contains (lower unit) then measure n.value (lower unit)
    else token (.dimension n unit)
  | .url address => url address
  | t => token t

/-- Whether an item is white space. -/
def isBlank : Item → Bool
  | token t => t.isBlank
  | _ => false

/-- Whether an item is white space or a comment. -/
def isSpace : Item → Bool
  | token t => t.isSpace
  | _ => false

/-- A word. -/
def word (s : List Char) : Item :=
  token (.name s)

/-- A number on its own. -/
def number (x : Single) : Item :=
  token (.number { signed := false, value := x, whole? := none })

/-- A space. -/
def space : Item :=
  token (.blank [' '])

/-- Items with the same item between them. -/
def joined (between : Item) (items : List Item) : List Item :=
  [between].intercalate (items.map fun item => [item])

/-- Items without white space in front. -/
def trimStart : List Item → List Item
  | [] => []
  | item :: rest => if item.isBlank then rest else item :: rest

/-- Items without white space at their ends, unless that is all there is. -/
def trim : List Item → List Item
  | [item] => [item]
  | items => (trimStart (trimStart items).reverse).reverse

/-- Whether items start with white space. -/
def startsBlank (items : List Item) : Bool :=
  items.head?.any isBlank

/-- A comma as it stands. -/
def comma : Item :=
  token (.delim ',')

/-- The end of round brackets. -/
def close : Item :=
  token (.closing .round)

/-- Items behind a comma. White space that is all there is stands for the one for the eye. -/
def behindComma (items : List Item) : List Item :=
  if startsBlank (trim items) then comma :: trim items else separator :: trim items

end Item

end ScopedStyles.Css
