import ScopedStyles.Css.Quantity
import ScopedStyles.Css.Rgba
/-!
# Colors

A color is one of red, green and blue, the color of the text around, one of the reader's system, one
of another space of colors, or a pair of colors for light and dark pages.
-/

namespace ScopedStyles.Css

open Decimal (Single)

/-- A color. Components of other spaces can be missing. -/
inductive Color where
  | rgba (c : Rgba)
  | current
  | system (name : List Char)
  /-- Lightness, from zero to one, with two components that depend on the space. -/
  | perceived (space : List Char) (lightness first second alpha : Option Single)
  /-- Three components of a space with a name of its own. -/
  | predefined (space : List Char) (first second third alpha : Option Single)
  | lightDark (light dark : Color)
  deriving DecidableEq, Repr

namespace Color

/-- The colors of the reader's system, in small letters. -/
def systemColors : List (List Char) :=
  ["accentcolor", "accentcolortext", "activeborder", "activecaption", "activetext",
    "appworkspace", "background", "buttonborder", "buttonface", "buttonhighlight", "buttonshadow",
    "buttontext", "canvas", "canvastext", "captiontext", "field", "fieldtext", "graytext",
    "highlight", "highlighttext", "inactiveborder", "inactivecaption", "inactivecaptiontext",
    "infobackground", "infotext", "linktext", "mark", "marktext", "menu", "menutext", "scrollbar",
    "selecteditem", "selecteditemtext", "threeddarkshadow", "threedface", "threedhighlight",
    "threedlightshadow", "threedshadow", "visitedtext", "window", "windowframe",
    "windowtext"].map String.toList

/-- The color of a token. -/
def ofToken? : Token → Option Color
  | .name s =>
    if lower s = "currentcolor".toList then some current
    else if systemColors.contains (lower s) then some (system (lower s))
    else (Rgba.ofName? s).map rgba
  | .hash s | .idHash s => (Rgba.ofHex? s).map rgba
  | _ => none

/-- The color for light pages. -/
def light : Color → Color
  | lightDark c _ => c
  | c => c

/-- The color for dark pages. -/
def dark : Color → Color
  | lightDark _ c => c
  | c => c

end Color

end ScopedStyles.Css
