import ScopedStyles.Css.Sheet
import ScopedStyles.Css.Writer
/-!
# Writing stylesheets

The texts of selectors, of declarations and of rules, each rule at a depth within other rules.
-/

namespace ScopedStyles.Css

open Decimal (Single)

namespace Writer

variable (w : Writer)

/-- A combinator. -/
def combinator : Combinator → List Char
  | .descendant => [' ']
  | .child => w.space ++ '>' :: w.space
  | .nextSibling => w.space ++ '+' :: w.space
  | .laterSibling => w.space ++ '~' :: w.space

/-- A simple selector. The names of pseudo-classes and of pseudo-elements are written as they
are. -/
def simple : Simple → List Char
  | .universal => ['*']
  | .type name => writeName name
  | .className name => '.' :: w.localName name
  | .id name => '#' :: w.localName name
  | .pseudoClass name => ':' :: name
  | .pseudoElement name =>
    if Simple.oldPseudoElements.contains name then ':' :: name else ':' :: ':' :: name
  | .function name arguments =>
    ':' :: (name ++ '(' :: (arguments.flatMap w.token ++ [')']))

/-- Whether a part stands between two compound selectors. -/
def isCombinator : Part → Bool
  | .combinator _ => true
  | _ => false

mutual

/-- A part of a selector. -/
def part (w : Writer) : Part → List Char
  | .simple s => w.simple s
  | .combinator c => w.combinator c
  | .group .negation selectors =>
    [':', 'n', 'o', 't', '('] ++ w.commaSeparated (selectorTexts w selectors) ++ [')']
  | .group .unscoped selectors =>
    let plain : Writer := { w with scope := none }
    plain.commaSeparated (selectorTexts plain selectors)
  | .group .scoped selectors => w.commaSeparated (selectorTexts w selectors)

/-- A selector. A universal selector that other parts follow says nothing and is left out. -/
def selector (w : Writer) : List Part → List Char
  | [] => []
  | .simple .universal :: next :: rest =>
    (if isCombinator next then ['*'] else []) ++ (part w next ++ selector w rest)
  | p :: rest => part w p ++ selector w rest

/-- The texts of selectors. -/
def selectorTexts (w : Writer) : List (List Part) → List (List Char)
  | [] => []
  | s :: rest => selector w s :: selectorTexts w rest

end

/-- A list of selectors. -/
def selectors (list : List Selector) : List Char :=
  w.commaSeparated (selectorTexts w list)

/-- The name of a property. -/
def property : Property → List Char
  | .standard s => s.name
  | .custom name => w.dashedName name
  | .unknown name => writeName name

/-- What stands in front of a value. White space that starts the value of a property that nobody
knows stands for the one for the eye. -/
def colon : Property → List Item → List Char
  | .standard _, _ => ':' :: w.space
  | _, list => if Item.startsBlank list then [':'] else ':' :: w.space

/-- A declaration, unless it only says what a class is composed of. -/
def declaration? (d : Declaration) : Option (List Char) :=
  let text (list : List Item) : List Char :=
    w.property d.property ++ w.colon d.property list ++ w.items list ++
      if d.important then w.space ++ "!important".toList else []
  match d.value with
  | .understood list | .raw list => some (text list)
  | .composes _ => none

/-- Declarations, each on a line. The last declaration of a minified rule has no semicolon. -/
def declarations (depth : Nat) (ds : List Declaration) : List Char :=
  let texts := (ds.filterMap w.declaration?).zipIdx.map fun (text, i) =>
    text ++ if w.minify && i + 1 = ds.length then [] else [';']
  (w.newline depth).intercalate texts

/-- The block of a rule. The line of the declarations is there as soon as one is. -/
def styleBlock (depth : Nat) (ds : List Declaration) : List Char :=
  w.space ++ '\x7b' :: ((if ds.isEmpty then [] else w.newline (depth + 1)) ++
    w.declarations (depth + 1) ds ++ w.newline depth ++ ['\x7d'])

/-- The block of a step of an animation. -/
def frameBlock (depth : Nat) (ds : List Declaration) : List Char :=
  w.space ++ '\x7b' :: (w.newline (depth + 1) ++ w.declarations (depth + 1) ds ++
    w.newline depth ++ ['\x7d'])

/-- All hundredths. -/
def wholePercent : Single :=
  .ofNat 1

/-- A moment of an animation, by its shortest name when minified. -/
def moment : Time → List Char
  | .start => if w.minify then ['0', '%'] else "from".toList
  | .finish => "to".toList
  | .percent x => if w.minify && x = wholePercent then "to".toList else percent x

/-- Texts with an empty line between them. -/
def separated (depth : Nat) (texts : List (List Char)) : List Char :=
  ((if w.minify then [] else ['\n']) ++ w.newline depth).intercalate texts

/-- A step of an animation. -/
def keyframe (depth : Nat) (k : Keyframe) : List Char :=
  w.commaSeparated (k.times.map w.moment) ++ w.frameBlock depth k.declarations

/-- Descriptions of media. -/
def query (q : Query) : List Char :=
  if q.isEmpty then "not all".toList
  else w.commaSeparated (q.map fun tokens => tokens.flatMap w.token)

/-- Whether rules for some media are written without their description, which says nothing. -/
def unwraps (q : Query) : Bool :=
  w.minify && q.alwaysMatches

mutual

/-- A rule. -/
def rule (w : Writer) (depth : Nat) : Rule → List Char
  | .style list ds => w.selectors list ++ w.styleBlock depth ds
  | .media q rules =>
    if w.unwraps q then w.separated depth (ruleTexts w depth rules)
    else
      "@media ".toList ++ w.query q ++ w.space ++ '\x7b' :: (w.newline (depth + 1) ++
        w.separated (depth + 1) (ruleTexts w (depth + 1) rules) ++ w.newline depth ++ ['\x7d'])
  | .keyframes name frames =>
    let frame (k : Keyframe) : List Char := w.newline (depth + 1) ++ w.keyframe (depth + 1) k
    "@keyframes ".toList ++ animationName name ++ w.space ++ '\x7b' ::
      ((if w.minify then [] else ['\n']).intercalate (frames.map frame) ++
        w.newline depth ++ ['\x7d'])

/-- The texts of rules. -/
def ruleTexts (w : Writer) (depth : Nat) : List Rule → List (List Char)
  | [] => []
  | r :: rest => rule w depth r :: ruleTexts w depth rest

end

/-- A notice. -/
def notice (text : List Char) : List Char :=
  ['/', '*'] ++ text ++ ['*', '/', '\n']

/-- A stylesheet. -/
def sheet (s : Sheet) : List Char :=
  s.notices.flatMap notice ++ w.separated 0 (ruleTexts w 0 s.rules) ++ w.newline 0

end Writer

end ScopedStyles.Css
