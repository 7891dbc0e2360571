import ScopedStyles.Css.Sheet
/-!
# Minifying stylesheets

In a rule, colors and custom properties keep their first place with their last value, and some
properties go behind all others with their last value. Rules without declarations are dropped. Of
two neighbouring rules with the same selectors or the same declarations one is made, a rule that a
later one with the same selectors and properties replaces is dropped, and of animations with the
same name the last one takes the place of the first.
-/

namespace ScopedStyles.Css

namespace Declaration

/-- Declarations that are being minified. -/
structure Progress where
  done : List Declaration := []
  /-- The last values of properties that go behind the others. -/
  held : List Declaration := []

/-- Properties that go behind all others, in this order. -/
def deferred : List Standard :=
  [.gridArea, .margin, .animationName, .display, .containerName]

/-- Whether the last value of a property takes the place of its first. -/
def isReplaced : Property → Bool
  | .standard .color | .custom _ => true
  | _ => false

/-- Whether a property goes behind the others. -/
def isDeferred : Property → Bool
  | .standard s => deferred.contains s
  | _ => false

/-- Whether a value is one that its property understands. -/
def isUnderstood : Value → Bool
  | .understood _ => true
  | _ => false

/-- Puts a declaration in the place of the first one for its property. -/
def put (d : Declaration) : List Declaration → List Declaration
  | [] => [d]
  | e :: rest => if e.property = d.property then d :: rest else e :: put d rest

/-- Takes the next declaration. A value that its property does not understand keeps its place, and
so does the one before. -/
def Progress.add (p : Progress) (d : Declaration) : Progress :=
  if isReplaced d.property then { p with done := put d p.done }
  else if !isDeferred d.property then { p with done := p.done ++ [d] }
  else if isUnderstood d.value then { p with held := put d p.held }
  else
    let (flushed, held) := p.held.partition fun e => e.property = d.property
    { done := p.done ++ flushed ++ [d], held }

/-- The declarations with those behind the others. -/
def Progress.finish (p : Progress) : List Declaration :=
  p.done ++ deferred.flatMap fun s => p.held.filter fun d => d.property = .standard s

/-- The declarations of a minified rule. -/
def minify (ds : List Declaration) : List Declaration :=
  let fold (ds : List Declaration) := (ds.foldl Progress.add {}).finish
  fold (ds.filter fun d => !d.important) ++ fold (ds.filter fun d => d.important)

/-- Whether two lists of declarations are about the same properties. -/
def sameProperties (ds es : List Declaration) : Bool :=
  ds.map (·.property) = es.map (·.property)

end Declaration

namespace Rule

/-- One rule in place of two neighbouring ones, unless a selector of theirs is not a standard one,
so that whoever does not know it drops the whole rule. -/
def merge? : Rule → Rule → Option Rule
  | style s ds, style t es =>
    if !(Selector.areStandard s && Selector.areStandard t) then none
    else if Selector.sameLists s t then some (style s (Declaration.minify (ds ++ es)))
    else if ds = es then some (style (s ++ t) ds)
    else none
  | _, _ => none

/-- What a rule of selectors is found by. -/
structure Key where
  selectors : List Selector
  properties : List Property

/-- Whether two keys are the same. -/
def Key.same (k l : Key) : Bool :=
  Selector.sameLists k.selectors l.selectors && k.properties = l.properties

/-- Rules that are being minified. -/
structure Shelf where
  /-- The rules, last one first, and gaps where rules were replaced. -/
  slots : List (Option Rule) := []
  /-- Where rules of selectors were put, counted from the first one. -/
  styles : List (Key × Nat) := []
  /-- Where animations were put, counted from the first rule. -/
  animations : List (List Char × Nat) := []

namespace Shelf

/-- The rule at an index. -/
def rule? (s : Shelf) (i : Nat) : Option Rule :=
  s.slots.reverse[i]?.join

/-- Puts a rule, or a gap, at an index. -/
def set (s : Shelf) (i : Nat) (r : Option Rule) : Shelf :=
  { s with slots := (s.slots.reverse.set i r).reverse }

/-- Puts a rule behind all others. -/
def push (s : Shelf) (r : Rule) : Shelf :=
  { s with slots := some r :: s.slots }

/-- Merges the last rule into the one before, as long as that is possible. -/
def mergeLast : List (Option Rule) → List (Option Rule)
  | some last :: some before :: rest =>
    match merge? before last with
    | some merged => mergeLast (some merged :: rest)
    | none => some last :: some before :: rest
  | slots => slots
termination_by slots => slots.length

/-- Whether the rule at an index is one for these selectors and properties. -/
def holds (s : Shelf) (selectors : List Selector) (ds : List Declaration) (i : Nat) : Bool :=
  match s.rule? i with
  | some (style t es) => Selector.sameLists selectors t && Declaration.sameProperties ds es
  | _ => false

/-- Puts a rule of selectors behind all others, in place of one that it replaces. -/
def pushStyle (s : Shelf) (selectors : List Selector) (ds : List Declaration) : Shelf :=
  let key : Key := { selectors, properties := ds.map (·.property) }
  let index := s.slots.length
  let s := s.push (style selectors ds)
  let isOld (entry : Key × Nat) : Bool := entry.1.same key && s.holds selectors ds entry.2
  match if index = 0 then none else s.styles.find? isOld with
  | some (_, i) =>
    { s.set i none with styles := (key, index) :: s.styles.eraseP isOld }
  | none => { s with styles := (key, index) :: s.styles }

/-- Adds a rule of selectors. -/
def addStyle (s : Shelf) (selectors : List Selector) (ds : List Declaration) : Shelf :=
  let r := style selectors ds
  match s.slots with
  | some last :: rest =>
    match merge? last r with
    | some merged => { s with slots := mergeLast (some merged :: rest) }
    | none => if ds.isEmpty then s else s.pushStyle selectors ds
  | _ => if ds.isEmpty then s else s.pushStyle selectors ds

/-- Adds an animation, in place of one with the same name. -/
def addAnimation (s : Shelf) (name : List Char) (frames : List Keyframe) : Shelf :=
  let r := keyframes name frames
  match (s.animations.lookup name).filter fun i => (s.rule? i).any fun
    | keyframes _ _ => true
    | _ => false with
  | some i => s.set i (some r)
  | none => { s.push r with animations := (name, s.slots.length) :: s.animations }

/-- Puts a rule for some media behind all others, unless nothing comes of it. -/
def pushMedia (s : Shelf) (q : Query) (rules : List Rule) : Shelf :=
  if rules.isEmpty || q.neverMatches then s else s.push (media q rules)

/-- Adds a rule for some media. `inside` minifies the rules in it. -/
def addMedia (inside : List Rule → List Rule) (s : Shelf) (q : Query) (rules : List Rule) :
    Shelf :=
  match s.slots with
  | some (media p earlier) :: rest =>
    if p = q then { s with slots := some (media p (inside (earlier ++ rules))) :: rest }
    else s.pushMedia q (inside rules)
  | _ => s.pushMedia q (inside rules)

/-- Adds a rule. -/
def add (inside : List Rule → List Rule) (s : Shelf) : Rule → Shelf
  | style selectors ds => s.addStyle selectors (Declaration.minify ds)
  | media q rules => s.addMedia inside q rules
  | keyframes name frames =>
    s.addAnimation name (frames.map fun k =>
      { k with declarations := Declaration.minify k.declarations })

/-- The rules in order. -/
def rules (s : Shelf) : List Rule :=
  s.slots.reverse.filterMap id

end Shelf

mutual

/-- How deep rules for some media are nested in a rule. -/
def depth : Rule → Nat
  | media _ rules => depthOfAll rules + 1
  | _ => 0

/-- How deep rules for some media are nested in rules. -/
def depthOfAll : List Rule → Nat
  | [] => 0
  | r :: rest => max (depth r) (depthOfAll rest)

end

/-- Minifies rules in which rules for some media are nested no deeper than `bound`. -/
def minifyWithin : Nat → List Rule → List Rule
  | 0, rules => (rules.foldl (Shelf.add id) {}).rules
  | bound + 1, rules => (rules.foldl (Shelf.add (minifyWithin bound)) {}).rules

/-- Minifies rules. -/
def minifyAll (rules : List Rule) : List Rule :=
  minifyWithin (depthOfAll rules) rules

end Rule

/-- A minified stylesheet. -/
def Sheet.minify (s : Sheet) : Sheet :=
  { s with rules := Rule.minifyAll s.rules }

end ScopedStyles.Css
