import ScopedStyles.Css.Write
import ScopedStyles.Engine
/-!
# Exports of a stylesheet

The names that a scope changes, with their scoped forms: class names and ids outside of `:global`,
and, where names that start with `--` are scoped, those in declarations.
-/

namespace ScopedStyles.Css

/-- A place where a stylesheet uses a name that can be scoped. -/
inductive NameUse where
  /-- A class name or an id. -/
  | localName (name : List Char)
  /-- A name that starts with `--`. -/
  | dashed (name : List Char)
  /-- A custom property whose value is used. -/
  | referenced (name : List Char)
  deriving DecidableEq, Repr

namespace NameUse

/-- The uses in a simple selector. -/
def ofSimple : Simple → List NameUse
  | .className name | .id name => [localName name]
  | _ => []

mutual

/-- The uses in a part of a selector. -/
def ofPart : Part → List NameUse
  | .simple s => ofSimple s
  | .group .negation selectors | .group .scoped selectors => ofSelectors selectors
  | _ => []

/-- The uses in a selector. -/
def ofSelector : List Part → List NameUse
  | [] => []
  | p :: rest => ofPart p ++ ofSelector rest

/-- The uses in selectors. -/
def ofSelectors : List (List Part) → List NameUse
  | [] => []
  | s :: rest => ofSelector s ++ ofSelectors rest

end

/-- The uses in an item of a value. -/
def ofItem : Item → List NameUse
  | .dashedName name => [dashed name]
  | .reference name .here => [referenced name]
  | _ => []

/-- The uses in a property. -/
def ofProperty : Property → List NameUse
  | .custom name => [dashed name]
  | _ => []

/-- The uses in a value. -/
def ofValue : Value → List NameUse
  | .understood items | .raw items => items.flatMap ofItem
  | .composes _ => []

/-- The uses in a declaration. -/
def ofDeclaration (d : Declaration) : List NameUse :=
  ofProperty d.property ++ ofValue d.value

mutual

/-- The uses in a rule. -/
def ofRule : Rule → List NameUse
  | .style selectors ds => ofSelectors selectors ++ ds.flatMap ofDeclaration
  | .media _ rules => ofRules rules
  | .keyframes _ frames => frames.flatMap fun k => k.declarations.flatMap ofDeclaration

/-- The uses in rules. -/
def ofRules : List Rule → List NameUse
  | [] => []
  | r :: rest => ofRule r ++ ofRules rest

end

end NameUse

namespace Scope

/-- The export of a use. -/
def export? (s : Scope) : NameUse → Option (String × Engine.Export)
  | .localName name =>
    some (String.ofList name, { name := String.ofList (s.apply name), isReferenced := false })
  | .dashed name =>
    if s.dashedIdents then
      some (String.ofList name,
        { name := String.ofList (s.applyDashed name), isReferenced := false })
    else none
  | .referenced name =>
    if s.dashedIdents then
      some (String.ofList name,
        { name := String.ofList (s.applyDashed name), isReferenced := true })
    else none

/-- Adds an export. The first one for a name stays; what refers to it marks it. -/
def addExport (exports : List (String × Engine.Export)) (e : String × Engine.Export) :
    List (String × Engine.Export) :=
  match exports with
  | [] => [e]
  | f :: rest =>
    if f.1 = e.1 then
      (f.1, { f.2 with isReferenced := f.2.isReferenced || e.2.isReferenced }) :: rest
    else f :: addExport rest e

/-- The exports of a stylesheet, each name once. -/
def exports (s : Scope) (rules : List Rule) : List (String × Engine.Export) :=
  ((NameUse.ofRules rules).filterMap s.export?).foldl addExport []

end Scope

end ScopedStyles.Css
