import ScopedStyles.Config
import ScopedStyles.Css.Exports
import ScopedStyles.Css.Minify
/-!
# The built-in engine

Reads a stylesheet, scopes its names by a pattern, and writes it again. A stylesheet that is no text
is refused first, then a pattern that is none, and then what is wrong with the stylesheet.
-/

namespace ScopedStyles.Engine

open Css

/-- The settings of the built-in engine. -/
structure BuiltIn where
  pattern : String := ({} : Config).pattern
  dashedIdents : Bool := false

/-- The engine of a configuration. -/
def BuiltIn.ofConfig (c : Config) : BuiltIn :=
  { pattern := c.pattern, dashedIdents := c.dashedIdents }

/-- Whether a class can compose others where these selectors stand: each is one class. -/
def canCompose (selectors : List Selector) : Bool :=
  selectors.all fun
    | [.simple (.className _)] => true
    | _ => false

/-- Where declarations compose classes. -/
def composesAt? (ds : List Declaration) : Option Nat :=
  ds.findSome? fun d => match d.value with
    | .composes place => some place
    | _ => none

/-- What is wrong where classes are composed. `nested` tells of a rule within another one. -/
def composesReason? (nested : Bool) (selectors : List Selector) : Option Reason :=
  if nested then some .nestedComposes
  else if canCompose selectors then none
  else some .misplacedComposes

mutual

/-- What is wrong where a rule composes classes. -/
def composesFaultIn (w : Writer) (nested : Bool) : Rule → Option Fault
  | .style selectors ds => do
    let place ← composesAt? ds
    let reason ← composesReason? nested selectors
    return ⟨reason, place⟩
  | .media q rules => composesFaultAmong w (nested || !w.unwraps q) rules
  | .keyframes _ _ => none

/-- What is wrong where rules compose classes. -/
def composesFaultAmong (w : Writer) (nested : Bool) : List Rule → Option Fault
  | [] => none
  | r :: rest => (composesFaultIn w nested r).or (composesFaultAmong w nested rest)

end

/-- The stylesheet of a request that is to be written. -/
def readSheet (r : Request) (d : Dialect) (w : Writer) (text : List Char) :
    Except EngineError Sheet := do
  let sheet ← (Sheet.ofText d text).mapError fun f =>
    EngineError.parse r.filename (f.message r.filename text)
  let sheet := if r.minify then sheet.minify else sheet
  match composesFaultAmong w false sheet.rules with
  | some fault => .error (.print (fault.message r.filename text))
  | none => .ok sheet

/-- The scope of a request, if names are scoped. -/
def BuiltIn.scope (e : BuiltIn) (r : Request) : Except EngineError (Option Scope) :=
  if r.cssModules then
    match Pattern.ofString e.pattern with
    | .error error => .error (.pattern error.message)
    | .ok segments => .ok (some (Scope.ofFile segments e.dashedIdents r.filename))
  else .ok none

/-- What the stylesheet of a request can say. -/
def BuiltIn.dialect (e : BuiltIn) (r : Request) : Dialect :=
  { modules := r.cssModules, dashedIdents := r.cssModules && e.dashedIdents }

/-- Transforms a stylesheet. -/
def BuiltIn.transform (e : BuiltIn) (r : Request) : Except EngineError Output := do
  let text ← (Text.Utf8.decode r.code).mapError fun f => EngineError.encoding f.message
  let scope ← e.scope r
  let writer : Writer := { minify := r.minify, scope }
  let sheet ← readSheet r (e.dialect r) writer text
  return { code := Text.Utf8.encode (writer.sheet sheet)
           exports := scope.map fun s => s.exports sheet.rules }

end ScopedStyles.Engine
