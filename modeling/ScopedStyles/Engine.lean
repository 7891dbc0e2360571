/-!
# Engines

An engine scopes the class names of a stylesheet and tells which name became which. The rest of
the library takes any function for an engine.
-/

namespace ScopedStyles

/-- Why an engine refuses a stylesheet. -/
inductive EngineError where
  | parse (filename message : String)
  | pattern (message : String)
  | minify (message : String)
  | print (message : String)
  | encoding (message : String)
  deriving DecidableEq, Repr

/-- The wording of a refusal. -/
def EngineError.message : EngineError → String
  | parse filename message => s!"CSS parse error in {filename}: {message}"
  | pattern message => s!"CSS Modules pattern error: {message}"
  | minify message => s!"CSS minify error: {message}"
  | print message => s!"CSS print error: {message}"
  | encoding message => s!"CSS is not valid UTF-8: {message}"

namespace Engine

/-- What an engine is given. -/
structure Request where
  /-- The stylesheet. -/
  code : List UInt8
  /-- The stylesheet's path, which scoped names depend on. -/
  filename : String
  /-- Whether names are scoped at all. -/
  cssModules : Bool := true
  minify : Bool := false
  sourceMap : Bool := false
  deriving DecidableEq, Repr

/-- A scoped name, and whether the stylesheet itself refers to it. -/
structure Export where
  name : String
  isReferenced : Bool
  deriving DecidableEq, Repr

/-- What an engine answers. -/
structure Output where
  code : List UInt8
  /-- The scoped names under the names as written, in no order that means anything. -/
  exports : Option (List (String × Export))
  deriving DecidableEq, Repr

end Engine

end ScopedStyles
