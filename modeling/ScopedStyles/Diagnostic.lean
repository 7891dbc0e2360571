import ScopedStyles.Resolver
/-!
# Diagnostics

What goes wrong with single imports without stopping the others.
-/

namespace ScopedStyles

/-- A report on an import that does not get all it asks for. -/
inductive Diagnostic where
  /-- An alias matched the specifier, but no file was found: the import is dropped. -/
  | unresolved (specifier : String) (reason : Resolver.Reason)
  /-- The stylesheet could not be read: the module is empty. -/
  | unreadable (path message : String)
  /-- The engine refused the stylesheet: the module is empty. -/
  | transformFailed (path message : String)
  deriving DecidableEq, Repr

namespace Diagnostic

/-- The code that reports a kind of diagnostic. -/
def code : Diagnostic → String
  | unresolved .. => "CSS_MODULE_UNRESOLVED"
  | unreadable .. => "CSS_MODULE_UNREADABLE"
  | transformFailed .. => "CSS_MODULE_TRANSFORM_FAILED"

/-- The wording of a diagnostic. -/
def message : Diagnostic → String
  | unresolved specifier reason => Resolver.unresolvedMessage specifier reason
  | unreadable path message => s!"Failed to read css module: {path}: {message}"
  | transformFailed path message => s!"Failed to transform css module: {path}: {message}"

/-- The named values of a diagnostic's entry in a log. -/
def logFields (d : Diagnostic) : List (String × String) :=
  [("code", d.code), ("message", d.message)] ++
    match d with
    | unresolved specifier reason => [("specifier", specifier), ("reason", reason.code)]
    | unreadable path _ => [("path", path)]
    | transformFailed path _ => [("path", path)]

/-- Whether a diagnostic is about an import that was dropped. -/
def isUnresolved : Diagnostic → Bool
  | unresolved .. => true
  | _ => false

end Diagnostic

end ScopedStyles
