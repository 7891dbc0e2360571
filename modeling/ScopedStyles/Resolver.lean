import ScopedStyles.Alias
import ScopedStyles.Path
/-!
# Resolvers

A resolver turns the specifier of an import, and the alias that matched it, into the path of a file,
or says why it cannot.
-/

namespace ScopedStyles.Resolver

/-- What a resolver is asked. -/
structure Request where
  specifier : String
  /-- The file that holds the import, if it is known. -/
  importer : Option Path := none
  /-- The alias that matched the specifier. -/
  matched : Option Alias := none
  deriving DecidableEq, Repr

/-- The directory of the importing file. -/
def Request.importerDirectory? (r : Request) : Option Path :=
  r.importer.bind Path.parent?

/-- Why a specifier leads to no file. -/
inductive Reason where
  | specifierInvalid
  | unsupportedScheme
  | notFound
  | isDirectory
  | nodeModulesNotFound
  deriving DecidableEq, Repr

/-- The code that reports a reason. -/
def Reason.code : Reason → String
  | specifierInvalid => "SPECIFIER_INVALID"
  | unsupportedScheme => "UNSUPPORTED_SCHEME"
  | notFound => "NOT_FOUND"
  | isDirectory => "IS_DIRECTORY"
  | nodeModulesNotFound => "NODE_MODULES_NOT_FOUND"

/-- A specifier that leads to no file, with the paths that were looked at. -/
structure Failure where
  specifier : String
  reason : Reason
  tried : List Path := []
  deriving DecidableEq, Repr

/-- The wording of an unresolved specifier. -/
def unresolvedMessage (specifier : String) (reason : Reason) : String :=
  s!"Failed to resolve path: {specifier} ({reason.code})"

/-- The wording of a failure. -/
def Failure.message (f : Failure) : String :=
  unresolvedMessage f.specifier f.reason

end ScopedStyles.Resolver
