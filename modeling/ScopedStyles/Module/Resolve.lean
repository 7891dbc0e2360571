import ScopedStyles.Import.Bindings
import ScopedStyles.Module
import ScopedStyles.Services
/-!
# Resolving imports

Finds the file of every import. Without an alias the specifier is the file already; with one the
resolver is asked, and an import that it cannot resolve is dropped. Each import must have a default
name to bind the class names to, or none is resolved.
-/

namespace ScopedStyles

/-- What stops a whole pipeline. -/
inductive PipelineError where
  /-- An import has no default name. -/
  | missingDefaultImport (specifier : String)
  /-- The engine refused the stylesheet of a path. -/
  | transform (path : String) (cause : EngineError)
  deriving DecidableEq, Repr

/-- The wording of an error. -/
def PipelineError.message : PipelineError → String
  | missingDefaultImport specifier => s!"Default import is required for css modules: {specifier}"
  | transform path cause => s!"Failed to transform css module {path}: {cause.message}"

/-- What has become of an import. -/
inductive Outcome where
  | resolved (r : ResolvedImport)
  | omitted (i : Import) (failure : Resolver.Failure)
  deriving DecidableEq, Repr

/-- The import with its file, unless it was dropped. -/
def Outcome.resolved? : Outcome → Option ResolvedImport
  | resolved r => some r
  | omitted .. => none

/-- The report on a dropped import. -/
def Outcome.diagnostic? : Outcome → Option Diagnostic
  | resolved _ => none
  | omitted i failure => some (.unresolved i.specifier failure.reason)

namespace Import

/-- An import with its default name. -/
def named (i : Import) : Except PipelineError (Import × String) :=
  match i.bindings.default with
  | some name => .ok (i, name)
  | none => .error (.missingDefaultImport i.specifier)

/-- The outcome of an answer of the resolver. A path that is no text cannot be passed on. -/
def outcome (i : Import) (name : String) : Except Resolver.Failure Path → Outcome
  | .error failure => .omitted i failure
  | .ok path =>
    match path.text? with
    | some text => .resolved { path := text, defaultImport := name, statement := i }
    | none => .omitted i
      { specifier := i.specifier, reason := .specifierInvalid, tried := [path] }

variable {m : Type → Type} [Monad m]

/-- Resolves one import. -/
def resolve (s : Services m) (aliases : AliasTable) (importer : Option Path) (i : Import)
    (name : String) : m Outcome :=
  match aliases.find? i.specifier with
  | none => return .resolved { path := i.specifier, defaultImport := name, statement := i }
  | some a => do
    let answer ← s.resolve { specifier := i.specifier, importer, matched := some a }
    return i.outcome name answer

/-- Resolves imports one after the other, once all of them have a default name. What becomes of one
does not depend on when the others are resolved. -/
def outcomes (s : Services m) (aliases : AliasTable) (importer : Option Path)
    (imports : List Import) : m (Except PipelineError (List Outcome)) :=
  match imports.mapM named with
  | .error e => return .error e
  | .ok named => do
    let outcomes ← named.mapM fun (i, name) => i.resolve s aliases importer name
    return .ok outcomes

/-- Resolves imports, reports the dropped ones, and keeps the others. -/
def resolveAll (s : Services m) (aliases : AliasTable) (importer : Option Path)
    (imports : List Import) : m (Except PipelineError (List ResolvedImport)) := do
  match ← outcomes s aliases importer imports with
  | .error e => return .error e
  | .ok outcomes =>
    (outcomes.filterMap Outcome.diagnostic?).forM s.report
    return .ok (outcomes.filterMap Outcome.resolved?)

end Import

end ScopedStyles
