import ScopedStyles.Import.Scan
import ScopedStyles.Module.Transform
/-!
# The pipeline

Finds the stylesheet imports of a script, resolves them, and transforms their stylesheets, in the
order of the script. They could be resolved and transformed at the same time, for the modules and
their order are the same then; only the order in which services are used is that of one schedule.
-/

namespace ScopedStyles.Pipeline

/-- The imports of a script that name stylesheet modules. -/
def imports (c : Config) (source : String) : List Import :=
  (Import.scan source).filter fun i => Specifier.hasExtension c.extensions i.specifier

variable {m : Type → Type} [Monad m]

/-- Resolves imports with the aliases of a configuration. -/
def resolve (s : Services m) (c : Config) (importer : Option Path) (imports : List Import) :
    m (Except PipelineError (List ResolvedImport)) :=
  Import.resolveAll s c.aliasTable importer imports

/-- Transforms the stylesheet of an import under the policy of a configuration. -/
def transform (s : Services m) (c : Config) (r : ResolvedImport) :
    m (Except PipelineError StyleModule) :=
  r.transform s c.onTransformError

/-- The modules of a script. All stylesheets are transformed, even if an error is found among
them; the first error in the order of the imports is the answer. -/
def process (s : Services m) (c : Config) (importer : Option Path) (source : String) :
    m (Except PipelineError (List StyleModule)) := do
  match ← resolve s c importer (imports c source) with
  | .error e => return .error e
  | .ok resolved => return (← resolved.mapM (transform s c)).mapM id

end ScopedStyles.Pipeline
