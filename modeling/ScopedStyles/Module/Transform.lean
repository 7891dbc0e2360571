import ScopedStyles.Config
import ScopedStyles.ExportKey
import ScopedStyles.Import.Specifier
import ScopedStyles.Module.Resolve
/-!
# Transforming modules

Reads the stylesheet of a resolved import and lets the engine scope its names. A file that cannot be
read makes an empty module. A stylesheet that the engine refuses makes an error or an empty module,
as the policy says.
-/

namespace ScopedStyles.ResolvedImport

open Text

/-- The file that a resolved import stands for. A query is no part of its name. -/
def file (r : ResolvedImport) : Path :=
  .ofString (Specifier.withoutQuery r.path)

/-- What the engine is given for a stylesheet. -/
def request (r : ResolvedImport) (source : String) : Engine.Request :=
  { code := Utf8.encode source.toList, filename := r.path }

/-- The scoped names of an engine's answer, under their keys. -/
def exportKeys (exports : Option (List (String × Engine.Export))) : NameMap String :=
  ExportKey.camelCaseKeys (.ofList ((exports.getD []).map fun (name, e) => (name, e.name)))

/-- The module of an engine's answer, whose stylesheet must be a text. -/
def finish (r : ResolvedImport) (output : Engine.Output) : Except EngineError StyleModule :=
  match Utf8.decodeString output.code with
  | .error fault => .error (.encoding fault.message)
  | .ok css => .ok
    { css := some css, exports := exportKeys output.exports, status := .transformed, resolved := r }

variable {m : Type → Type} [Monad m]

/-- Transforms the stylesheet of a resolved import. -/
def transform (s : Services m) (policy : FailurePolicy) (r : ResolvedImport) :
    m (Except PipelineError StyleModule) := do
  match ← s.read r.file with
  | .error fault =>
    s.report (.unreadable r.path fault.message)
    return .ok (.placeholder r .unreadable)
  | .ok source =>
    match (← s.transform (r.request source)).bind r.finish with
    | .ok made => return .ok made
    | .error e =>
      match policy with
      | .failFast => return .error (.transform r.path e)
      | .isolate =>
        s.report (.transformFailed r.path e.message)
        return .ok (.placeholder r .transformFailed)

end ScopedStyles.ResolvedImport
