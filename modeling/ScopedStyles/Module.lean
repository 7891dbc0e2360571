import ScopedStyles.Import.Statement
import ScopedStyles.NameMap
/-!
# Stylesheet modules

An import of a stylesheet gives a script the stylesheet's class names. A `ResolvedImport` knows the
file to read; a `StyleModule` is what has become of that file.
-/

namespace ScopedStyles

/-- An import with the file that it stands for. -/
structure ResolvedImport where
  /-- The path of the file, or the specifier itself where no alias matched. A query may follow. -/
  path : String
  /-- The name that the class names are bound to. -/
  defaultImport : String
  /-- The import as it stands in the script. -/
  statement : Import
  deriving DecidableEq, Repr

/-- What has become of a stylesheet. -/
inductive ModuleStatus where
  | transformed
  | unreadable
  | transformFailed
  deriving DecidableEq, Repr

/-- The name of a status. -/
def ModuleStatus.name : ModuleStatus → String
  | transformed => "transformed"
  | unreadable => "unreadable"
  | transformFailed => "transformFailed"

/-- A stylesheet as a script sees it. -/
structure StyleModule where
  /-- The scoped stylesheet. -/
  css : Option String
  /-- The scoped names under their keys. -/
  exports : NameMap String
  status : ModuleStatus
  resolved : ResolvedImport
  deriving DecidableEq

namespace StyleModule

/-- The empty module that takes the place of one that could not be made. -/
def placeholder (resolved : ResolvedImport) (status : ModuleStatus) : StyleModule :=
  { css := none, exports := .empty, status, resolved }

/-- Whether the stylesheet was read and transformed. -/
def isTransformed (m : StyleModule) : Bool :=
  m.status == .transformed

end StyleModule

end ScopedStyles
