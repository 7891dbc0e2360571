import ScopedStyles.Alias
import ScopedStyles.FileSystem
/-!
# Configuration

What a project can set: its aliases, how stylesheets are scoped, and which imports are stylesheet
modules.
-/

namespace ScopedStyles

/-- What happens to a stylesheet that the engine refuses. -/
inductive FailurePolicy where
  /-- The refusal is the answer. -/
  | failFast
  /-- The refusal is reported, and an empty module takes the place of the stylesheet. -/
  | isolate
  deriving DecidableEq, Repr, Inhabited

/-- The name of a policy in a configuration. -/
def FailurePolicy.name : FailurePolicy → String
  | failFast => "failFast"
  | isolate => "isolate"

/-- The settings of a project. -/
structure Config where
  aliases : AliasMap := .empty
  aliasPolicy : AliasPolicy := .longestPrefix
  onTransformError : FailurePolicy := .failFast
  /-- How scoped names are made. -/
  pattern : String := "[hash]_[local]"
  /-- Whether names that start with `--` are scoped, too. -/
  dashedIdents : Bool := false
  /-- Ends of the specifiers that name stylesheet modules. -/
  extensions : List String := [".module.css"]
  /-- Where the targets of aliases start; the current directory if absent. -/
  root : Option Path := none
  deriving DecidableEq

namespace Config

instance : Inhabited Config := ⟨{}⟩

/-- Declares an alias. -/
def withAlias (c : Config) (key replacement : String) : Config :=
  { c with aliases := c.aliases.insert key replacement }

/-- The table that specifiers are looked up in. -/
def aliasTable (c : Config) : AliasTable :=
  { entries := c.aliases.entries, policy := c.aliasPolicy }

/-- The project's root, given the current directory. -/
def rootDirectory (c : Config) (current : Path) : Path :=
  c.root.getD current

/-- Whether two configurations say the same: aliases count without their order, and the root as the
names that lead there. -/
def agrees (c d : Config) : Bool :=
  c.aliases.agrees d.aliases && c.aliasPolicy == d.aliasPolicy &&
    c.onTransformError == d.onTransformError && c.pattern == d.pattern &&
    c.dashedIdents == d.dashedIdents && c.extensions == d.extensions &&
    c.root.map Path.components == d.root.map Path.components

end Config

end ScopedStyles
