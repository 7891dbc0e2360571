import ScopedStyles.Config
import ScopedStyles.Json.Decode
/-!
# Configurations as JSON

A configuration is written as an object with a member for each setting. It is read from an object
with any of these members in any order, where what is absent has its default and what is unknown is
skipped, or from an array of the first settings in their order.
-/

namespace ScopedStyles.Config

/-- The settings, which are the members of a configuration. -/
inductive Setting where
  | aliases
  | aliasPolicy
  | onTransformError
  | pattern
  | dashedIdents
  | extensions
  | root
  deriving DecidableEq, Repr

namespace Setting

/-- The settings in the order in which they are written. -/
def all : List Setting :=
  [aliases, aliasPolicy, onTransformError, pattern, dashedIdents, extensions, root]

/-- The key of a setting. -/
def name : Setting → String
  | aliases => "aliases"
  | aliasPolicy => "aliasPolicy"
  | onTransformError => "onTransformError"
  | pattern => "pattern"
  | dashedIdents => "dashedIdents"
  | extensions => "extensions"
  | root => "root"

/-- The setting with a key. -/
def ofName? (name : String) : Option Setting :=
  all.find? (·.name == name)

/-- Reads an alias behind its key. -/
def readAlias (key : String) (m : AliasMap) : Json.Reader AliasMap := fun s => do
  let ((), s) ← Json.colon s
  let (replacement, s) ← Json.text "a string" s
  return (m.insert key replacement, s)

/-- Reads the value of a setting. -/
def read (f : Setting) (c : Config) : Json.Reader Config := fun s => do
  match f with
  | aliases =>
    let (v, s) ← Json.object "a map" readAlias .empty s
    return ({ c with aliases := v }, s)
  | aliasPolicy =>
    let (v, s) ← Json.variant AliasPolicy.name .longestPrefix .firstMatch s
    return ({ c with aliasPolicy := v }, s)
  | onTransformError =>
    let (v, s) ← Json.variant FailurePolicy.name .failFast .isolate s
    return ({ c with onTransformError := v }, s)
  | pattern =>
    let (v, s) ← Json.text "a string" s
    return ({ c with pattern := v }, s)
  | dashedIdents =>
    let (v, s) ← Json.boolean "a boolean" s
    return ({ c with dashedIdents := v }, s)
  | extensions =>
    let (v, s) ← Json.array "a sequence" (Json.text "a string") s
    return ({ c with extensions := v }, s)
  | root =>
    let (v, s) ← Json.nullable (Json.text "path string") s
    return ({ c with root := v.map Path.ofString }, s)

/-- Texts with commas between them. -/
def commaSeparated (items : List (List Char)) : List Char :=
  [','].intercalate items

/-- The value of a setting, unless it is a path that is no text. -/
def write? (f : Setting) (c : Config) : Option (List Char) :=
  match f with
  | aliases =>
    let entry (a : Alias) := Json.encode a.key.toList ++ ':' :: Json.encode a.replacement.toList
    some ('{' :: commaSeparated (c.aliases.entries.map entry) ++ ['}'])
  | aliasPolicy => some (Json.encode c.aliasPolicy.name.toList)
  | onTransformError => some (Json.encode c.onTransformError.name.toList)
  | pattern => some (Json.encode c.pattern.toList)
  | dashedIdents =>
    some (if c.dashedIdents then ['t', 'r', 'u', 'e'] else ['f', 'a', 'l', 's', 'e'])
  | extensions =>
    some ('[' :: commaSeparated (c.extensions.map fun e => Json.encode e.toList) ++ [']'])
  | root =>
    match c.root with
    | none => some ['n', 'u', 'l', 'l']
    | some p => p.text?.map fun s => Json.encode s.toList

/-- The member of a setting. -/
def member? (f : Setting) (c : Config) : Option (List Char) :=
  (f.write? c).map fun value => Json.encode f.name.toList ++ ':' :: value

end Setting

/-- The settings read so far, and which they are. -/
structure Progress where
  config : Config := {}
  seen : List Setting := []

/-- Reads a member behind its key. Of a repeated setting not even the colon is looked at. -/
def Progress.readMember (key : String) (p : Progress) : Json.Reader Progress := fun s =>
  match Setting.ofName? key with
  | some f =>
    if f ∈ p.seen then .error (.mismatch (.duplicateField key))
    else do
      let ((), s) ← Json.colon s
      let (config, s) ← f.read p.config s
      return ({ config, seen := f :: p.seen }, s)
  | none => do
    let ((), s) ← Json.colon s
    return (p, ← Json.skip s)

/-- Reads a configuration. -/
def reader : Json.Reader Config := fun s =>
  match Json.skipBlank s with
  | '[' :: rest => Json.positional (Setting.all.map Setting.read) true {} rest
  | s => do
    let (p, s) ← Json.object "struct CssModulesConfig" Progress.readMember {} s
    return (p.config, s)

/-- The configuration of a JSON text. -/
def ofJson (s : String) : Except Json.Fault Config :=
  Json.document reader s.toList

/-- The JSON text of a configuration, unless its root is a path that is no text. -/
def toJson? (c : Config) : Option String :=
  (Setting.all.mapM (Setting.member? · c)).map fun members =>
    String.ofList ('{' :: Setting.commaSeparated members ++ ['}'])

/-- Why the configuration of a file is not loaded. -/
inductive LoadError where
  | unreadable (path : String) (fault : FileFault)
  | invalid (path : String) (fault : Json.Fault)
  deriving DecidableEq, Repr

/-- The wording of a load error, up to the fault of an invalid text. -/
def LoadError.message : LoadError → String
  | unreadable path fault => s!"Failed to read config at {path}: {fault.message}"
  | invalid path _ => s!"Failed to parse config at {path}: "

/-- Loads the configuration of a file. -/
def load (fs : FileSystem) (path : String) : Except LoadError Config :=
  match fs.readText (.ofString path) with
  | .error fault => .error (.unreadable path fault)
  | .ok text => (ofJson text).mapError (.invalid path)

end ScopedStyles.Config
