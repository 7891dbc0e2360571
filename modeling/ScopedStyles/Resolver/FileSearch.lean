import ScopedStyles.FileSystem
import ScopedStyles.Import.Specifier
import ScopedStyles.Resolver
import ScopedStyles.Text.Split
/-!
# Searching files

Finds the file of a specifier. A specifier with an alias is expanded first. What starts with `./`
or `../` is relative to the importing file's directory, or to the project's root if an alias gave
it; an absolute path stands for itself; all else is the name of a file in a `node_modules`
directory, looked up from the importing file's directory upwards. A path is looked at as it is and
then with each extension behind it.
-/

namespace ScopedStyles.Resolver

/-- The settings of a search. -/
structure FileSearch where
  /-- Where expanded specifiers start, and all others if the importing file is unknown. -/
  root : Path
  /-- What is put behind a path that is no file. -/
  extensions : List String := [".css"]

namespace FileSearch

/-- Paths that a failure lists. -/
def maxTried : Nat := 20

/-- Why a search fails, and where it looked. -/
structure Miss where
  reason : Reason
  tried : List Path := []

/-- What an alias makes of a specifier that starts with its key: the replacement, and behind it
the part of the specifier behind the key. -/
def expand? (specifier : String) (a : Alias) : Option String :=
  (Text.dropLead? a.key.toList specifier.toList).map fun rest =>
    a.replacement ++ String.ofList rest

/-- Whether a text names something that is no file of this file system: a URL with an authority, a
module of the engine, or inline data. -/
def hasScheme (target : List Char) : Bool :=
  (Text.splitAtFirst? [':', '/', '/'] target).isSome ||
    ['n', 'o', 'd', 'e', ':'].isPrefixOf target || ['d', 'a', 't', 'a', ':'].isPrefixOf target

/-- Texts that start with `./` or `../`. -/
def isRelative (target : List Char) : Bool :=
  ['.', '/'].isPrefixOf target || ['.', '.', '/'].isPrefixOf target

/-- Absolute paths: from the root, from a drive, or of a network share. -/
def isAbsolute : List Char → Bool
  | '/' :: _ => true
  | '\\' :: '\\' :: _ => true
  | drive :: ':' :: c :: _ => drive.isAlpha && (c == '\\' || c == '/')
  | _ => false

/-- The directory of packages in a directory. -/
def packages (directory : Path) : Path :=
  directory.join (.ofString "node_modules")

variable (s : FileSearch) (fs : FileSystem)

/-- A path and its extended forms, in the order of the search. -/
def forms (base : Path) : List Path :=
  base :: s.extensions.map base.append

/-- Looks for a file at a path or one of its extended forms. -/
def probe (base : Path) : Except Miss Path :=
  match (s.forms base).find? fs.isFile with
  | some p => .ok (fs.canonical p)
  | none => .error
    { reason := if fs.isDirectory base then .isDirectory else .notFound, tried := s.forms base }

/-- Looks for a file in the packages of directories, one after the other. `seen` tells whether one
of the directories before had packages, and `tried` is where the search looked so far. -/
def probePackages (name : Path) (seen : Bool) (tried : List Path) : List Path → Except Miss Path
  | [] => .error { reason := if seen then .notFound else .nodeModulesNotFound, tried }
  | directory :: rest =>
    if fs.isDirectory (packages directory) then
      match s.probe fs ((packages directory).join name) with
      | .ok p => .ok p
      | .error miss => probePackages name true (tried ++ miss.tried) rest
    else probePackages name seen tried rest

/-- Looks for the file of `target`. `anchor` is where a relative path starts and `base` where the
search for packages does. -/
def search (anchor base : Path) (target : String) : Except Miss Path :=
  let text := target.toList
  if text.isEmpty then .error { reason := .specifierInvalid }
  else if hasScheme text then .error { reason := .unsupportedScheme }
  else if isRelative text then s.probe fs (anchor.join (.ofString target))
  else if isAbsolute text then s.probe fs (.ofString target)
  else s.probePackages fs (.ofString target) false [] base.ancestors

/-- Finds the file of a request. -/
def resolve (r : Request) : Except Failure Path :=
  let specifier := Specifier.withoutQuery r.specifier
  let base := r.importerDirectory?.getD s.root
  let found := match r.matched.bind (expand? specifier) with
    | some target => s.search fs s.root base target
    | none => s.search fs base base specifier
  found.mapError fun miss =>
    { specifier := r.specifier, reason := miss.reason, tried := miss.tried.take maxTried }

end FileSearch

end ScopedStyles.Resolver
