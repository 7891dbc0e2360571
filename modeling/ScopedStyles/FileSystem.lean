import ScopedStyles.Path
/-!
# File systems

What a resolver and a reader may ask of a file system: what a path leads to, the path without links
that leads there, and a file's bytes. A file system is any three functions that answer; nothing ties
them together, so what holds of every `FileSystem` does not rest on how one is laid out.
-/

namespace ScopedStyles

open Text

/-- What a path leads to. -/
inductive FileKind where
  | file
  | directory
  /-- Neither: a device, a socket or a pipe. -/
  | special
  deriving DecidableEq, Repr

/-- Why a file cannot be read. -/
inductive FileFault where
  | notFound
  | notDirectory
  | isDirectory
  | nameTooLong
  | tooManyLinks
  | notText
  | nulInPath
  deriving DecidableEq, Repr

/-- The wording of a fault. -/
def FileFault.message : FileFault → String
  | notFound => "No such file or directory (os error 2)"
  | notDirectory => "Not a directory (os error 20)"
  | isDirectory => "Is a directory (os error 21)"
  | nameTooLong => "File name too long (os error 36)"
  | tooManyLinks => "Too many levels of symbolic links (os error 40)"
  | notText => "stream did not contain valid UTF-8"
  | nulInPath => "file name contained an unexpected NUL byte"

/-- What can be asked about paths. -/
structure FileSystem where
  /-- What a path leads to, following links. -/
  kind? : Path → Option FileKind
  /-- The absolute path without links that leads to the same place. -/
  canonical? : Path → Option Path
  /-- The bytes of a file. -/
  read : Path → Except FileFault (List UInt8)

namespace FileSystem

variable (fs : FileSystem)

/-- Whether a path leads to a regular file. -/
def isFile (p : Path) : Bool :=
  fs.kind? p == some .file

/-- Whether a path leads to a directory. -/
def isDirectory (p : Path) : Bool :=
  fs.kind? p == some .directory

/-- The canonical path, or the path itself where there is none. -/
def canonical (p : Path) : Path :=
  (fs.canonical? p).getD p

/-- The text of a file. -/
def readText (p : Path) : Except FileFault String := do
  match Utf8.decodeString (← fs.read p) with
  | .ok s => .ok s
  | .error _ => .error .notText

end FileSystem

end ScopedStyles
