import ScopedStyles.Css.Pattern
import ScopedStyles.Digest
import ScopedStyles.Path
/-!
# Scopes

How the names of one stylesheet are scoped.
-/

namespace ScopedStyles.Css

/-- What scoped names are made of. -/
structure Scope where
  pattern : List Pattern.Segment
  digest : List Char
  fileName : List Char
  /-- Whether names that start with `--` are scoped, too. -/
  dashedIdents : Bool

namespace Scope

/-- The scope of a file. A pattern that starts with the digest has an underscore before a digest
that starts with a digit, because no name starts with one. -/
def ofFile (pattern : List Pattern.Segment) (dashedIdents : Bool) (filename : String) : Scope :=
  let path := Path.ofString filename
  let digest := Digest.ofBytes path.bytes
  let leads := pattern.head? = some .digest && digest.head?.any Char.isDigit
  let stem := (path.fileStem?.bind fun name => (Text.Utf8.decode name).toOption).getD []
  { pattern, dashedIdents, digest := if leads then '_' :: digest else digest,
    fileName := stem.map fun c => if c = '.' then '-' else c }

/-- The parts of the scoped form of a name. -/
def parts (s : Scope) (name : List Char) : List (List Char) :=
  s.pattern.map fun
    | .literal text => text
    | .localName => name
    | .fileName => s.fileName
    | .digest => s.digest

/-- The scoped form of a name. -/
def apply (s : Scope) (name : List Char) : List Char :=
  (s.parts name).flatten

/-- The scoped form of a name as it is written, part by part. -/
def write (s : Scope) (name : List Char) : List Char :=
  match s.parts name with
  | [] => []
  | first :: others => writeName first ++ others.flatMap writeNamePart

/-- The scoped form of a name that starts with `--`. -/
def applyDashed (s : Scope) (name : List Char) : List Char :=
  '-' :: '-' :: s.apply (name.drop 2)

/-- The scoped form of a name that starts with `--`, as it is written. -/
def writeDashed (s : Scope) (name : List Char) : List Char :=
  '-' :: '-' :: (s.parts (name.drop 2)).flatMap writeNamePart

/-- The scoped form of a name that starts with `--` and comes from another file: a digest of that
file's name, of the name, and of what this file's names are scoped by. -/
def writeDashedFrom (s : Scope) (file name : List Char) : List Char :=
  '-' :: '-' :: writeNamePart (Digest.ofBytes (Text.Utf8.encode
    (s.digest ++ '_' :: (name ++ '_' :: file))))

end Scope

end ScopedStyles.Css
