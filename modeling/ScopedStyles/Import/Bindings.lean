import ScopedStyles.Import.Statement
import ScopedStyles.NameMap
import ScopedStyles.Text.Alphabetic
/-!
# Bindings of an import

The names that an import's clause binds: a default name, a namespace, and named imports between
braces. The braces are taken out first, and what is left is split at commas. Parts that bind
nothing are passed over; of several parts of one kind the last one counts.
-/

namespace ScopedStyles

open Text

/-- The names that an import binds. -/
structure Bindings where
  default : Option String := none
  namespaceName : Option String := none
  /-- Local names under the imported ones. -/
  named : NameMap String := .empty

namespace Bindings

/-- Identifiers of a script: letters, digits, `_` and `$`, not starting with a digit. -/
def isIdentifier : List Char → Bool
  | [] => false
  | c :: cs =>
    (isAlphabetic c || c == '_' || c == '$') &&
      cs.all fun c => isAlphanumeric c || c == '_' || c == '$'

/-- A clause without its braces, and what stands between the first `{` and the last `}`. -/
def splitBraces (clause : List Char) : List Char × Option (List Char) :=
  match splitAtFirst? ['{'] clause with
  | none => (clause, none)
  | some (before, after) => match splitAtLast? '}' after with
    | none => (clause, none)
    | some (inside, behind) => (before ++ behind, some inside)

/-- The imported and the local name of an entry between braces, where a leading `type ` is passed
over and `a as b` gives `a` the local name `b`. -/
def namedEntry? (entry : List Char) : Option (String × String) :=
  let entry := trim entry
  let entry := ((dropLead? ['t', 'y', 'p', 'e', ' '] entry).map trimStart).getD entry
  if entry.isEmpty then none
  else match splitAtFirst? [' ', 'a', 's', ' '] entry with
    | some (imported, name) => some (String.ofList (trim imported), String.ofList (trim name))
    | none => some (String.ofList entry, String.ofList entry)

/-- The namespace of a part `* as name`, given the text behind the `*`. -/
def namespaceName? (rest : List Char) : Option String :=
  match words rest with
  | ['a', 's'] :: name :: _ => some (String.ofList name)
  | _ => none

/-- Adds what a part of a clause outside braces binds. -/
def addPart (b : Bindings) (part : List Char) : Bindings :=
  match trim part with
  | [] => b
  | '*' :: rest => { b with namespaceName := (namespaceName? rest).or b.namespaceName }
  | part => if isIdentifier part then { b with default := some (String.ofList part) } else b

/-- The bindings of a clause. -/
def ofClause (clause : List Char) : Bindings :=
  let (outer, inside) := splitBraces clause
  let named := NameMap.ofList ((inside.map (splitOn ',')).getD [] |>.filterMap namedEntry?)
  (splitOn ',' outer).foldl addPart { named }

end Bindings

/-- The names that an import binds; an import without a clause binds none. -/
def Import.bindings (i : Import) : Bindings :=
  match i.clause with
  | some clause => .ofClause clause.toList
  | none => {}

end ScopedStyles
