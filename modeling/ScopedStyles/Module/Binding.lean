import ScopedStyles.Json.Literal
import ScopedStyles.Module
/-!
# Bindings of modules

The statement that can stand in a script for the import of a stylesheet: it binds the default name
to an object with the module's exports.
-/

namespace ScopedStyles.StyleModule

/-- An export as a member of the object. -/
def bindingEntry (e : String × String) : List Char :=
  ' ' :: ' ' :: (Json.encode e.1.toList ++ ':' :: ' ' :: Json.encode e.2.toList)

/-- The object with given exports. -/
def bindingObject (exports : List (String × String)) : List Char :=
  if exports.isEmpty then ['\x7b', '\x7d']
  else '\x7b' :: '\n' ::
    ([',', '\n'].intercalate (exports.map bindingEntry) ++ ['\n', '\x7d'])

/-- The statement that binds the default name to the exports. -/
def binding (m : StyleModule) : String :=
  "const " ++ m.resolved.defaultImport ++ " = " ++
    String.ofList (bindingObject m.exports.entries) ++ ";"

end ScopedStyles.StyleModule
