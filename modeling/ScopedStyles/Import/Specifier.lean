/-!
# Import specifiers

The text that names an imported file. A query (`?` and what follows) is for other tools and is no
part of the file's name.
-/

namespace ScopedStyles.Specifier

/-- A specifier or path without its query. -/
def withoutQuery (specifier : String) : String :=
  String.ofList (specifier.toList.takeWhile (· != '?'))

/-- Whether a specifier names a stylesheet module: without its query it ends in one of the given
extensions. -/
def hasExtension (extensions : List String) (specifier : String) : Bool :=
  extensions.any fun ext => ext.toList.isSuffixOf (withoutQuery specifier).toList

end ScopedStyles.Specifier
