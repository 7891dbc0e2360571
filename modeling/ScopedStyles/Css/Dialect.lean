/-!
# Dialects

What a stylesheet can say that plain stylesheets cannot, because its names are scoped.
-/

namespace ScopedStyles.Css

/-- What a stylesheet can say. -/
structure Dialect where
  /-- Whether classes are scoped, so that selectors can leave a scope and classes be composed. -/
  modules : Bool := false
  /-- Whether names that start with `--` are scoped, so that those of other files can be used. -/
  dashedIdents : Bool := false
  deriving DecidableEq, Repr

/-- The dialect of plain stylesheets. -/
def Dialect.plain : Dialect :=
  {}

end ScopedStyles.Css
