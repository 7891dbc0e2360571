import ScopedStyles.Css.Property
/-!
# Declarations

A declaration gives a property a value, which can be important. Important declarations stand behind
the others of their block.
-/

namespace ScopedStyles.Css

/-- A property with its value. -/
structure Declaration where
  property : Property
  value : Value
  important : Bool
  deriving DecidableEq, Repr

namespace Declaration

/-- Whether what follows a value makes it important. -/
def readImportance : List Node → Except Fault Bool
  | [] => .ok false
  | n :: rest =>
    match n.token, rest.dropWhile Node.isSpace with
    | .delim '!', .leaf ⟨.name s, _, stop⟩ :: rest =>
      if lower s = "important".toList then
        match rest.dropWhile Node.isSpace with
        | [] => .ok true
        | m :: _ => .error ⟨.unexpectedToken m.token, stop⟩
      else .error ⟨.unexpectedToken n.token, n.start⟩
    | t, _ => .error ⟨.unexpectedToken t, n.start⟩

/-- What is wrong where a rule in a rule has no block: the semicolon at `place`, or the end of the
declarations at `stop`. -/
def missingBlock (stop place : Nat) : Fault :=
  if place = stop then ⟨.unexpectedEnd, stop⟩ else ⟨.unexpectedToken (.delim ';'), place⟩

/-- Reads a declaration from nodes without white space in front. They end at `place`, and the
declarations at `stop`. What starts with no name would be a rule. -/
def read (d : Dialect) (stop place : Nat) (nodes : List Node) : Except Fault Declaration :=
  match nodes with
  | .leaf ⟨.name name, _, nameStop⟩ :: rest =>
    match rest.dropWhile Node.isSpace with
    | .leaf ⟨.delim ':', _, valueStart⟩ :: rest => do
      let property := Property.ofName name
      let isValue (n : Node) : Bool :=
        n.token ≠ .delim '!' && !(property.endsAtBlock && n.token = .opening .curly)
      let value ← property.read d valueStart (rest.takeWhile isValue)
      let important ← readImportance (rest.dropWhile isValue)
      return { property, value, important }
    | n :: _ => .error ⟨.unexpectedToken n.token, nameStop⟩
    | [] => .error ⟨.unexpectedEnd, place⟩
  | .leaf ⟨.atKeyword name, start, _⟩ :: _ => .error ⟨.unexpectedToken (.atKeyword name), start⟩
  | nodes =>
    match nodes.find? fun n => n.token = .opening .curly with
    | some n => .error ⟨.unexpectedToken n.token, n.start⟩
    | none => .error (missingBlock stop place)

/-- Declarations with the important ones behind the others. -/
def sorted (ds : List Declaration) : List Declaration :=
  ds.filter (fun d => !d.important) ++ ds.filter fun d => d.important

/-- Reads the declarations of a block that ends at `stop`. -/
def readAll (d : Dialect) (stop : Nat) (inner : List Node) :
    Except Fault (List Declaration) := do
  let parts := (Node.splitOn ';' stop inner).map fun (part, place) =>
    (part.dropWhile Node.isSpace, place)
  let ds ← (parts.filter fun (part, _) => !part.isEmpty).mapM fun (part, place) =>
    read d stop place part
  return sorted ds

end Declaration

end ScopedStyles.Css
