/-!
# Import aliases

An alias lets a specifier start with a short key such as `@styles/` in place of a path. A key
matches every specifier that it is a prefix of, so `@s` matches `@styles/a.css`. An `AliasMap` holds
one replacement per key and is what a configuration declares; an `AliasTable` is what specifiers
are looked up in.
-/

namespace ScopedStyles

/-- Which of several matching aliases applies. -/
inductive AliasPolicy where
  /-- The one with the longest key; of equal keys the first. -/
  | longestPrefix
  /-- The first in order. -/
  | firstMatch
  deriving DecidableEq, Repr, Inhabited

/-- The name of a policy in a configuration. -/
def AliasPolicy.name : AliasPolicy → String
  | longestPrefix => "longestPrefix"
  | firstMatch => "firstMatch"

/-- A key and the text that replaces it at the start of a specifier. -/
structure Alias where
  key : String
  replacement : String
  deriving DecidableEq, Repr

/-- Whether the key is a prefix of the specifier. -/
def Alias.matches (a : Alias) (specifier : String) : Bool :=
  a.key.toList.isPrefixOf specifier.toList

/-- Aliases in order, with the policy that chooses among them. -/
structure AliasTable where
  entries : List Alias := []
  policy : AliasPolicy := .longestPrefix
  deriving DecidableEq, Repr

namespace AliasTable

/-- Adds an alias behind the others. -/
def add (t : AliasTable) (a : Alias) : AliasTable :=
  { t with entries := t.entries ++ [a] }

/-- The better of two matching aliases, `best` being the earlier one: the one with the longer key,
measured in bytes. -/
def longer (best : Option Alias) (a : Alias) : Option Alias :=
  match best with
  | some b => if b.key.utf8ByteSize ≥ a.key.utf8ByteSize then best else some a
  | none => some a

/-- The alias that applies to a specifier. -/
def find? (t : AliasTable) (specifier : String) : Option Alias :=
  let found := t.entries.filter (·.matches specifier)
  match t.policy with
  | .firstMatch => found.head?
  | .longestPrefix => found.foldl longer none

end AliasTable

/-- Aliases in the order of their declaration, one for each key. -/
structure AliasMap where
  entries : List Alias
  nodup : (entries.map Alias.key).Nodup

namespace AliasMap

/-- The map without aliases. -/
def empty : AliasMap := ⟨[], .nil⟩

instance : Inhabited AliasMap := ⟨empty⟩

/-- Gives a key a new replacement where it stands, or adds it at the end. -/
def put (key replacement : String) : List Alias → List Alias
  | [] => [⟨key, replacement⟩]
  | a :: rest =>
    if a.key = key then ⟨key, replacement⟩ :: rest else a :: put key replacement rest

theorem mem_keys_put {key replacement k : String} {entries : List Alias} :
    k ∈ (put key replacement entries).map Alias.key ↔ k = key ∨ k ∈ entries.map Alias.key := by
  induction entries with
  | nil => simp [put]
  | cons a rest ih =>
    simp only [put]
    split
    · next h => simp [h]
    · simp only [List.map_cons, List.mem_cons, ih]
      exact or_left_comm

theorem nodup_put {key replacement : String} {entries : List Alias}
    (h : (entries.map Alias.key).Nodup) : ((put key replacement entries).map Alias.key).Nodup := by
  induction entries with
  | nil => simp [put]
  | cons a rest ih =>
    obtain ⟨hnot, hrest⟩ := List.nodup_cons.1 h
    simp only [put]
    split
    · next heq => exact List.nodup_cons.2 ⟨heq ▸ hnot, hrest⟩
    · next hne =>
      exact List.nodup_cons.2 ⟨fun hmem => (mem_keys_put.1 hmem).elim hne hnot, ih hrest⟩

/-- Declares an alias. A key that was declared before keeps its place. -/
def insert (m : AliasMap) (key replacement : String) : AliasMap :=
  ⟨put key replacement m.entries, nodup_put m.nodup⟩

/-- Declares aliases one after the other. -/
def ofList (entries : List (String × String)) : AliasMap :=
  entries.foldl (fun m e => m.insert e.1 e.2) empty

/-- Whether two maps give the same keys the same replacements, in whatever order. -/
def agrees (m n : AliasMap) : Bool :=
  m.entries.length == n.entries.length && m.entries.all (n.entries.contains ·)

@[ext] theorem ext {m n : AliasMap} (h : m.entries = n.entries) : m = n := by
  cases m
  cases n
  cases h
  rfl

instance : DecidableEq AliasMap := fun m n =>
  decidable_of_iff (m.entries = n.entries) ⟨ext, fun h => h ▸ rfl⟩

end AliasMap

end ScopedStyles
