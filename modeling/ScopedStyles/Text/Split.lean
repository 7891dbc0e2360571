import ScopedStyles.Text.Blank
/-!
# Splitting texts

Ways to take a text apart: at every occurrence of a character, at the first or last occurrence of a
separator, at a given start, and into words.
-/

namespace ScopedStyles.Text

/-- The parts of a text or of bytes between occurrences of `sep`; always at least one. -/
def splitOn {α : Type} [DecidableEq α] (sep : α) : List α → List (List α)
  | [] => [[]]
  | c :: cs =>
    if c = sep then [] :: splitOn sep cs
    else match splitOn sep cs with
      | part :: parts => (c :: part) :: parts
      | [] => [[c]]

/-- The maximal runs of characters that are not blank. -/
def words (cs : List Char) : List (List Char) :=
  go [] cs
where
  /-- Continues a word whose characters so far, last one first, are `word`. -/
  go (word : List Char) : List Char → List (List Char)
    | [] => if word.isEmpty then [] else [word.reverse]
    | c :: cs =>
      if isBlank c then
        if word.isEmpty then go [] cs else word.reverse :: go [] cs
      else go (c :: word) cs

/-- What precedes and what follows the first occurrence of `sep`. -/
def splitAtFirst? (sep : List Char) : List Char → Option (List Char × List Char)
  | [] => if sep.isEmpty then some ([], []) else none
  | c :: cs =>
    if sep.isPrefixOf (c :: cs) then some ([], (c :: cs).drop sep.length)
    else (splitAtFirst? sep cs).map fun (before, after) => (c :: before, after)

/-- What precedes and what follows the last occurrence of `sep`. -/
def splitAtLast? (sep : Char) : List Char → Option (List Char × List Char)
  | [] => none
  | c :: cs =>
    match splitAtLast? sep cs with
    | some (before, after) => some (c :: before, after)
    | none => if c = sep then some ([], cs) else none

/-- The first part of `text`, where `rest` is its end. -/
def upTo (text rest : List Char) : List Char :=
  text.take (text.length - rest.length)

/-- The rest of a text that starts with `lead`. -/
def dropLead? (lead cs : List Char) : Option (List Char) :=
  if lead.isPrefixOf cs then some (cs.drop lead.length) else none

theorem dropLead?_eq_some {lead cs rest : List Char} (h : dropLead? lead cs = some rest) :
    cs = lead ++ rest := by
  unfold dropLead? at h
  split at h
  · next hp =>
    obtain ⟨t, rfl⟩ := List.isPrefixOf_iff_prefix.1 hp
    simpa using h
  · simp at h

theorem upTo_append {text rest : List Char} (h : rest <:+ text) :
    upTo text rest ++ rest = text := by
  obtain ⟨front, rfl⟩ := h
  simp [upTo]

end ScopedStyles.Text
