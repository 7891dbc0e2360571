/-!
# Maps from names

Names with a value each, in the order of their characters, which is also the byte order of their
UTF-8 encodings. The order is part of the type, so two maps with the same values under the same
names are equal and print alike, whatever order they were filled in.
-/

namespace ScopedStyles

/-- Puts `value` under `name` into sorted entries, in place of the value that was there. -/
def insertSorted {α : Type} (name : String) (value : α) :
    List (String × α) → List (String × α)
  | [] => [(name, value)]
  | entry :: rest =>
    if name < entry.1 then (name, value) :: entry :: rest
    else if name = entry.1 then (name, value) :: rest
    else entry :: insertSorted name value rest

theorem mem_insertSorted {α : Type} {name : String} {value : α} {entries : List (String × α)}
    {e : String × α} (h : e ∈ insertSorted name value entries) :
    e = (name, value) ∨ e ∈ entries := by
  induction entries with
  | nil => simpa [insertSorted] using h
  | cons entry rest ih =>
    simp only [insertSorted] at h
    split at h
    · simpa using h
    · split at h
      · rcases List.mem_cons.1 h with h | h
        · exact .inl h
        · exact .inr (List.mem_cons_of_mem _ h)
      · rcases List.mem_cons.1 h with h | h
        · exact .inr (h ▸ List.mem_cons_self)
        · exact (ih h).imp_right (List.mem_cons_of_mem _)

theorem pairwise_insertSorted {α : Type} (name : String) (value : α)
    {entries : List (String × α)} (h : entries.Pairwise (·.1 < ·.1)) :
    (insertSorted name value entries).Pairwise (·.1 < ·.1) := by
  induction entries with
  | nil => simp [insertSorted]
  | cons entry rest ih =>
    obtain ⟨hlt, hrest⟩ := List.pairwise_cons.1 h
    simp only [insertSorted]
    split
    case isTrue hname =>
      refine List.pairwise_cons.2 ⟨fun e he => ?_, h⟩
      rcases List.mem_cons.1 he with rfl | he
      · exact hname
      · exact String.lt_trans hname (hlt e he)
    case isFalse hname =>
      split
      case isTrue heq => exact List.pairwise_cons.2 ⟨fun e he => heq ▸ hlt e he, hrest⟩
      case isFalse hne =>
        refine List.pairwise_cons.2 ⟨fun e he => ?_, ih hrest⟩
        rcases mem_insertSorted he with rfl | he
        · exact Std.lt_of_le_of_ne (String.not_lt.1 hname) (Ne.symm hne)
        · exact hlt e he

/-- Values under names; the entries are in the order of their names and no name repeats. -/
structure NameMap (α : Type) where
  entries : List (String × α)
  sorted : entries.Pairwise (·.1 < ·.1)

namespace NameMap

variable {α β : Type}

/-- The map without entries. -/
def empty : NameMap α := ⟨[], .nil⟩

instance : Inhabited (NameMap α) := ⟨empty⟩

/-- Puts `value` under `name`, in place of the value that was there. -/
def insert (m : NameMap α) (name : String) (value : α) : NameMap α :=
  ⟨insertSorted name value m.entries, pairwise_insertSorted name value m.sorted⟩

/-- The map of a list of entries; of several values for one name the last one counts. -/
def ofList (entries : List (String × α)) : NameMap α :=
  entries.foldl (fun m e => m.insert e.1 e.2) empty

/-- The value under `name`. -/
def get? (m : NameMap α) (name : String) : Option α :=
  m.entries.lookup name

/-- The same names with other values. -/
def map (f : α → β) (m : NameMap α) : NameMap β :=
  ⟨m.entries.map fun e => (e.1, f e.2), by simpa [List.pairwise_map] using m.sorted⟩

@[ext] theorem ext {m n : NameMap α} (h : m.entries = n.entries) : m = n := by
  cases m
  cases n
  cases h
  rfl

@[simp] theorem entries_empty : (empty : NameMap α).entries = [] := rfl

instance [DecidableEq α] : DecidableEq (NameMap α) := fun m n =>
  decidable_of_iff (m.entries = n.entries) ⟨ext, fun h => h ▸ rfl⟩

end NameMap

end ScopedStyles
