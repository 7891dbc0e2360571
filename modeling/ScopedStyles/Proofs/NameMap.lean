import Mathlib.Data.List.Induction
import Mathlib.Data.List.Sort
import ScopedStyles.NameMap
/-!
# What a map from names holds

Every entry of a map was put into it, and an entry that is put into it stays there until its name is
given another value. So a map holds the last value of every name, and where no name repeats the
order in which it was filled does not matter.
-/

namespace ScopedStyles

variable {α : Type}

theorem mem_insertSorted_self (name : String) (value : α) (entries : List (String × α)) :
    (name, value) ∈ insertSorted name value entries := by
  induction entries with
  | nil => exact List.mem_cons_self
  | cons entry rest ih =>
      rw [insertSorted]
      split
      · exact List.mem_cons_self
      · split
        · exact List.mem_cons_self
        · exact List.mem_cons_of_mem _ ih

theorem mem_insertSorted_of_ne {name : String} {value : α} {entries : List (String × α)}
    {e : String × α} (he : e ∈ entries) (hne : e.1 ≠ name) :
    e ∈ insertSorted name value entries := by
  induction entries with
  | nil => cases he
  | cons entry rest ih =>
      rw [insertSorted]
      split
      · exact List.mem_cons_of_mem _ he
      · split
        · next heq =>
            rcases List.mem_cons.1 he with rfl | he
            · exact absurd heq.symm hne
            · exact List.mem_cons_of_mem _ he
        · rcases List.mem_cons.1 he with rfl | he
          · exact List.mem_cons_self
          · exact List.mem_cons_of_mem _ (ih he)

namespace NameMap

theorem mem_foldl_insert {m : NameMap α} {entries : List (String × α)} {e : String × α}
    (h : e ∈ (entries.foldl (fun m e => m.insert e.1 e.2) m).entries) :
    e ∈ m.entries ∨ e ∈ entries := by
  induction entries generalizing m with
  | nil => exact .inl h
  | cons first entries ih =>
      rcases ih h with h | h
      · rcases mem_insertSorted h with h | h
        · exact .inr (h ▸ List.mem_cons_self)
        · exact .inl h
      · exact .inr (List.mem_cons_of_mem _ h)

theorem mem_of_mem_ofList {entries : List (String × α)} {e : String × α}
    (h : e ∈ (ofList entries).entries) : e ∈ entries :=
  (mem_foldl_insert h).resolve_left List.not_mem_nil

theorem mem_foldl_insert_of_not_mem {m : NameMap α} {entries : List (String × α)} {e : String × α}
    (he : e ∈ m.entries) (hname : e.1 ∉ entries.map Prod.fst) :
    e ∈ (entries.foldl (fun m e => m.insert e.1 e.2) m).entries := by
  induction entries generalizing m with
  | nil => exact he
  | cons first entries ih =>
      rw [List.map_cons] at hname
      exact ih (mem_insertSorted_of_ne he (List.ne_of_not_mem_cons hname))
        (List.not_mem_of_not_mem_cons hname)

theorem nodup_names (m : NameMap α) : (m.entries.map Prod.fst).Nodup :=
  List.pairwise_map.2 (m.sorted.imp fun hlt => Std.ne_of_lt hlt)

/-- A name has one value. -/
theorem eq_of_mem {m : NameMap α} {e f : String × α} (he : e ∈ m.entries) (hf : f ∈ m.entries)
    (h : e.1 = f.1) : e = f :=
  List.inj_on_of_nodup_map m.nodup_names he hf h

/-- Maps with the same entries are equal. -/
theorem ext_of_mem_iff {m n : NameMap α} (h : ∀ e, e ∈ m.entries ↔ e ∈ n.entries) : m = n := by
  have hirrefl : Std.Irrefl fun e f : String × α => e.1 < f.1 := ⟨fun e => String.lt_irrefl e.1⟩
  have hantisymm : Std.Antisymm fun e f : String × α => e.1 < f.1 :=
    ⟨fun _ _ hlt hgt => absurd hgt (String.lt_asymm hlt)⟩
  exact ext (m.sorted.eq_of_mem_iff n.sorted h)

theorem ofList_concat (entries : List (String × α)) (last : String × α) :
    ofList (entries ++ [last]) = (ofList entries).insert last.1 last.2 := by
  rw [ofList, List.foldl_append]
  rfl

/-- Of several values for one name the last one is kept. -/
theorem mem_ofList_iff {entries : List (String × α)} {e : String × α} :
    e ∈ (ofList entries).entries ↔
      ∃ front back, entries = front ++ e :: back ∧ e.1 ∉ back.map Prod.fst := by
  constructor
  · intro he
    induction entries using List.reverseRecOn with
    | nil => cases he
    | append_singleton entries last ih =>
        rw [ofList_concat] at he
        by_cases hname : e.1 = last.1
        · obtain rfl : e = last := eq_of_mem he (mem_insertSorted_self _ _ _) hname
          exact ⟨entries, [], rfl, List.not_mem_nil⟩
        · obtain rfl | he := mem_insertSorted he
          · exact absurd rfl hname
          · obtain ⟨front, back, rfl, hback⟩ := ih he
            refine ⟨front, back ++ [last], by simp, ?_⟩
            rw [List.map_append, List.mem_append, not_or]
            exact ⟨hback, fun hmem => hname (List.mem_singleton.1 hmem)⟩
  · rintro ⟨front, back, rfl, hback⟩
    rw [ofList, List.foldl_append, List.foldl_cons]
    exact mem_foldl_insert_of_not_mem (mem_insertSorted_self e.1 e.2 _) hback

theorem mem_names_ofList_iff {entries : List (String × α)} {name : String} :
    name ∈ (ofList entries).entries.map Prod.fst ↔ name ∈ entries.map Prod.fst := by
  constructor
  · intro h
    obtain ⟨e, he, rfl⟩ := List.mem_map.1 h
    exact List.mem_map_of_mem (mem_of_mem_ofList he)
  · intro h
    induction entries using List.reverseRecOn with
    | nil => cases h
    | append_singleton entries last ih =>
        rw [ofList_concat]
        by_cases hname : name = last.1
        · subst hname
          exact List.mem_map_of_mem (f := Prod.fst) (mem_insertSorted_self last.1 last.2 _)
        · rw [List.map_append, List.mem_append] at h
          obtain ⟨e, he, rfl⟩ :=
            List.mem_map.1 (ih (h.resolve_right fun h => hname (List.mem_singleton.1 h)))
          exact List.mem_map_of_mem (mem_insertSorted_of_ne he hname)

/-- If no name repeats, every entry is kept. -/
theorem mem_ofList {entries : List (String × α)} (hnodup : (entries.map Prod.fst).Nodup)
    {e : String × α} (he : e ∈ entries) : e ∈ (ofList entries).entries := by
  obtain ⟨front, back, rfl⟩ := List.append_of_mem he
  rw [List.map_append, List.map_cons, List.nodup_append] at hnodup
  exact mem_ofList_iff.2 ⟨front, back, rfl, (List.nodup_cons.1 hnodup.2.1).1⟩

theorem mem_ofList_iff_of_nodup {entries : List (String × α)}
    (hnodup : (entries.map Prod.fst).Nodup) {e : String × α} :
    e ∈ (ofList entries).entries ↔ e ∈ entries :=
  ⟨mem_of_mem_ofList, mem_ofList hnodup⟩

/-- If no name repeats, the order in which a map is filled does not matter. -/
theorem ofList_perm {entries entries' : List (String × α)} (h : entries.Perm entries')
    (hnodup : (entries.map Prod.fst).Nodup) : ofList entries = ofList entries' := by
  have hnodup' : (entries'.map Prod.fst).Nodup := (h.map Prod.fst).nodup_iff.1 hnodup
  refine ext_of_mem_iff fun e => ?_
  rw [mem_ofList_iff_of_nodup hnodup, mem_ofList_iff_of_nodup hnodup', h.mem_iff]

end NameMap

end ScopedStyles
