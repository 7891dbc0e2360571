import Mathlib.Data.List.Induction
import Mathlib.Data.List.Nodup
import ScopedStyles.Config
import ScopedStyles.Proofs.Alias
/-!
# Aliases that are declared more than once

Aliases are declared one after the other, and a key may come again. A table that is made of such
declarations has every key once, where it was first declared, with the replacement that was declared
last. What is found in it can be told from the declarations alone.
-/

namespace ScopedStyles

/-! ## Declarations -/

/-- `replacement` is what the last declaration of `key` says. -/
def LastDeclared (declared : List (String × String)) (key replacement : String) : Prop :=
  ∃ front back, declared = front ++ (key, replacement) :: back ∧ key ∉ back.map Prod.fst

/-- `key` is the first declared of the keys that start the specifier. -/
def FirstDeclaredMatch (declared : List (String × String)) (s key : String) : Prop :=
  key.toList <+: s.toList ∧ ∃ front replacement back,
    declared = front ++ (key, replacement) :: back ∧ ∀ e ∈ front, ¬ e.1.toList <+: s.toList

/-- `key` is the longest of the declared keys that start the specifier. -/
def LongestDeclaredMatch (declared : List (String × String)) (s key : String) : Prop :=
  key ∈ declared.map Prod.fst ∧ key.toList <+: s.toList ∧
    ∀ e ∈ declared, e.1.toList <+: s.toList → e.1.utf8ByteSize ≤ key.utf8ByteSize

/-- A table is what the declarations make of it. -/
structure AliasTable.DeclaredBy (declared : List (String × String)) (t : AliasTable) : Prop where
  /-- Every key stands where it was first declared. -/
  keys : t.entries.map Alias.key = (declared.map Prod.fst).eraseDups
  once : (t.entries.map Alias.key).Nodup
  replacements : ∀ a ∈ t.entries, LastDeclared declared a.key a.replacement
  find_none : ∀ s, t.find? s = none ↔ ∀ e ∈ declared, ¬ e.1.toList <+: s.toList
  find_first : t.policy = .firstMatch → ∀ s a, t.find? s = some a ↔
    FirstDeclaredMatch declared s a.key ∧ LastDeclared declared a.key a.replacement
  find_longest : t.policy = .longestPrefix → ∀ s a, t.find? s = some a ↔
    LongestDeclaredMatch declared s a.key ∧ LastDeclared declared a.key a.replacement

theorem LastDeclared.mem {declared : List (String × String)} {key replacement : String}
    (h : LastDeclared declared key replacement) : (key, replacement) ∈ declared := by
  obtain ⟨front, back, rfl, -⟩ := h
  exact List.mem_append_right _ List.mem_cons_self

theorem lastDeclared_concat {declared : List (String × String)} {last : String × String}
    {key replacement : String} :
    LastDeclared (declared ++ [last]) key replacement ↔
      (key, replacement) = last ∨ key ≠ last.1 ∧ LastDeclared declared key replacement := by
  constructor
  · rintro ⟨front, back, hsplit, hback⟩
    induction back using List.reverseRecOn with
    | nil =>
        left
        have hlast := List.append_inj_right' hsplit rfl
        exact (List.singleton_inj.1 hlast).symm
    | append_singleton back e _ =>
        right
        rw [← List.cons_append, ← List.append_assoc] at hsplit
        obtain ⟨rfl, he⟩ := List.append_inj' hsplit rfl
        obtain rfl := List.singleton_inj.1 he
        rw [List.map_append, List.mem_append, not_or] at hback
        exact ⟨fun hkey => hback.2 (List.mem_singleton.2 hkey), front, back, rfl, hback.1⟩
  · rintro (rfl | ⟨hne, front, back, rfl, hback⟩)
    · exact ⟨declared, [], rfl, List.not_mem_nil⟩
    · refine ⟨front, back ++ [last], by simp, ?_⟩
      rw [List.map_append, List.mem_append, not_or]
      exact ⟨hback, fun hmem => hne (List.mem_singleton.1 hmem)⟩

theorem eraseDups_concat {α : Type} [DecidableEq α] (as : List α) (a : α) :
    (as ++ [a]).eraseDups = if a ∈ as then as.eraseDups else as.eraseDups ++ [a] := by
  rw [List.eraseDups_append]
  by_cases h : a ∈ as <;> simp [List.removeAll, h, List.eraseDups_cons]

/-- The first element with a property is never a repeated one. -/
theorem find?_eraseDups {α : Type} [DecidableEq α] (p : α → Bool) (as : List α) :
    as.eraseDups.find? p = as.find? p := by
  induction as using List.reverseRecOn with
  | nil => rfl
  | append_singleton as a ih =>
      rw [eraseDups_concat, List.find?_append]
      split
      · next hmem =>
          rw [ih]
          cases hfind : as.find? p with
          | some b => rfl
          | none =>
              have ha := List.find?_eq_none.1 hfind a hmem
              rw [List.find?_cons_of_neg ha]
              rfl
      · rw [List.find?_append, ih]

/-! ## Maps -/

namespace AliasMap

theorem mem_put_iff {key replacement : String} {entries : List Alias} {a : Alias}
    (hnodup : (entries.map Alias.key).Nodup) :
    a ∈ put key replacement entries ↔ a = ⟨key, replacement⟩ ∨ a.key ≠ key ∧ a ∈ entries := by
  induction entries with
  | nil => simp [put]
  | cons b entries ih =>
      obtain ⟨hnot, hrest⟩ := List.nodup_cons.1 hnodup
      rw [put]
      split
      · next hkey =>
          rw [List.mem_cons, List.mem_cons]
          refine or_congr_right ⟨fun ha => ⟨?_, .inr ha⟩, ?_⟩
          · rintro rfl
            exact hnot (hkey ▸ List.mem_map_of_mem ha)
          · rintro ⟨hne, rfl | ha⟩
            · exact absurd hkey hne
            · exact ha
      · next hkey =>
          rw [List.mem_cons, List.mem_cons, ih hrest]
          constructor
          · rintro (rfl | rfl | ⟨hne, ha⟩)
            · exact .inr ⟨hkey, .inl rfl⟩
            · exact .inl rfl
            · exact .inr ⟨hne, .inr ha⟩
          · rintro (rfl | ⟨hne, rfl | ha⟩)
            · exact .inr (.inl rfl)
            · exact .inl rfl
            · exact .inr (.inr ⟨hne, ha⟩)

theorem map_key_put (key replacement : String) (entries : List Alias) :
    (put key replacement entries).map Alias.key =
      if key ∈ entries.map Alias.key then entries.map Alias.key
      else entries.map Alias.key ++ [key] := by
  induction entries with
  | nil => rfl
  | cons a entries ih =>
      rw [put]
      by_cases hkey : a.key = key
      · rw [if_pos hkey, List.map_cons, List.map_cons, hkey, if_pos List.mem_cons_self]
      · rw [if_neg hkey, List.map_cons, List.map_cons, ih]
        by_cases hmem : key ∈ entries.map Alias.key
        · rw [if_pos hmem, if_pos (List.mem_cons_of_mem _ hmem)]
        · rw [if_neg hmem, if_neg (by simp [hmem, Ne.symm hkey]), List.cons_append]

theorem ofList_concat (declared : List (String × String)) (last : String × String) :
    ofList (declared ++ [last]) = (ofList declared).insert last.1 last.2 := by
  rw [ofList, List.foldl_append]
  rfl

theorem map_key_ofList (declared : List (String × String)) :
    (ofList declared).entries.map Alias.key = (declared.map Prod.fst).eraseDups := by
  induction declared using List.reverseRecOn with
  | nil => rfl
  | append_singleton declared last ih =>
      rw [ofList_concat, List.map_append, List.map_singleton, eraseDups_concat, insert,
        map_key_put, ih]
      simp only [List.mem_eraseDups]

theorem mem_ofList_iff {declared : List (String × String)} {a : Alias} :
    a ∈ (ofList declared).entries ↔ LastDeclared declared a.key a.replacement := by
  induction declared using List.reverseRecOn with
  | nil =>
      refine iff_of_false List.not_mem_nil fun h => ?_
      exact List.not_mem_nil h.mem
  | append_singleton declared last ih =>
      rw [ofList_concat, insert, mem_put_iff (ofList declared).nodup, lastDeclared_concat, ih,
        Alias.mk.injEq, Prod.ext_iff]

end AliasMap

/-! ## Tables -/

theorem firstDeclaredMatch_iff {declared : List (String × String)} {s key : String} :
    FirstDeclaredMatch declared s key ↔
      (declared.map Prod.fst).find? (·.toList.isPrefixOf s.toList) = some key := by
  rw [List.find?_map, Option.map_eq_some_iff]
  constructor
  · rintro ⟨hstarts, front, replacement, back, hsplit, hfront⟩
    refine ⟨(key, replacement), ?_, rfl⟩
    refine List.find?_eq_some_iff_append.2 ⟨?_, front, back, hsplit, fun e he => ?_⟩
    · exact List.isPrefixOf_iff_prefix.2 hstarts
    · rw [Bool.not_eq_true', ← Bool.not_eq_true, Function.comp_apply, List.isPrefixOf_iff_prefix]
      exact hfront e he
  · rintro ⟨⟨key, replacement⟩, hfind, rfl⟩
    obtain ⟨hstarts, front, back, hsplit, hfront⟩ := List.find?_eq_some_iff_append.1 hfind
    refine ⟨List.isPrefixOf_iff_prefix.1 hstarts, front, replacement, back, hsplit, fun e he => ?_⟩
    have hnot := hfront e he
    rwa [Bool.not_eq_true', ← Bool.not_eq_true, Function.comp_apply,
      List.isPrefixOf_iff_prefix] at hnot

namespace AliasMap

variable {declared : List (String × String)} {s key : String} {a : Alias}

theorem mem_keys_ofList_iff :
    key ∈ (ofList declared).entries.map Alias.key ↔ key ∈ declared.map Prod.fst := by
  rw [map_key_ofList, List.mem_eraseDups]

theorem forall_mem_ofList_iff {P : String → Prop} :
    (∀ a ∈ (ofList declared).entries, P a.key) ↔ ∀ e ∈ declared, P e.1 := by
  have hkeys : (∀ key ∈ (ofList declared).entries.map Alias.key, P key) ↔
      ∀ key ∈ declared.map Prod.fst, P key := by
    simp only [mem_keys_ofList_iff]
  rwa [List.forall_mem_map, List.forall_mem_map] at hkeys

theorem firstMatch_ofList_iff :
    AliasTable.FirstMatch (ofList declared).entries s a ↔
      FirstDeclaredMatch declared s a.key ∧ LastDeclared declared a.key a.replacement := by
  have hkeys : (declared.map Prod.fst).find? (·.toList.isPrefixOf s.toList) =
      ((ofList declared).entries.find? (·.matches s)).map Alias.key := by
    rw [← find?_eraseDups, ← map_key_ofList, List.find?_map]
    rfl
  rw [firstDeclaredMatch_iff, ← mem_ofList_iff, hkeys, ← AliasTable.find?_firstMatch]
  have hfind : AliasTable.find? ⟨(ofList declared).entries, .firstMatch⟩ s =
      (ofList declared).entries.find? (·.matches s) := List.head?_filter
  rw [hfind, Option.map_eq_some_iff]
  constructor
  · intro h
    exact ⟨⟨a, h, rfl⟩, List.mem_of_find?_eq_some h⟩
  · rintro ⟨⟨b, hb, hkey⟩, ha⟩
    rw [hb, List.inj_on_of_nodup_map (ofList declared).nodup (List.mem_of_find?_eq_some hb) ha hkey]

theorem longestMatch_ofList_iff :
    AliasTable.LongestMatch (ofList declared).entries s a ↔
      LongestDeclaredMatch declared s a.key ∧ LastDeclared declared a.key a.replacement := by
  have hall : (∀ b ∈ (ofList declared).entries, b.key.toList <+: s.toList →
      b.key.utf8ByteSize ≤ a.key.utf8ByteSize) ↔
      ∀ e ∈ declared, e.1.toList <+: s.toList → e.1.utf8ByteSize ≤ a.key.utf8ByteSize :=
    forall_mem_ofList_iff (P := fun key => key.toList <+: s.toList →
      key.utf8ByteSize ≤ a.key.utf8ByteSize)
  rw [AliasTable.longestMatch_iff_of_nodup (ofList declared).nodup, hall, LongestDeclaredMatch,
    ← mem_ofList_iff]
  constructor
  · rintro ⟨hmem, hstarts, hlongest⟩
    exact ⟨⟨mem_keys_ofList_iff.1 (List.mem_map_of_mem hmem), hstarts, hlongest⟩, hmem⟩
  · rintro ⟨⟨-, hstarts, hlongest⟩, hmem⟩
    exact ⟨hmem, hstarts, hlongest⟩

end AliasMap

theorem AliasTable.declaredBy_ofList (declared : List (String × String)) (policy : AliasPolicy) :
    DeclaredBy declared ⟨(AliasMap.ofList declared).entries, policy⟩ where
  keys := AliasMap.map_key_ofList declared
  once := (AliasMap.ofList declared).nodup
  replacements a ha := AliasMap.mem_ofList_iff.1 ha
  find_none s := by
    rw [find?_eq_none_iff, Unmatched]
    exact AliasMap.forall_mem_ofList_iff (P := fun key => ¬ key.toList <+: s.toList)
  find_first hpolicy s a := by
    obtain rfl := hpolicy
    rw [find?_firstMatch, AliasMap.firstMatch_ofList_iff]
  find_longest hpolicy s a := by
    obtain rfl := hpolicy
    rw [find?_longestPrefix, AliasMap.longestMatch_ofList_iff]

/-! ## Configurations -/

namespace Config

/-- A configuration with further aliases, declared one after the other. -/
def withAliases (c : Config) (declared : List (String × String)) : Config :=
  declared.foldl (fun c e => c.withAlias e.1 e.2) c

theorem withAliases_eq (c : Config) (declared : List (String × String)) :
    c.withAliases declared =
      { c with aliases := declared.foldl (fun m e => m.insert e.1 e.2) c.aliases } := by
  induction declared generalizing c with
  | nil => rfl
  | cons e declared ih => exact ih (c.withAlias e.1 e.2)

end Config

end ScopedStyles
