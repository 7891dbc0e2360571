import Mathlib.Data.List.MinMax
import ScopedStyles.Alias
/-!
# Which alias applies

Of the aliases whose keys start a specifier, one policy takes the first and the other the one with
the longest key. Keys that start the same specifier and have the same size are the same key, so the
longest one is unique, and where no key is declared twice the order of a table does not matter.
-/

namespace ScopedStyles

namespace Alias

variable {a b : Alias} {s : String}

theorem matches_iff : a.matches s = true ↔ a.key.toList <+: s.toList :=
  List.isPrefixOf_iff_prefix

/-- Of two keys that start a specifier, the shorter one starts the other. -/
theorem exists_key_eq_append (ha : a.key.toList <+: s.toList) (hb : b.key.toList <+: s.toList)
    (hsize : a.key.utf8ByteSize ≤ b.key.utf8ByteSize) : ∃ rest, b.key = a.key ++ rest := by
  rcases List.prefix_or_prefix_of_prefix ha hb with ⟨rest, hrest⟩ | ⟨rest, hrest⟩
  · refine ⟨String.ofList rest, ?_⟩
    rw [← String.toList_inj, String.toList_append, String.toList_ofList, hrest]
  · have hkey : a.key = b.key ++ String.ofList rest := by
      rw [← String.toList_inj, String.toList_append, String.toList_ofList, hrest]
    have hempty : String.ofList rest = "" := by
      rw [hkey, String.utf8ByteSize_append] at hsize
      apply String.utf8ByteSize_eq_zero_iff.1
      omega
    refine ⟨"", ?_⟩
    rw [hkey, hempty, String.append_empty, String.append_empty]

theorem key_eq_of_size_eq (ha : a.key.toList <+: s.toList) (hb : b.key.toList <+: s.toList)
    (hsize : a.key.utf8ByteSize = b.key.utf8ByteSize) : a.key = b.key := by
  obtain ⟨rest, hrest⟩ := exists_key_eq_append ha hb hsize.le
  have hempty : rest = "" := by
    rw [hrest, String.utf8ByteSize_append] at hsize
    apply String.utf8ByteSize_eq_zero_iff.1
    omega
  rw [hrest, hempty, String.append_empty]

end Alias

namespace AliasTable

variable {entries entries' : List Alias} {s : String} {a b : Alias}

/-! ## Matches -/

/-- `a` is the first of the aliases whose keys start the specifier. -/
def FirstMatch (entries : List Alias) (s : String) (a : Alias) : Prop :=
  a.key.toList <+: s.toList ∧
    ∃ front back, entries = front ++ a :: back ∧ ∀ b ∈ front, ¬ b.key.toList <+: s.toList

/-- `a` has the longest of the keys that start the specifier, and is the first with this key. -/
structure LongestMatch (entries : List Alias) (s : String) (a : Alias) : Prop where
  starts : a.key.toList <+: s.toList
  longest : ∀ b ∈ entries, b.key.toList <+: s.toList → b.key.utf8ByteSize ≤ a.key.utf8ByteSize
  first : ∃ front back, entries = front ++ a :: back ∧ ∀ b ∈ front, b.key ≠ a.key

/-- No key of the table starts the specifier. -/
def Unmatched (t : AliasTable) (s : String) : Prop :=
  ∀ a ∈ t.entries, ¬ a.key.toList <+: s.toList

/-- `a` is the alias for the specifier under the policy of the table. -/
def Applies (t : AliasTable) (s : String) (a : Alias) : Prop :=
  match t.policy with
  | .firstMatch => FirstMatch t.entries s a
  | .longestPrefix => LongestMatch t.entries s a

theorem Applies.starts {t : AliasTable} (h : t.Applies s a) : a.key.toList <+: s.toList := by
  obtain ⟨entries, policy⟩ := t
  cases policy with
  | firstMatch => exact h.1
  | longestPrefix => exact LongestMatch.starts h

theorem LongestMatch.mem (h : LongestMatch entries s a) : a ∈ entries := by
  obtain ⟨front, back, rfl, -⟩ := h.first
  exact List.mem_append_right _ List.mem_cons_self

theorem LongestMatch.key_eq (ha : LongestMatch entries s a) (hb : LongestMatch entries s b) :
    a.key = b.key := by
  apply Alias.key_eq_of_size_eq ha.starts hb.starts
  apply le_antisymm
  · exact hb.longest a ha.mem ha.starts
  · exact ha.longest b hb.mem hb.starts

theorem find?_key_eq_of_first {key : String} {front back : List Alias} (ha : a.key = key)
    (hfront : ∀ b ∈ front, b.key ≠ key) :
    (front ++ a :: back).find? (·.key = key) = some a := by
  refine List.find?_eq_some_iff_append.2 ⟨decide_eq_true ha, front, back, rfl, ?_⟩
  intro b hb
  simpa using hfront b hb

theorem LongestMatch.unique (ha : LongestMatch entries s a) (hb : LongestMatch entries s b) :
    a = b := by
  obtain ⟨front, back, hsplit, hfront⟩ := ha.first
  obtain ⟨front', back', hsplit', hfront'⟩ := hb.first
  have hfind : entries.find? (·.key = b.key) = some a := by
    rw [hsplit]
    exact find?_key_eq_of_first (ha.key_eq hb) (ha.key_eq hb ▸ hfront)
  have hfind' : entries.find? (·.key = b.key) = some b := by
    rw [hsplit']
    exact find?_key_eq_of_first rfl hfront'
  exact Option.some.inj (hfind.symm.trans hfind')

/-- Where no key repeats, the first alias with a key is the only one. -/
theorem longestMatch_iff_of_nodup (hnodup : (entries.map Alias.key).Nodup) :
    LongestMatch entries s a ↔ a ∈ entries ∧ a.key.toList <+: s.toList ∧
      ∀ b ∈ entries, b.key.toList <+: s.toList → b.key.utf8ByteSize ≤ a.key.utf8ByteSize := by
  constructor
  · intro h
    exact ⟨h.mem, h.starts, h.longest⟩
  · rintro ⟨hmem, hstarts, hlongest⟩
    refine ⟨hstarts, hlongest, ?_⟩
    obtain ⟨front, back, rfl⟩ := List.append_of_mem hmem
    refine ⟨front, back, rfl, fun b hb => ?_⟩
    rw [List.map_append, List.nodup_append] at hnodup
    exact hnodup.2.2 _ (List.mem_map_of_mem hb) _ List.mem_cons_self

theorem longestMatch_perm (hnodup : (entries.map Alias.key).Nodup)
    (hperm : entries.Perm entries') : LongestMatch entries s a ↔ LongestMatch entries' s a := by
  have hnodup' : (entries'.map Alias.key).Nodup := (hperm.map Alias.key).nodup_iff.1 hnodup
  rw [longestMatch_iff_of_nodup hnodup, longestMatch_iff_of_nodup hnodup']
  simp only [hperm.mem_iff]

/-! ## Lookups -/

/-- The fold over the matching aliases keeps the first one of the greatest size. -/
theorem foldl_longer (found : List Alias) :
    found.foldl longer none = found.argmax fun a => a.key.utf8ByteSize := by
  have hstep : longer = List.argAux fun b c : Alias =>
      c.key.utf8ByteSize < b.key.utf8ByteSize := by
    funext best a
    cases best with
    | none => rfl
    | some b =>
        simp only [longer, List.argAux, ge_iff_le, ← not_lt, ite_not]
  rw [hstep]
  rfl

theorem mem_filter_matches_iff :
    a ∈ entries.filter (·.matches s) ↔ a ∈ entries ∧ a.key.toList <+: s.toList := by
  rw [List.mem_filter, Alias.matches_iff]

theorem find?_eq_none_iff (t : AliasTable) (s : String) :
    t.find? s = none ↔ t.Unmatched s := by
  have hnil : t.find? s = none ↔ t.entries.filter (·.matches s) = [] := by
    unfold find?
    cases t.policy with
    | firstMatch => exact List.head?_eq_none_iff
    | longestPrefix =>
        simp only [foldl_longer]
        exact List.argmax_eq_none
  rw [hnil, List.filter_eq_nil_iff, Unmatched]
  simp only [Alias.matches_iff]

theorem find?_firstMatch (entries : List Alias) (s : String) (a : Alias) :
    find? ⟨entries, .firstMatch⟩ s = some a ↔ FirstMatch entries s a := by
  have hfind : find? ⟨entries, .firstMatch⟩ s = entries.find? (·.matches s) := List.head?_filter
  rw [hfind, List.find?_eq_some_iff_append, FirstMatch, Alias.matches_iff]
  simp only [Bool.not_eq_true', ← Bool.not_eq_true, Alias.matches_iff]

theorem longestMatch_of_find? (h : find? ⟨entries, .longestPrefix⟩ s = some a) :
    LongestMatch entries s a := by
  have hargmax : (entries.filter (·.matches s)).argmax (fun a => a.key.utf8ByteSize) = some a :=
    (foldl_longer _).symm.trans h
  obtain ⟨hmem, hlongest, hearliest⟩ := List.argmax_eq_some_iff.1 hargmax
  obtain ⟨hentry, hstarts⟩ := mem_filter_matches_iff.1 hmem
  refine ⟨hstarts, fun b hb hbstarts => hlongest b (mem_filter_matches_iff.2 ⟨hb, hbstarts⟩), ?_⟩
  obtain ⟨front, back, rfl, hnot⟩ := List.eq_append_cons_of_mem hentry
  refine ⟨front, back, rfl, fun b hb hkey => ?_⟩
  -- An alias with the same key matches as well, and one in front of `a` has the smaller index.
  have hbmem : b ∈ front.filter (·.matches s) := by
    refine mem_filter_matches_iff.2 ⟨hb, ?_⟩
    rwa [hkey]
  have hanot : a ∉ front.filter (·.matches s) := fun ha => hnot (List.mem_filter.1 ha).1
  have hindex := hearliest b (by rw [List.filter_append]; exact List.mem_append_left _ hbmem)
    (by rw [hkey])
  rw [List.filter_append, List.idxOf_append_of_mem hbmem,
    List.idxOf_append_of_notMem hanot] at hindex
  have hlt := List.idxOf_lt_length_iff.2 hbmem
  omega

theorem find?_longestPrefix (entries : List Alias) (s : String) (a : Alias) :
    find? ⟨entries, .longestPrefix⟩ s = some a ↔ LongestMatch entries s a := by
  constructor
  · exact longestMatch_of_find?
  · intro h
    cases hfind : find? ⟨entries, .longestPrefix⟩ s with
    | none => exact absurd h.starts ((find?_eq_none_iff _ s).1 hfind a h.mem)
    | some b => rw [(longestMatch_of_find? hfind).unique h]

theorem find?_eq_some_iff {t : AliasTable} : t.find? s = some a ↔ t.Applies s a := by
  obtain ⟨entries, policy⟩ := t
  cases policy with
  | firstMatch => exact find?_firstMatch entries s a
  | longestPrefix => exact find?_longestPrefix entries s a

theorem find?_perm (hnodup : (entries.map Alias.key).Nodup) (hperm : entries.Perm entries')
    (s : String) : find? ⟨entries, .longestPrefix⟩ s = find? ⟨entries', .longestPrefix⟩ s := by
  apply Option.ext
  intro a
  rw [find?_longestPrefix, find?_longestPrefix]
  exact longestMatch_perm hnodup hperm

/-- A table finds nothing exactly if no key starts the specifier. What it finds is the first match,
or the first of the longest ones; and if no key repeats, a table with the same aliases in another
order has the same longest one. -/
theorem find?_by_policy (entries : List Alias) (s : String) :
    (∀ policy, find? ⟨entries, policy⟩ s = none ↔ ∀ a ∈ entries, ¬ a.key.toList <+: s.toList) ∧
    (∀ a, find? ⟨entries, .firstMatch⟩ s = some a ↔ FirstMatch entries s a) ∧
    (∀ a, find? ⟨entries, .longestPrefix⟩ s = some a ↔ LongestMatch entries s a) ∧
    ((entries.map Alias.key).Nodup → ∀ entries' : List Alias, entries.Perm entries' →
      find? ⟨entries, .longestPrefix⟩ s = find? ⟨entries', .longestPrefix⟩ s) := by
  refine ⟨fun policy => ?_, find?_firstMatch entries s, find?_longestPrefix entries s, ?_⟩
  · exact find?_eq_none_iff ⟨entries, policy⟩ s
  · intro hnodup entries' hperm
    exact find?_perm hnodup hperm s

/-- Keys of which each starts the next one. -/
def growingKeys : List Alias :=
  [⟨"", "./"⟩, ⟨"@", "./packages/"⟩, ⟨"@é/", "./styles/"⟩]

/-- The longest key of the reversed table is the same, although the first match is another one. -/
theorem find?_by_policy_reversed :
    find? ⟨growingKeys, .firstMatch⟩ "@é/a.css" = some ⟨"", "./"⟩ ∧
    find? ⟨growingKeys.reverse, .firstMatch⟩ "@é/a.css" = some ⟨"@é/", "./styles/"⟩ ∧
    find? ⟨growingKeys, .longestPrefix⟩ "@é/a.css" =
      find? ⟨growingKeys.reverse, .longestPrefix⟩ "@é/a.css" := by
  obtain ⟨-, hfirst, -, hperm⟩ := find?_by_policy growingKeys "@é/a.css"
  obtain ⟨-, hfirst', -, -⟩ := find?_by_policy growingKeys.reverse "@é/a.css"
  have hstarts : "@é/".toList <+: "@é/a.css".toList := by decide
  refine ⟨?_, ?_, ?_⟩
  · rw [hfirst]
    exact ⟨List.nil_prefix, [], _, rfl, by simp⟩
  · rw [hfirst']
    exact ⟨hstarts, [], _, rfl, by simp⟩
  · exact hperm (by decide) _ (List.reverse_perm growingKeys).symm

end AliasTable

end ScopedStyles
