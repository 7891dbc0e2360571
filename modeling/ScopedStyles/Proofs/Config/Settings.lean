import ScopedStyles.Config.Json
import ScopedStyles.Proofs.Json.Entries
import ScopedStyles.Proofs.Text.Utf8
/-!
# Settings that are read back

Each setting is read from the value that it is written as, and reading it leaves the other settings
as they are.
-/

namespace ScopedStyles

/-! ## Aliases -/

namespace AliasMap

theorem put_of_not_mem {key replacement : String} {entries : List Alias}
    (h : key ∉ entries.map Alias.key) :
    put key replacement entries = entries ++ [⟨key, replacement⟩] := by
  induction entries with
  | nil => rfl
  | cons a entries ih =>
      rw [List.map_cons, List.mem_cons, not_or] at h
      rw [put, if_neg (Ne.symm h.1), ih h.2, List.cons_append]

theorem entries_insert {m : AliasMap} {key replacement : String}
    (h : key ∉ m.entries.map Alias.key) :
    (m.insert key replacement).entries = m.entries ++ [⟨key, replacement⟩] :=
  put_of_not_mem h

end AliasMap

namespace Config.Setting

open Json

/-- The key and the written value of an alias. -/
def aliasEntry (a : Alias) : String × List Char :=
  (a.key, encode a.replacement.toList)

/-- The aliases of `m` and then the ones of `entries` are the ones of `all`. -/
def AliasesLeft (all : AliasMap) (entries : List Alias) (m : AliasMap) : Prop :=
  m.entries ++ entries = all.entries

theorem reads_readAlias (all : AliasMap) : Reads readAlias aliasEntry (AliasesLeft all) := by
  intro a entries m hleft
  have hnodup := all.nodup
  rw [← hleft, List.map_append, List.nodup_append] at hnodup
  have hkey : a.key ∉ m.entries.map Alias.key := fun hmem =>
    hnodup.2.2 _ hmem _ List.mem_cons_self rfl
  refine ⟨m.insert a.key a.replacement, ?_, fun rest _ => ?_⟩
  · rw [AliasesLeft, AliasMap.entries_insert hkey, List.append_assoc]
    exact hleft
  · have hcolon : colon (':' :: ((aliasEntry a).2 ++ rest)) = .ok ((), (aliasEntry a).2 ++ rest) :=
      rfl
    have htext := text_encode_append "a string" a.replacement rest
    rw [readAlias, hcolon]
    simp only [bind, Except.bind, aliasEntry, htext]
    rfl

theorem object_aliases (all : AliasMap) (rest : List Char) :
    object "a map" readAlias .empty ('{' :: ([','].intercalate
      (memberTexts (all.entries.map aliasEntry)) ++ '}' :: rest)) = .ok (all, rest) := by
  have hleft : AliasesLeft all all.entries .empty := rfl
  obtain ⟨m, hm, hobject⟩ := exists_object (reads_readAlias all) "a map" hleft rest
  obtain rfl : m = all := AliasMap.ext (by rw [← hm, List.append_nil])
  exact hobject

/-! ## Values -/

theorem choose_name {α : Type} {name : α → String} {first second value : α}
    (hne : name first ≠ name second) (hvalue : value = first ∨ value = second) :
    choose name first second (name value) = .ok value := by
  rcases hvalue with rfl | rfl
  · exact if_pos rfl
  · rw [choose, if_neg hne.symm, if_pos rfl]

theorem variant_encode {α : Type} (name : α → String) {first second value : α}
    (hne : name first ≠ name second) (hvalue : value = first ∨ value = second)
    (rest : List Char) :
    variant name first second (encode (name value).toList ++ rest) = .ok (value, rest) := by
  have hopen : variant name first second (encode (name value).toList ++ rest) =
      string ((name value).toList.flatMap escape ++ '"' :: rest) >>= fun r =>
        choose name first second r.1 >>= fun value => pure (value, r.2) := by
    rw [encode_append]
    rfl
  rw [hopen, string_escape]
  simp only [bind, Except.bind, choose_name hne hvalue]
  rfl

theorem nullable_encode (expected value : String) (rest : List Char) :
    nullable (text expected) (encode value.toList ++ rest) = .ok (some value, rest) := by
  have hopen : nullable (text expected) (encode value.toList ++ rest) =
      (fun r => (some r.1, r.2)) <$> text expected (encode value.toList ++ rest) := by
    rw [encode_append]
    rfl
  rw [hopen, text_encode_append]
  rfl

/-- `c` with the setting of `source`. -/
def copy (f : Setting) (source c : Config) : Config :=
  match f with
  | aliases => { c with aliases := source.aliases }
  | aliasPolicy => { c with aliasPolicy := source.aliasPolicy }
  | onTransformError => { c with onTransformError := source.onTransformError }
  | pattern => { c with pattern := source.pattern }
  | dashedIdents => { c with dashedIdents := source.dashedIdents }
  | extensions => { c with extensions := source.extensions }
  | root => { c with root := source.root }

/-- A written setting is read back. -/
theorem read_write {f : Setting} {source : Config} {value : List Char}
    (hvalue : f.write? source = some value) (c : Config) (rest : List Char) :
    f.read c (value ++ rest) = .ok (f.copy source c, rest) := by
  cases f with
  | aliases =>
      have hread := object_aliases source.aliases rest
      rw [memberTexts, List.map_map] at hread
      obtain rfl := Option.some.inj hvalue
      rw [List.append_assoc, List.singleton_append, List.cons_append]
      exact congrArg (· >>= _) hread
  | aliasPolicy =>
      have hchoice : source.aliasPolicy = .longestPrefix ∨ source.aliasPolicy = .firstMatch := by
        cases source.aliasPolicy with
        | longestPrefix => exact .inl rfl
        | firstMatch => exact .inr rfl
      have hread := variant_encode AliasPolicy.name (by decide) hchoice rest
      obtain rfl := Option.some.inj hvalue
      exact congrArg (· >>= _) hread
  | onTransformError =>
      have hchoice : source.onTransformError = .failFast ∨ source.onTransformError = .isolate := by
        cases source.onTransformError with
        | failFast => exact .inl rfl
        | isolate => exact .inr rfl
      have hread := variant_encode FailurePolicy.name (by decide) hchoice rest
      obtain rfl := Option.some.inj hvalue
      exact congrArg (· >>= _) hread
  | pattern =>
      obtain rfl := Option.some.inj hvalue
      exact congrArg (· >>= _) (text_encode_append "a string" source.pattern rest)
  | dashedIdents =>
      obtain rfl := Option.some.inj hvalue
      rw [copy]
      cases source.dashedIdents <;> rfl
  | extensions =>
      have hread := array_texts "a sequence" "a string" source.extensions rest
      obtain rfl := Option.some.inj hvalue
      rw [List.append_assoc, List.singleton_append, List.cons_append]
      exact congrArg (· >>= _) hread
  | root =>
      rw [copy]
      cases hroot : source.root with
      | none =>
          rw [write?, hroot] at hvalue
          obtain rfl := Option.some.inj hvalue
          rfl
      | some p =>
          rw [write?, hroot] at hvalue
          obtain ⟨t, ht, rfl⟩ := Option.map_eq_some_iff.1 hvalue
          obtain rfl := Path.text?_eq_some_iff.1 ht
          exact congrArg (· >>= _) (nullable_encode "path string" t rest)

end Config.Setting

end ScopedStyles
