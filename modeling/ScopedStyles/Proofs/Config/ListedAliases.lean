import ScopedStyles.Proofs.Config.Declarations
import ScopedStyles.Proofs.Config.Members
import ScopedStyles.Proofs.Json.Readers
/-!
# Aliases that a text lists

A configuration that is read from a text has the aliases that the text lists, in their order and
with the last replacement of each key, however the text is laid out and spelled and whatever other
settings it holds. So declaring aliases and listing them in a text come to the same table.
-/

namespace ScopedStyles

namespace Json

/-! ## How aliases are listed -/

/-- A member of an object whose value is a string, with blanks wherever they may stand. -/
inductive SpellsEntry : List Char → String × String → Prop where
  | entry {front key behind lead value back k v : List Char} (hfront : IsGap front)
      (hkey : Literal.Denotes key k) (hbehind : IsGap behind) (hlead : IsGap lead)
      (hvalue : Literal.Denotes value v) (hback : IsGap back) :
      SpellsEntry (front ++ '"' :: (key ++ '"' :: (behind ++ ':' ::
        (lead ++ '"' :: (value ++ '"' :: back))))) (String.ofList k, String.ofList v)

/-- Such members, one after the other. -/
inductive SpellsEntries : List Char → List (String × String) → Prop where
  | one {s : List Char} {e : String × String} (hs : SpellsEntry s e) : SpellsEntries s [e]
  | more {s later : List Char} {e : String × String} {es : List (String × String)}
      (hs : SpellsEntry s e) (hlater : SpellsEntries later es) :
      SpellsEntries (s ++ ',' :: later) (e :: es)

/-- An object of such members. -/
inductive SpellsObject : List Char → List (String × String) → Prop where
  | empty {gap : List Char} (hgap : IsGap gap) : SpellsObject ('{' :: (gap ++ ['}'])) []
  | entries {s : List Char} {es : List (String × String)} (hs : SpellsEntries s es) :
      SpellsObject ('{' :: (s ++ ['}'])) es

/-- Members of an object that have other keys than `name`, each with a comma behind it. -/
inductive Others (name : String) : List Char → Prop where
  | nil : Others name []
  | cons {front key behind value later k : List Char} (hfront : IsGap front)
      (hkey : Literal.Denotes key k) (hne : String.ofList k ≠ name) (hbehind : IsGap behind)
      (hvalue : Spells .element value) (hlater : Others name later) :
      Others name (front ++ '"' :: (key ++ '"' :: (behind ++ ':' :: (value ++ ',' :: later))))

end Json

namespace Config

open Json

/-- A text lists aliases: it is an object that has them under their key, or an array that starts
with them. Nothing is said about what follows them. -/
inductive ListsAliases : List Char → List (String × String) → Prop where
  | object {front others gap key behind lead value back : List Char}
      {declared : List (String × String)} (hfront : IsGap front)
      (hothers : Others "aliases" others) (hgap : IsGap gap)
      (hkey : Literal.Denotes key "aliases".toList) (hbehind : IsGap behind) (hlead : IsGap lead)
      (hvalue : SpellsObject value declared) :
      ListsAliases (front ++ '{' :: (others ++ (gap ++ '"' :: (key ++ '"' :: (behind ++ ':' ::
        (lead ++ (value ++ back))))))) declared
  | array {front lead value back : List Char} {declared : List (String × String)}
      (hfront : IsGap front) (hlead : IsGap lead) (hvalue : SpellsObject value declared) :
      ListsAliases (front ++ '[' :: (lead ++ (value ++ back))) declared

/-! ## Reading listed aliases -/

namespace Setting

theorem readAlias_eq {behind lead value v : List Char} (hbehind : IsGap behind) (hlead : IsGap lead)
    (hvalue : Literal.Denotes value v) (key : String) (m : AliasMap) (rest : List Char) :
    readAlias key m (behind ++ ':' :: (lead ++ '"' :: (value ++ '"' :: rest))) =
      .ok (m.insert key (String.ofList v), rest) := by
  have hcolon := colon_gap hbehind (lead ++ '"' :: (value ++ '"' :: rest))
  have htext : text "a string" (lead ++ '"' :: (value ++ '"' :: rest)) =
      .ok (String.ofList v, rest) := by
    rw [text, skipBlank_append hlead (by decide)]
    exact string_of_denotes hvalue rest
  rw [readAlias, hcolon]
  simp only [bind, Except.bind, htext]
  rfl

/-- Reading one alias takes one of the fuel. -/
theorem members_entry {s : List Char} {e : String × String} (hs : SpellsEntry s e) (fuel : Nat)
    (m : AliasMap) (rest : List Char) :
    members readAlias (fuel + 1) true m (s ++ rest) =
      members readAlias fuel false (m.insert e.1 e.2) rest := by
  cases hs with
  | entry hfront hkey hbehind hlead hvalue hback =>
      simp only [List.append_assoc, List.cons_append]
      rw [members_key hfront hkey, readAlias_eq hbehind hlead hvalue]
      exact members_congr (skipBlank_gap hback rest) fuel false _

theorem exists_quote_of_spellsEntries {s : List Char} {es : List (String × String)}
    (hs : SpellsEntries s es) :
    ∃ gap inside, IsGap gap ∧ ∀ rest, s ++ rest = gap ++ '"' :: (inside ++ rest) := by
  have hentry : ∀ {s e}, SpellsEntry s e →
      ∃ gap inside, IsGap gap ∧ ∀ rest, s ++ rest = gap ++ '"' :: (inside ++ rest) := by
    intro s e hs
    obtain @⟨front, key, behind, lead, value, back, _, _, hfront, -, -, -, -, -⟩ := hs
    refine ⟨front, key ++ '"' :: (behind ++ ':' :: (lead ++ '"' :: (value ++ '"' :: back))), hfront,
      fun rest => ?_⟩
    rw [List.append_assoc, List.cons_append]
  cases hs with
  | one hs => exact hentry hs
  | @more _ later _ _ hs _ =>
      obtain ⟨gap, inside, hgap, heq⟩ := hentry hs
      refine ⟨gap, inside ++ ',' :: later, hgap, fun rest => ?_⟩
      rw [List.append_assoc, heq, ← List.append_assoc inside]

theorem length_le_of_spellsEntries {s : List Char} {es : List (String × String)}
    (hs : SpellsEntries s es) : es.length ≤ s.length := by
  have hentry : ∀ {s e}, SpellsEntry s e → 1 ≤ s.length := by
    rintro _ _ ⟨-, -, -, -, -, -⟩
    simp only [List.length_append, List.length_cons]
    omega
  induction hs with
  | one hs => exact hentry hs
  | more hs _ ih =>
      rw [List.length_append, List.length_cons, List.length_cons]
      omega

theorem members_entries {s : List Char} {es : List (String × String)} (hs : SpellsEntries s es)
    {fuel : Nat} (hfuel : es.length < fuel) (m : AliasMap) (rest : List Char) :
    members readAlias fuel true m (s ++ '}' :: rest) =
      .ok (es.foldl (fun m e => m.insert e.1 e.2) m, rest) := by
  induction hs generalizing fuel m with
  | one hs =>
      obtain ⟨fuel, rfl⟩ := Nat.exists_eq_add_of_le' (Nat.le_of_lt hfuel : 1 ≤ fuel)
      obtain ⟨fuel, rfl⟩ := Nat.exists_eq_add_of_le' (Nat.lt_of_succ_lt_succ hfuel : 1 ≤ fuel)
      rw [members_entry hs]
      exact members_close isBlank_of_mem_nil fuel false _ rest
  | more hs hlater ih =>
      obtain ⟨fuel, rfl⟩ := Nat.exists_eq_add_of_le' (Nat.one_le_of_lt hfuel)
      obtain ⟨gap, inside, hgap, heq⟩ := exists_quote_of_spellsEntries hlater
      rw [List.append_assoc, members_entry hs, List.cons_append, heq, members_comma hgap, ← heq]
      exact ih (Nat.lt_of_succ_lt_succ hfuel) _

/-- An object that lists aliases is read as the map that they make. -/
theorem object_spelled {lead value : List Char} {es : List (String × String)} (hlead : IsGap lead)
    (hvalue : SpellsObject value es) (rest : List Char) :
    object "a map" readAlias .empty (lead ++ (value ++ rest)) = .ok (.ofList es, rest) := by
  cases hvalue with
  | empty hgap =>
      rw [List.cons_append, List.append_assoc, List.singleton_append, object,
        skipBlank_append hlead (by decide)]
      exact members_close hgap _ true _ rest
  | @entries s _ hs =>
      have hlength := length_le_of_spellsEntries hs
      have hfuel : es.length < (s ++ '}' :: rest).length + 1 := by
        rw [List.length_append]
        omega
      rw [List.cons_append, List.append_assoc, List.singleton_append, object,
        skipBlank_append hlead (by decide)]
      exact members_entries hs hfuel _ rest

/-! ## Settings beside the aliases -/

variable {f : Setting} {c c' : Config} {s rest later : List Char}

/-- Reading a setting changes no other one. -/
theorem aliases_of_read (hf : f ≠ aliases) (h : f.read c s = .ok (c', rest)) :
    c'.aliases = c.aliases := by
  cases f with
  | aliases => exact absurd rfl hf
  | aliasPolicy | onTransformError | pattern | dashedIdents | extensions | root =>
      obtain ⟨_, -, h⟩ := bind_eq_ok h
      cases h
      rfl

theorem read_stops (hf : f ≠ aliases) {fuel : Nat} (h : f.read c s = .ok (c', rest))
    (hskip : skipWithin fuel s = .ok later) : rest = later := by
  cases f with
  | aliases => exact absurd rfl hf
  | aliasPolicy | onTransformError =>
      obtain ⟨_, hread, h⟩ := bind_eq_ok h
      cases h
      exact variant_stopsWithSkip _ _ _ hread hskip
  | pattern =>
      obtain ⟨_, hread, h⟩ := bind_eq_ok h
      cases h
      exact text_stopsWithSkip _ hread hskip
  | dashedIdents =>
      obtain ⟨_, hread, h⟩ := bind_eq_ok h
      cases h
      exact boolean_stopsWithSkip _ hread hskip
  | extensions =>
      obtain ⟨_, hread, h⟩ := bind_eq_ok h
      cases h
      exact array_stopsWithSkip (text_stopsWithSkip _) _ hread hskip
  | root =>
      obtain ⟨_, hread, h⟩ := bind_eq_ok h
      cases h
      exact nullable_stopsWithSkip (text_stopsWithSkip _) hread hskip

end Setting

/-! ## Whole texts -/

section

variable {p p' : Progress} {s rest : List Char} {key : String}

theorem readMember_keeps (hseen : .aliases ∈ p.seen)
    (h : Progress.readMember key p s = .ok (p', rest)) :
    .aliases ∈ p'.seen ∧ p'.config.aliases = p.config.aliases := by
  unfold Progress.readMember at h
  split at h
  · next f _ =>
    split at h
    · cases h
    · next hnot =>
        obtain ⟨_, -, h⟩ := bind_eq_ok h
        obtain ⟨⟨config, s'⟩, hread, h⟩ := bind_eq_ok h
        cases h
        refine ⟨List.mem_cons_of_mem f hseen, Setting.aliases_of_read ?_ hread⟩
        rintro rfl
        exact hnot hseen
  · obtain ⟨_, -, h⟩ := bind_eq_ok h
    obtain ⟨_, -, h⟩ := bind_eq_ok h
    cases h
    exact ⟨hseen, rfl⟩

/-- Aliases that have been read stay as they are. -/
theorem members_keep {fuel : Nat} {first : Bool} (hseen : .aliases ∈ p.seen)
    (h : members Progress.readMember fuel first p s = .ok (p', rest)) :
    p'.config.aliases = p.config.aliases := by
  induction fuel generalizing first p s with
  | zero => cases h
  | succ fuel ih =>
      obtain ⟨⟨more, s'⟩, -, h⟩ := bind_eq_ok h
      cases more with
      | false =>
          cases h
          rfl
      | true =>
          dsimp only at h
          rw [if_pos rfl] at h
          split at h
          · obtain ⟨⟨key, behind⟩, -, h⟩ := bind_eq_ok h
            obtain ⟨⟨q, behind'⟩, hread, h⟩ := bind_eq_ok h
            obtain ⟨hq, haliases⟩ := readMember_keeps hseen hread
            rw [ih hq h, haliases]
          · cases h

theorem readMember_other {behind value tail : List Char} (hkey : key ≠ "aliases")
    (hbehind : IsGap behind) (hvalue : Spells .element value)
    (h : Progress.readMember key p (behind ++ ':' :: (value ++ ',' :: tail)) = .ok (p', rest)) :
    skipBlank rest = ',' :: tail ∧ (.aliases ∉ p.seen → .aliases ∉ p'.seen) := by
  have hcolon := colon_gap hbehind (value ++ ',' :: tail)
  have hfuel : value.length ≤ 2 * (value ++ ',' :: tail).length := by
    rw [List.length_append]
    omega
  obtain ⟨gap, hgap, hskip⟩ := hvalue.skips _ ',' tail hfuel (by decide)
  have hcomma : skipBlank (gap ++ ',' :: tail) = ',' :: tail :=
    skipBlank_append hgap (by decide) tail
  unfold Progress.readMember at h
  split at h
  · next f hf =>
    have hne : f ≠ .aliases := by
      rintro rfl
      have hname := List.find?_some hf
      exact hkey (beq_iff_eq.1 hname).symm
    split at h
    · cases h
    · obtain ⟨_, hstart, h⟩ := bind_eq_ok h
      obtain rfl := Except.ok.inj (hcolon.symm.trans hstart)
      obtain ⟨⟨config, s'⟩, hread, h⟩ := bind_eq_ok h
      cases h
      rw [Setting.read_stops hne hread hskip]
      refine ⟨hcomma, fun hnot => ?_⟩
      rw [List.mem_cons, not_or]
      exact ⟨hne.symm, hnot⟩
  · obtain ⟨_, hstart, h⟩ := bind_eq_ok h
    obtain rfl := Except.ok.inj (hcolon.symm.trans hstart)
    obtain ⟨s', hread, h⟩ := bind_eq_ok h
    cases h
    obtain rfl := Except.ok.inj (hread.symm.trans hskip)
    exact ⟨hcomma, id⟩

theorem exists_quote_of_others {name : String} {others gap : List Char}
    (hothers : Others name others) (hgap : IsGap gap) (s : List Char) :
    ∃ gap' s', IsGap gap' ∧ others ++ (gap ++ '"' :: s) = gap' ++ '"' :: s' := by
  cases hothers with
  | nil => exact ⟨gap, s, hgap, rfl⟩
  | @cons front key behind value later _ hfront =>
      refine ⟨front, key ++ '"' :: (behind ++ ':' :: (value ++ ',' :: later)) ++ (gap ++ '"' :: s),
        hfront, ?_⟩
      rw [List.append_assoc, List.cons_append]

/-- In front of the aliases, members are read one after the other without touching them. -/
theorem members_others {others gap : List Char} (hothers : Others "aliases" others)
    (hgap : IsGap gap) {fuel : Nat} (hseen : .aliases ∉ p.seen) {s : List Char}
    (h : members Progress.readMember fuel true p (others ++ (gap ++ '"' :: s)) = .ok (p', rest)) :
    ∃ fuel q, .aliases ∉ q.seen ∧
      members Progress.readMember fuel true q (gap ++ '"' :: s) = .ok (p', rest) := by
  induction hothers generalizing fuel p with
  | nil => exact ⟨fuel, p, hseen, h⟩
  | cons hfront hkey hne hbehind hvalue hlater ih =>
      cases fuel with
      | zero => cases h
      | succ fuel =>
          simp only [List.append_assoc, List.cons_append] at h
          rw [members_key hfront hkey] at h
          obtain ⟨⟨q, behind⟩, hread, h⟩ := bind_eq_ok h
          obtain ⟨hcomma, hq⟩ := readMember_other hne hbehind hvalue hread
          obtain ⟨gap', s', hgap', heq⟩ := exists_quote_of_others hlater hgap s
          have hblank : skipBlank behind = skipBlank (',' :: (gap' ++ '"' :: s')) := by
            rw [hcomma, heq, skipBlank_cons (by decide)]
          rw [members_congr hblank, members_comma hgap', ← heq] at h
          exact ih (hq hseen) h

theorem readMember_aliases {behind lead value : List Char} {declared : List (String × String)}
    (hseen : .aliases ∉ p.seen) (hbehind : IsGap behind) (hlead : IsGap lead)
    (hvalue : SpellsObject value declared) (rest : List Char) :
    Progress.readMember "aliases" p (behind ++ ':' :: (lead ++ (value ++ rest))) =
      .ok (⟨{ p.config with aliases := .ofList declared }, .aliases :: p.seen⟩, rest) := by
  have hname : Setting.ofName? "aliases" = some .aliases := ofName?_name .aliases
  have hcolon := colon_gap hbehind (lead ++ (value ++ rest))
  have hread : Setting.read .aliases p.config (lead ++ (value ++ rest)) =
      .ok ({ p.config with aliases := .ofList declared }, rest) :=
    congrArg (· >>= _) (Setting.object_spelled hlead hvalue rest)
  rw [Progress.readMember, hname]
  simp only [if_neg hseen, hcolon, bind, Except.bind, hread]
  rfl

theorem aliases_of_members {others gap key behind lead value back : List Char}
    {declared : List (String × String)} (hothers : Others "aliases" others) (hgap : IsGap gap)
    (hkey : Literal.Denotes key "aliases".toList) (hbehind : IsGap behind) (hlead : IsGap lead)
    (hvalue : SpellsObject value declared) {fuel : Nat}
    (h : members Progress.readMember fuel true {} (others ++ (gap ++ '"' :: (key ++ '"' ::
      (behind ++ ':' :: (lead ++ (value ++ back)))))) = .ok (p, rest)) :
    p.config.aliases = .ofList declared := by
  obtain ⟨fuel, q, hseen, h⟩ := members_others hothers hgap List.not_mem_nil h
  cases fuel with
  | zero => cases h
  | succ fuel =>
      rw [members_key hgap hkey, String.ofList_toList,
        readMember_aliases hseen hbehind hlead hvalue] at h
      exact members_keep List.mem_cons_self h

end

/-- The settings behind the aliases leave them as they are. -/
theorem positional_keeps {readers : List (Config → Reader Config)}
    (hreaders : ∀ read ∈ readers, ∀ {c c' s rest}, read c s = .ok (c', rest) →
      c'.aliases = c.aliases) {first : Bool} {c c' : Config} {s rest : List Char}
    (h : positional readers first c s = .ok (c', rest)) : c'.aliases = c.aliases := by
  induction readers generalizing first c s with
  | nil =>
      unfold positional at h
      split at h
      · cases h
        rfl
      · cases h
      · cases h
  | cons read readers ih =>
      obtain ⟨⟨more, s'⟩, -, h⟩ := bind_eq_ok h
      cases more with
      | false =>
          cases h
          rfl
      | true =>
          obtain ⟨⟨d, behind⟩, hread, h⟩ := bind_eq_ok h
          obtain ⟨hfirst, hothers⟩ := List.forall_mem_cons.1 hreaders
          rw [ih hothers h, hfirst hread]

theorem aliases_of_positional {lead value back rest : List Char}
    {declared : List (String × String)} {c : Config} (hlead : IsGap lead)
    (hvalue : SpellsObject value declared)
    (h : positional (Setting.all.map Setting.read) true {} (lead ++ (value ++ back)) =
      .ok (c, rest)) : c.aliases = .ofList declared := by
  obtain ⟨inside, hopen⟩ : ∃ inside, value ++ back = '{' :: inside := by
    cases hvalue with
    | empty => exact ⟨_, rfl⟩
    | entries => exact ⟨_, rfl⟩
  obtain ⟨⟨more, s'⟩, hnext, h⟩ := bind_eq_ok h
  rw [hopen, nextEntry_first hlead (by decide) (by decide)] at hnext
  cases hnext
  obtain ⟨⟨d, behind⟩, hread, h⟩ := bind_eq_ok h
  have hobject := Setting.object_spelled isBlank_of_mem_nil hvalue back
  rw [List.nil_append, hopen] at hobject
  have haliases : Setting.read .aliases {} ('{' :: inside) =
      .ok ({ aliases := .ofList declared }, back) := congrArg (· >>= _) hobject
  obtain ⟨rfl, rfl⟩ := Prod.mk.inj (Except.ok.inj (haliases.symm.trans hread))
  refine positional_keeps ?_ h
  intro read hmem c c' s rest hread
  obtain ⟨f, hf, rfl⟩ := List.mem_map.1 hmem
  refine Setting.aliases_of_read ?_ hread
  rintro rfl
  exact absurd hf (by decide)

theorem aliases_of_ofJson {text : String} {declared : List (String × String)} {c : Config}
    (hlists : ListsAliases text.toList declared) (h : ofJson text = .ok c) :
    c.aliases = .ofList declared := by
  obtain ⟨⟨d, behind⟩, hread, h⟩ := bind_eq_ok h
  have hdocument : d = c := by
    dsimp only at h
    split at h
    · exact Except.ok.inj h
    · cases h
  subst hdocument
  generalize text.toList = s at hlists hread
  cases hlists with
  | object hfront hothers hgap hkey hbehind hlead hvalue =>
      rw [reader, skipBlank_append hfront (by decide)] at hread
      obtain ⟨⟨p, rest⟩, hobject, hread⟩ := bind_eq_ok hread
      cases hread
      exact aliases_of_members hothers hgap hkey hbehind hlead hvalue hobject
  | array hfront hlead hvalue =>
      rw [reader, skipBlank_append hfront (by decide)] at hread
      exact aliases_of_positional hlead hvalue hread

/-! ## Texts that list aliases -/

theorem spellsEntry_encode (key value : String) :
    SpellsEntry (encode key.toList ++ ':' :: encode value.toList) (key, value) := by
  have hentry := SpellsEntry.entry isBlank_of_mem_nil (Literal.denotes_flatMap_escape key.toList)
    isBlank_of_mem_nil isBlank_of_mem_nil (Literal.denotes_flatMap_escape value.toList)
    isBlank_of_mem_nil
  rw [String.ofList_toList, String.ofList_toList] at hentry
  rwa [encode_append, encode]

/-- The members of an object with the given keys and strings. -/
def entryTexts (declared : List (String × String)) : List (List Char) :=
  memberTexts (declared.map fun e => (e.1, encode e.2.toList))

theorem spellsObject_entryTexts (declared : List (String × String)) :
    SpellsObject ('{' :: ([','].intercalate (entryTexts declared) ++ ['}'])) declared := by
  cases declared with
  | nil => exact .empty isBlank_of_mem_nil
  | cons e declared =>
      refine .entries ?_
      induction declared generalizing e with
      | nil =>
          rw [entryTexts, List.map_singleton, memberTexts, List.map_singleton,
            List.intercalate_singleton]
          exact .one (spellsEntry_encode e.1 e.2)
      | cons next declared ih =>
          rw [entryTexts, List.map_cons, memberTexts, List.map_cons, List.map_cons, List.map_cons,
            List.intercalate_cons_cons, List.append_assoc, List.singleton_append]
          exact .more (spellsEntry_encode e.1 e.2) (ih next)

/-- The JSON text of a configuration with some aliases and a policy. -/
def listing (declared : List (String × String)) (policy : AliasPolicy) : List Char :=
  '{' :: (encode "aliases".toList ++ ':' :: ('{' :: ([','].intercalate (entryTexts declared) ++
    ['}']) ++ ',' :: (encode "aliasPolicy".toList ++ ':' :: (encode policy.name.toList ++ ['}']))))

theorem listsAliases_listing (declared : List (String × String)) (policy : AliasPolicy) :
    ListsAliases (listing declared policy) declared := by
  have hkey := Literal.denotes_flatMap_escape "aliases".toList
  rw [listing, encode_append]
  exact @ListsAliases.object [] [] [] _ [] [] _ _ declared isBlank_of_mem_nil .nil
    isBlank_of_mem_nil hkey isBlank_of_mem_nil isBlank_of_mem_nil (spellsObject_entryTexts declared)

theorem ofJson_listing (declared : List (String × String)) (policy : AliasPolicy) :
    ofJson (String.ofList (listing declared policy)) =
      .ok { aliases := .ofList declared, aliasPolicy := policy } := by
  have haliases : ∀ rest, Progress.readMember "aliases" {} (':' :: ('{' ::
      ([','].intercalate (entryTexts declared) ++ ['}']) ++ rest)) =
      .ok (⟨{ aliases := .ofList declared }, [.aliases]⟩, rest) := fun rest =>
    readMember_aliases List.not_mem_nil isBlank_of_mem_nil isBlank_of_mem_nil
      (spellsObject_entryTexts declared) rest
  have hpolicy : Progress.readMember "aliasPolicy" ⟨{ aliases := .ofList declared }, [.aliases]⟩
      (':' :: (encode policy.name.toList ++ ['}'])) =
      .ok (⟨{ aliases := .ofList declared, aliasPolicy := policy }, [.aliasPolicy, .aliases]⟩,
        ['}']) := by
    have hwrite : Setting.write? .aliasPolicy { aliasPolicy := policy } =
        some (encode policy.name.toList) := rfl
    have hread := Setting.read_write hwrite { aliases := .ofList declared } ['}']
    have hname : Setting.ofName? "aliasPolicy" = some .aliasPolicy := ofName?_name .aliasPolicy
    have hseen : Setting.aliasPolicy ∉ [Setting.aliases] := by decide
    simp only [Progress.readMember, hname, if_neg hseen]
    exact congrArg
      (fun r => r >>= fun x => pure (Progress.mk x.1 [.aliasPolicy, .aliases], x.2)) hread
  have hobject : object "struct CssModulesConfig" Progress.readMember {} (listing declared policy) =
      .ok (⟨{ aliases := .ofList declared, aliasPolicy := policy }, [.aliasPolicy, .aliases]⟩,
        []) := by
    have hopen : object "struct CssModulesConfig" Progress.readMember {}
        (listing declared policy) = members Progress.readMember
          ((listing declared policy).tail.length + 1) true {} (listing declared policy).tail := rfl
    obtain ⟨fuel, hfuel⟩ : ∃ fuel, (listing declared policy).tail.length = fuel + 2 := by
      refine ⟨(listing declared policy).tail.length - 2, ?_⟩
      simp only [listing, encode, List.tail_cons, List.length_append, List.length_cons]
      omega
    rw [hopen, hfuel]
    refine (members_first isBlank_of_mem_nil (haliases _) (fuel + 2)).trans ?_
    refine (members_later isBlank_of_mem_nil hpolicy (fuel + 1)).trans ?_
    exact members_close isBlank_of_mem_nil fuel false _ []
  rw [ofJson, String.toList_ofList, document]
  exact congrArg (fun r => (r >>= fun x => pure (x.1.config, x.2)) >>= _) hobject

/-- Aliases that are declared one after the other, and aliases that a JSON text lists, make the same
table: every key stands once, where it was first declared, with the replacement that was declared
last, and a lookup finds the longest or the first declared key that starts the specifier. Every list
of declarations can be written as such a text. -/
theorem aliasTable_declaredBy (declared : List (String × String)) :
    (∀ policy,
      ({ ({} : Config).withAliases declared with aliasPolicy := policy }).aliasTable.policy =
        policy ∧
      ({ ({} : Config).withAliases declared with aliasPolicy := policy }).aliasTable.DeclaredBy
        declared) ∧
    (∀ text c, ListsAliases text.toList declared → ofJson text = .ok c →
      c.aliasTable.policy = c.aliasPolicy ∧ c.aliasTable.DeclaredBy declared) ∧
    ∀ policy, ∃ text, ListsAliases text.toList declared ∧
      ofJson text = .ok { ({} : Config).withAliases declared with aliasPolicy := policy } := by
  have hdeclared := withAliases_eq {} declared
  refine ⟨fun policy => ⟨rfl, ?_⟩, fun text c hlists h => ⟨rfl, ?_⟩, fun policy => ?_⟩
  · rw [hdeclared]
    exact AliasTable.declaredBy_ofList declared policy
  · rw [aliasTable, aliases_of_ofJson hlists h]
    exact AliasTable.declaredBy_ofList declared c.aliasPolicy
  · refine ⟨String.ofList (listing declared policy), ?_, ?_⟩
    · rw [String.toList_ofList]
      exact listsAliases_listing declared policy
    · rw [ofJson_listing, hdeclared]
      rfl

/-- A key that is declared again behind a longer one. -/
def repeatedKey : List (String × String) :=
  [("@", "./a/"), ("@/", "./b/"), ("@", "./c/")]

/-- The same aliases as a text, behind a setting that no configuration has. -/
def repeatedKeyText : String :=
  "\x7b\"x\": null,\n \"aliases\" : \x7b\"\\u0040\":\"./a/\", \"@/\":\"./b/\",\"@\":\"./c/\"\x7d\x7d"

theorem listsAliases_repeatedKeyText : ListsAliases repeatedKeyText.toList repeatedKey := by
  have hnone : IsGap [] := isBlank_of_mem_nil
  have hspace : IsGap [' '] := List.forall_mem_singleton.2 rfl
  have hnewline : IsGap ['\n', ' '] := List.forall_mem_cons.2 ⟨rfl, hspace⟩
  have hx : Literal.Denotes ['x'] ['x'] :=
    Literal.denotes_self (List.forall_mem_singleton.2 (by decide))
  have hothers := Others.cons hnone hx (by decide : String.ofList ['x'] ≠ "aliases") hnone
    (.element hspace (.word (by decide) : Spells .value ['n', 'u', 'l', 'l']) hnone) .nil
  have hat : Literal.Denotes ['\\', 'u', '0', '0', '4', '0'] ['@'] :=
    .unit (by decide : Literal.unit? '0' '0' '4' '0' = some 0x40) (by decide) (by decide) .nil
  have hplain : ∀ s ∈ ["aliases", "@", "@/", "./a/", "./b/", "./c/"],
      Literal.Denotes s.toList s.toList := by
    have hall : (["aliases", "@", "@/", "./a/", "./b/", "./c/"].all fun s =>
        s.toList.all fun c => decide (c ≠ '"' ∧ c ≠ '\\' ∧ ¬ c.toNat < 0x20)) = true := by
      decide
    intro s hs
    refine Literal.denotes_self fun c hc => ?_
    exact of_decide_eq_true (List.all_eq_true.1 (List.all_eq_true.1 hall s hs) c hc)
  have hfirst := SpellsEntry.entry hnone hat hnone hnone (hplain "./a/" (by decide)) hnone
  have hsecond := SpellsEntry.entry hspace (hplain "@/" (by decide)) hnone hnone
    (hplain "./b/" (by decide)) hnone
  have hthird := SpellsEntry.entry hnone (hplain "@" (by decide)) hnone hnone
    (hplain "./c/" (by decide)) hnone
  have hentries := SpellsObject.entries (.more hfirst (.more hsecond (.one hthird)))
  have hlists := @ListsAliases.object [] _ _ _ _ _ _ ['}'] _ hnone hothers hnewline
    (hplain "aliases" (by decide)) hspace hspace hentries
  refine cast (congrArg₂ ListsAliases ?_ ?_) hlists
  · decide +kernel
  · decide +kernel

/-- The repeated key keeps its place in front of the longer one, and has its last replacement. -/
theorem aliasTable_declaredBy_repeatedKey :
    (({ ({} : Config).withAliases repeatedKey with aliasPolicy := .firstMatch }).aliasTable.find?
      "@/x.css" = some ⟨"@", "./c/"⟩) ∧
    ∃ c, ofJson repeatedKeyText = .ok c ∧ c.aliasTable.find? "@/x.css" = some ⟨"@/", "./b/"⟩ ∧
      c.aliasTable.find? "@x.css" = some ⟨"@", "./c/"⟩ := by
  obtain ⟨hdeclared, hlisted, -⟩ := aliasTable_declaredBy repeatedKey
  have hlast : LastDeclared repeatedKey "@" "./c/" :=
    ⟨[("@", "./a/"), ("@/", "./b/")], [], rfl, List.not_mem_nil⟩
  have hlong : LastDeclared repeatedKey "@/" "./b/" :=
    ⟨[("@", "./a/")], [("@", "./c/")], rfl, by decide⟩
  have hread : ofJson repeatedKeyText = .ok { aliases := .ofList repeatedKey } := by
    decide +kernel
  have htable := (hlisted _ _ listsAliases_repeatedKeyText hread).2
  refine ⟨?_, { aliases := .ofList repeatedKey }, hread, ?_, ?_⟩
  · have hfirst : FirstDeclaredMatch repeatedKey "@/x.css" "@" :=
      ⟨by decide, [], "./a/", _, rfl, List.forall_mem_nil _⟩
    exact ((hdeclared .firstMatch).2.find_first rfl _ _).2 ⟨hfirst, hlast⟩
  · have hlongest : LongestDeclaredMatch repeatedKey "@/x.css" "@/" := by
      unfold LongestDeclaredMatch
      decide
    exact (htable.find_longest rfl _ _).2 ⟨hlongest, hlong⟩
  · have hlongest : LongestDeclaredMatch repeatedKey "@x.css" "@" := by
      unfold LongestDeclaredMatch
      decide
    exact (htable.find_longest rfl _ _).2 ⟨hlongest, hlast⟩

end Config

end ScopedStyles
