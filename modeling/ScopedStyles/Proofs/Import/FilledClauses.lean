import ScopedStyles.Proofs.Import.Layout
import ScopedStyles.Proofs.NameMap
/-!
# What filled clauses bind

What an import binds whose gaps are filled with blanks and comments. A comment beside the default
name hides it, and one in front of the namespace or touching it hides the namespace.
-/

namespace ScopedStyles.Import

open Text Statement Lexeme

/-! ## Parts with fillers -/

section

variable {P : List Char → Prop} {front back : List Char} (hfront : Filler P front)
  (hback : Filler P back)

include hfront

theorem trimStart_filler_append (rest : List Char) :
    trimStart (front ++ rest) = trimStart rest ∨
      ∃ behind, trimStart (front ++ rest) = '/' :: behind :=
  hfront.dropWhile_append (fun _ => isBlank_of_isAsciiBlank) (by decide) rest

theorem isBlank_of_not_mem (hslash : '/' ∉ front) : ∀ c ∈ front, isBlank c = true :=
  isBlank_of_all_ascii (hfront.blanks_of_not_mem hslash)

theorem addPart_of_slash {rest : List Char} (hslash : '/' ∈ front ++ rest)
    (hrest : (trimStart rest).head? ≠ some '*') (b : Bindings) : b.addPart (front ++ rest) = b := by
  refine Bindings.addPart_of_mem (by decide) (by decide) hslash ?_ b
  rcases trimStart_filler_append hfront rest with h | ⟨behind, h⟩
  · rwa [h]
  · rw [h]
    simp

theorem addPart_namespace (rest : List Char) (b : Bindings) :
    b.addPart (front ++ '*' :: rest) =
      if '/' ∈ front then b
      else { b with namespaceName := (Bindings.namespaceName? rest).or b.namespaceName } := by
  split
  · next hslash =>
      obtain ⟨behind, h⟩ := hfront.dropWhile_append_of_mem hslash
        (fun _ => isBlank_of_isAsciiBlank) (by decide) ('*' :: rest)
      refine Bindings.addPart_of_mem (by decide) (by decide) (List.mem_append_left _ hslash) ?_ b
      rw [trimStart, h]
      simp
  · next hslash => exact Bindings.addPart_star (isBlank_of_not_mem hfront hslash) rest b

theorem exists_words_of_slash (hslash : '/' ∈ front) (rest : List Char) :
    ∃ word words', words (front ++ rest) = ('/' :: word) :: words' := by
  obtain ⟨behind, h⟩ := hfront.dropWhile_append_of_mem hslash
    (fun _ => isBlank_of_isAsciiBlank) (by decide) rest
  have hword : ∀ c ∈ ['/'], isBlank c = false := List.all_iff_forall_prop.1 (by decide)
  have hwords := words_append (List.cons_ne_nil '/' []) hword behind
  rw [← words_trimStart, trimStart, h]
  exact ⟨_, _, hwords⟩

include hback

theorem addPart_fillers (b : Bindings) : b.addPart (front ++ back) = b := by
  by_cases hslash : '/' ∈ front ++ back
  · refine addPart_of_slash hfront hslash ?_ b
    rcases trimStart_filler_append hback [] with h | ⟨behind, h⟩ <;>
      rw [List.append_nil] at h <;> rw [h] <;> simp [trimStart]
  · rw [List.mem_append, not_or] at hslash
    refine Bindings.addPart_blanks (fun c hc => ?_) b
    exact (List.mem_append.1 hc).elim (isBlank_of_not_mem hfront hslash.1 c)
      (isBlank_of_not_mem hback hslash.2 c)

theorem addPart_name {name : List Char} (hname : Bindings.isIdentifier name = true)
    (b : Bindings) :
    b.addPart (front ++ (name ++ back)) =
      if '/' ∈ front ∨ '/' ∈ back then b
      else { b with default := some (String.ofList name) } := by
  have hslash : '/' ∉ name := Bindings.not_mem_of_isIdentifier hname (by decide)
  split
  · next hmem =>
      refine addPart_of_slash hfront (by simp [hslash, hmem]) ?_ b
      obtain ⟨c, cs, rfl⟩ := List.exists_cons_of_ne_nil (Bindings.ne_nil_of_isIdentifier hname)
      have hc := Bindings.isNameChar_of_mem hname c List.mem_cons_self
      have hstart : trimStart (c :: (cs ++ back)) = c :: (cs ++ back) :=
        trimStart_cons_eq_self_iff.2 (Bindings.isBlank_eq_false_of_isNameChar hc)
      rw [List.cons_append, hstart, List.head?_cons, ne_eq, Option.some.injEq]
      rintro rfl
      cases hc
  · next hmem =>
      rw [not_or] at hmem
      rw [← List.append_assoc]
      exact Bindings.addPart_identifier hname (isBlank_of_not_mem hfront hmem.1)
        (isBlank_of_not_mem hback hmem.2) b

end

/-- A comment in front of a name, or one that touches it, is part of the first word. -/
theorem head?_words_name_iff {P : List Char → Prop} {gap name back : List Char}
    (hgap : Filler P gap) (hname : Bindings.isIdentifier name = true) (hback : Filler P back) :
    (words (gap ++ (name ++ back))).head?.map String.ofList = some (String.ofList name) ↔
      '/' ∉ gap ∧ back.head? ≠ some '/' := by
  have hslash : '/' ∉ name := Bindings.not_mem_of_isIdentifier hname (by decide)
  by_cases hgapSlash : '/' ∈ gap
  · obtain ⟨word, words', hwords⟩ := exists_words_of_slash hgap hgapSlash (name ++ back)
    refine iff_of_false ?_ fun h => h.1 hgapSlash
    rw [hwords, List.head?_cons, Option.map_some, Option.some.injEq, String.ofList_inj]
    rintro rfl
    exact hslash List.mem_cons_self
  · have hchars : ∀ d ∈ name, isBlank d = false := fun d hd =>
      Bindings.isBlank_eq_false_of_isNameChar (Bindings.isNameChar_of_mem hname d hd)
    rw [words_blanks_append (isBlank_of_not_mem hgap hgapSlash),
      words_append (Bindings.ne_nil_of_isIdentifier hname) hchars, List.head?_cons,
      Option.map_some, Option.some.injEq, String.ofList_inj, List.append_right_eq_self,
      and_iff_right hgapSlash]
    by_cases hnil : back = []
    · simp [hnil]
    obtain ⟨d, hlast, hd⟩ := hback.head_of_ne_nil hnil []
    rw [List.append_nil] at hlast
    obtain ⟨behind, rfl⟩ := List.head?_eq_some_iff.1 hlast
    rcases hd with hd | rfl
    · have hne : d ≠ '/' := by
        rintro rfl
        cases hd
      simp [isBlank_of_isAsciiBlank hd, hne]
    · have hword : isBlank '/' = false := by decide
      simp [hword]

/-- The namespace is read past blanks only, and it is cut off at a comment that touches it. -/
theorem namespaceName?_eq_some_iff {P : List Char → Prop} {front gap name back : List Char}
    (hfront : Filler P front) (hgap : Filler P gap) (hne : gap ≠ [])
    (hname : Bindings.isIdentifier name = true) (hback : Filler P back) :
    Bindings.namespaceName? (front ++ (['a', 's'] ++ (gap ++ (name ++ back)))) =
        some (String.ofList name) ↔
      '/' ∉ front ∧ '/' ∉ gap ∧ back.head? ≠ some '/' := by
  by_cases hfrontSlash : '/' ∈ front
  · obtain ⟨word, words', hwords⟩ := exists_words_of_slash hfront hfrontSlash
      (['a', 's'] ++ (gap ++ (name ++ back)))
    rw [Bindings.namespaceName?, hwords]
    exact iff_of_false (by simp) fun h => h.1 hfrontSlash
  have hblanks := isBlank_of_not_mem hfront hfrontSlash
  obtain ⟨c, hhead, hc⟩ := hgap.head_of_ne_nil hne (name ++ back)
  obtain ⟨rest, hrest⟩ := List.head?_eq_some_iff.1 hhead
  rcases hc with hc | rfl
  · have hnamespace := Bindings.namespaceName?_as hblanks (isBlank_of_isAsciiBlank hc) rest
    rw [← hrest] at hnamespace
    rw [hnamespace, head?_words_name_iff hgap hname hback]
    exact (and_iff_right hfrontSlash).symm
  · -- The slash makes the first word longer than `as`.
    have has : ∀ d ∈ ['a', 's'], isBlank d = false := List.all_iff_forall_prop.1 (by decide)
    have hslash : isBlank '/' = false := by decide
    have hgapSlash : '/' ∈ gap := by
      rw [List.head?_append_of_ne_nil _ hne] at hhead
      exact List.mem_of_head? hhead
    rw [hrest, Bindings.namespaceName?_of_ne hblanks (by simp) has (by simp [hslash])]
    exact iff_of_false (by simp) fun h => h.2.1 hgapSlash

/-! ## What a filled clause binds -/

section

variable {f : Form} {g : Layout} (hf : f.WellFormed)

include hf

theorem ofClause_of_nothing (hg : ∀ p, Filler Inert (g p)) (hextra : f.extra = .nothing) :
    Bindings.ofClause (f.clause g) =
      if '/' ∈ g .afterKeyword ∨ '/' ∈ g .beforeFrom then {}
      else { default := some (String.ofList f.name) } := by
  have hclause : f.clause g = g .afterKeyword ++ (f.name ++ g .beforeFrom) := by
    rw [Form.clause, hextra]
    rfl
  have hnot {c : Char} (hc : c ∈ [',', '{', '}', ';', '"', '\'', '\x60', '('])
      (hname : Bindings.isNameChar c = false) : c ∉ f.clause g := by
    rw [hclause]
    simp [(hg _).not_mem hc, Bindings.not_mem_of_isIdentifier hf.name hname]
  rw [Bindings.ofClause_one (hnot (by decide) (by decide)) (hnot (by decide) (by decide)), hclause,
    addPart_name (hg _) (hg _) hf.name]

theorem ofClause_of_namespaced (hg : ∀ p, Filler Inert (g p)) {name : List Char}
    (hextra : f.extra = .namespaced name) :
    Bindings.ofClause (f.clause g) =
      { default := if '/' ∈ g .afterKeyword ∨ '/' ∈ g .afterName then none
          else some (String.ofList f.name),
        namespaceName := if '/' ∈ g .afterComma then none
          else Bindings.namespaceName? (g .afterStar ++ (['a', 's'] ++ (g .afterAs ++
            (name ++ g .beforeFrom)))) } := by
  have hclause : f.clause g = g .afterKeyword ++ (f.name ++ g .afterName) ++
      ',' :: (g .afterComma ++ '*' :: (g .afterStar ++ (['a', 's'] ++ (g .afterAs ++
        (name ++ g .beforeFrom))))) := by
    rw [Form.clause, hextra, Extra.text]
    simp
  have hname : Bindings.isIdentifier name = true := by
    have hwell := hf.extra
    rw [hextra] at hwell
    exact hwell.1
  have hfirst {c : Char} (hc : c ∈ [',', '{', '}', ';', '"', '\'', '\x60', '('])
      (hchar : Bindings.isNameChar c = false) :
      c ∉ g .afterKeyword ++ (f.name ++ g .afterName) := by
    simp [(hg _).not_mem hc, Bindings.not_mem_of_isIdentifier hf.name hchar]
  have hsecond {c : Char} (hc : c ∈ [',', '{', '}', ';', '"', '\'', '\x60', '('])
      (hchar : Bindings.isNameChar c = false) (hother : c ∉ ['*', 'a', 's']) :
      c ∉ g .afterComma ++ '*' :: (g .afterStar ++ (['a', 's'] ++ (g .afterAs ++
        (name ++ g .beforeFrom)))) := by
    simp only [List.mem_cons, List.not_mem_nil, or_false, not_or] at hother
    simp [(hg _).not_mem hc, Bindings.not_mem_of_isIdentifier hname hchar, hother]
  rw [hclause, Bindings.ofClause_two (hfirst (by decide) (by decide))
    (hsecond (by decide) (by decide) (by decide)) (hfirst (by decide) (by decide))
    (hsecond (by decide) (by decide) (by decide)), addPart_name (hg _) (hg _) hf.name,
    addPart_namespace (hg _)]
  split <;> split <;> simp

/-- Next to a list a comment is cut at its commas, and each part of it is read as one of the
clause. -/
theorem ofClause_of_parts (hkeyword : Filler Inert (g .afterKeyword))
    (hname : Filler Inert (g .afterName)) (hopen : '{' ∉ g .afterComma)
    (hclose : '}' ∉ g .beforeFrom) {front back : List Char} (hextra : f.extra = .list front back) :
    Bindings.ofClause (f.clause g) =
      (splitOn ',' (g .afterComma ++ g .beforeFrom)).foldl Bindings.addPart
        { default := if '/' ∈ g .afterKeyword ∨ '/' ∈ g .afterName then none
            else some (String.ofList f.name),
          named := .ofList (Bindings.namedEntries (front ++ g .inList ++ back)) } := by
  have hclause : f.clause g = g .afterKeyword ++ (f.name ++ g .afterName) ++
      ',' :: (g .afterComma ++ '{' :: (front ++ g .inList ++ back ++ '}' :: g .beforeFrom)) := by
    rw [Form.clause, hextra, Extra.text]
    simp
  have hfirst {c : Char} (hc : c ∈ [',', '{', '}', ';', '"', '\'', '\x60', '('])
      (hchar : Bindings.isNameChar c = false) :
      c ∉ g .afterKeyword ++ (f.name ++ g .afterName) := by
    simp [hkeyword.not_mem hc, hname.not_mem hc, Bindings.not_mem_of_isIdentifier hf.name hchar]
  rw [hclause, Bindings.ofClause_braces (hfirst (by decide) (by decide))
    (hfirst (by decide) (by decide)) hopen hclose, addPart_name hkeyword hname hf.name]
  split <;> rfl

theorem ofClause_of_list (hg : ∀ p, p ≠ .inList → Filler Inert (g p)) {front back : List Char}
    (hextra : f.extra = .list front back) :
    Bindings.ofClause (f.clause g) =
      { default := if '/' ∈ g .afterKeyword ∨ '/' ∈ g .afterName then none
          else some (String.ofList f.name),
        named := .ofList (Bindings.namedEntries (front ++ g .inList ++ back)) } := by
  have hcomma := hg .afterComma (by decide)
  have hfrom := hg .beforeFrom (by decide)
  have hnot : ',' ∉ g .afterComma ++ g .beforeFrom :=
    List.not_mem_append (hcomma.not_mem (by decide)) (hfrom.not_mem (by decide))
  rw [ofClause_of_parts hf (hg .afterKeyword (by decide)) (hg .afterName (by decide))
    (hcomma.not_mem (by decide)) (hfrom.not_mem (by decide)) hextra, splitOn_of_not_mem hnot,
    List.foldl_cons, List.foldl_nil, addPart_fillers hcomma hfrom]

end

/-! ## A comment in a list -/

/-- A list that holds a slash somewhere does not bind what a list without one does. -/
theorem ofList_namedEntries_ne {inside inside' : List Char} (hmem : '/' ∈ inside')
    (hnot : '/' ∉ inside) (hnodup : ((Bindings.namedEntries inside').map Prod.fst).Nodup) :
    NameMap.ofList (Bindings.namedEntries inside') ≠
      NameMap.ofList (Bindings.namedEntries inside) := by
  intro heq
  have hcomma : '/' ≠ ',' := by decide
  obtain ⟨part, hpart, hslash⟩ := (exists_part_iff hcomma inside').2 hmem
  obtain ⟨e, hentry, hname⟩ :=
    (Bindings.mem_iff_exists_namedEntry? (by decide) (by decide)).1 hslash
  have he : e ∈ (NameMap.ofList (Bindings.namedEntries inside')).entries :=
    NameMap.mem_ofList hnodup (List.mem_filterMap.2 ⟨part, hpart, hentry⟩)
  rw [heq] at he
  obtain ⟨part', hpart', hentry'⟩ := List.mem_filterMap.1 (NameMap.mem_of_mem_ofList he)
  have hslash' : '/' ∈ part' :=
    (Bindings.mem_iff_exists_namedEntry? (by decide) (by decide)).2 ⟨e, hentry', hname⟩
  exact hnot ((exists_part_iff hcomma inside).1 ⟨part', hpart', hslash'⟩)

end ScopedStyles.Import
