import Mathlib.Data.Bool.AllAny
import ScopedStyles.Import.Bindings
import ScopedStyles.Proofs.Text.Parts
/-!
# What the parts of a clause bind

Blanks around a clause bind nothing. Outside braces the parts between commas bind one after the
other, and each kind of part binds a name of its own.
-/

namespace ScopedStyles.Bindings

open Text

/-! ## Clauses -/

theorem not_mem_of_blanks {c : Char} (hc : isBlank c = false) {gap : List Char}
    (hgap : ∀ d ∈ gap, isBlank d = true) : c ∉ gap := by
  intro hmem
  rw [hgap c hmem] at hc
  cases hc

theorem addPart_congr {part part' : List Char} (h : trim part = trim part') (b : Bindings) :
    addPart b part = addPart b part' := by
  rw [addPart, addPart, h]

theorem foldl_addPart_blanks_append {gap : List Char} (hgap : ∀ c ∈ gap, isBlank c = true)
    (cs : List Char) (b : Bindings) :
    (splitOn ',' (gap ++ cs)).foldl addPart b = (splitOn ',' cs).foldl addPart b := by
  have hnot : ',' ∉ gap := not_mem_of_blanks (by decide) hgap
  by_cases hcomma : ',' ∈ cs
  · obtain ⟨front, back, rfl, hfront, hsplit⟩ := exists_splitOn_of_mem hcomma
    rw [hsplit, ← List.append_assoc,
      splitOn_append_cons (List.not_mem_append hnot hfront), List.foldl_cons, List.foldl_cons,
      addPart_congr (trim_blanks_append hgap)]
  · rw [splitOn_of_not_mem hcomma, splitOn_of_not_mem (List.not_mem_append hnot hcomma),
      List.foldl_cons, List.foldl_cons, addPart_congr (trim_blanks_append hgap)]

theorem foldl_addPart_append_blanks {gap : List Char} (hgap : ∀ c ∈ gap, isBlank c = true)
    (cs : List Char) (b : Bindings) :
    (splitOn ',' (cs ++ gap)).foldl addPart b = (splitOn ',' cs).foldl addPart b := by
  have hnot : ',' ∉ gap := not_mem_of_blanks (by decide) hgap
  -- The blanks belong to the last part, so the induction is on the parts in front of it.
  induction hn : cs.length using Nat.strong_induction_on generalizing cs b with
  | _ n ih =>
      by_cases hcomma : ',' ∈ cs
      · obtain ⟨front, back, rfl, hfront, hsplit⟩ := exists_splitOn_of_mem hcomma
        have hshorter : back.length < n := by
          rw [← hn, List.length_append, List.length_cons]
          omega
        rw [hsplit, List.append_assoc, List.cons_append, splitOn_append_cons hfront,
          List.foldl_cons, List.foldl_cons, ih _ hshorter back _ rfl]
      · rw [splitOn_of_not_mem hcomma, splitOn_of_not_mem (List.not_mem_append hcomma hnot),
          List.foldl_cons, List.foldl_cons, addPart_congr (trim_append_gap cs hgap)]

theorem splitBraces_of_not_mem {cs : List Char} (h : '{' ∉ cs) : splitBraces cs = (cs, none) := by
  rw [splitBraces, splitAtFirst?_of_not_mem h]

theorem splitBraces_of_unclosed {front back : List Char} (hfront : '{' ∉ front)
    (hback : '}' ∉ back) :
    splitBraces (front ++ '{' :: back) = (front ++ '{' :: back, none) := by
  rw [splitBraces, splitAtFirst?_append_cons hfront]
  simp only [splitAtLast?_of_not_mem hback]

theorem splitBraces_append {front back : List Char} (hfront : '{' ∉ front) (inside : List Char)
    (hback : '}' ∉ back) :
    splitBraces (front ++ '{' :: (inside ++ '}' :: back)) = (front ++ back, some inside) := by
  rw [splitBraces, splitAtFirst?_append_cons hfront]
  simp only [splitAtLast?_append_cons hback]

theorem ofClause_of_splitBraces {clause outer outer' : List Char} {inside : Option (List Char)}
    {clause' : List Char} (h : splitBraces clause = (outer, inside))
    (h' : splitBraces clause' = (outer', inside))
    (houter : ∀ b, (splitOn ',' outer).foldl addPart b = (splitOn ',' outer').foldl addPart b) :
    ofClause clause = ofClause clause' := by
  rw [ofClause, ofClause, h, h']
  exact houter _

/-- Blanks around a clause bind nothing. -/
theorem ofClause_blanks {front back : List Char} (hfront : ∀ c ∈ front, isBlank c = true)
    (hback : ∀ c ∈ back, isBlank c = true) (clause : List Char) :
    ofClause (front ++ clause ++ back) = ofClause clause := by
  have houter (outer : List Char) (b : Bindings) :
      (splitOn ',' (front ++ outer ++ back)).foldl addPart b =
        (splitOn ',' outer).foldl addPart b := by
    rw [foldl_addPart_append_blanks hback, foldl_addPart_blanks_append hfront]
  have hopen : '{' ∉ front := not_mem_of_blanks (by decide) hfront
  have hopen' : '{' ∉ back := not_mem_of_blanks (by decide) hback
  have hclose : '}' ∉ back := not_mem_of_blanks (by decide) hback
  by_cases hmem : '{' ∈ clause
  · obtain ⟨before, after, rfl, hbefore⟩ := List.eq_append_cons_of_mem hmem
    have hlead : '{' ∉ front ++ before := List.not_mem_append hopen hbefore
    by_cases hlast : '}' ∈ after.reverse
    · obtain ⟨behind, inside, hafter, hbehind⟩ := List.eq_append_cons_of_mem hlast
      have hafter : after = inside.reverse ++ '}' :: behind.reverse := by
        rw [← List.reverse_reverse after, hafter]
        simp
      have hbehind : '}' ∉ behind.reverse := by simpa using hbehind
      have hgaps := splitBraces_append hlead inside.reverse (List.not_mem_append hbehind hclose)
      have hsplit : splitBraces (front ++ (before ++ '{' :: after) ++ back) =
          (front ++ (before ++ behind.reverse) ++ back, some inside.reverse) := by
        rw [hafter]
        simpa using hgaps
      exact ofClause_of_splitBraces hsplit (hafter ▸ splitBraces_append hbefore _ hbehind)
        (houter _)
    · have hafter : '}' ∉ after := by simpa using hlast
      have hgaps := splitBraces_of_unclosed hlead (List.not_mem_append hafter hclose)
      have hsplit : splitBraces (front ++ (before ++ '{' :: after) ++ back) =
          (front ++ (before ++ '{' :: after) ++ back, none) := by
        simpa using hgaps
      exact ofClause_of_splitBraces hsplit (splitBraces_of_unclosed hbefore hafter) (houter _)
  · have hgaps : '{' ∉ front ++ clause ++ back :=
      List.not_mem_append (List.not_mem_append hopen hmem) hopen'
    exact ofClause_of_splitBraces (splitBraces_of_not_mem hgaps) (splitBraces_of_not_mem hmem)
      (houter clause)

theorem ofClause_trim (clause : List Char) : ofClause (trim clause) = ofClause clause := by
  obtain ⟨front, back, hclause, hfront, hback⟩ := exists_trim_append clause
  rw [← ofClause_blanks hfront hback, ← hclause]

theorem ofClause_one {part : List Char} (hcomma : ',' ∉ part) (hopen : '{' ∉ part) :
    ofClause part = addPart {} part := by
  rw [ofClause, splitBraces_of_not_mem hopen]
  simp only [splitOn_of_not_mem hcomma]
  rfl

theorem ofClause_two {first second : List Char} (hcomma : ',' ∉ first) (hcomma' : ',' ∉ second)
    (hopen : '{' ∉ first) (hopen' : '{' ∉ second) :
    ofClause (first ++ ',' :: second) = addPart (addPart {} first) second := by
  have hnone : '{' ∉ first ++ ',' :: second := by simp [hopen, hopen']
  rw [ofClause, splitBraces_of_not_mem hnone]
  simp only [splitOn_append_cons hcomma, splitOn_of_not_mem hcomma']
  rfl

/-- The entries of what stands between braces. -/
def namedEntries (inside : List Char) : List (String × String) :=
  (splitOn ',' inside).filterMap namedEntry?

/-- Outside a list all that counts is what stands between the commas, also behind the braces. -/
theorem ofClause_braces {first front back : List Char} (hcomma : ',' ∉ first) (hopen : '{' ∉ first)
    (hopen' : '{' ∉ front) (hclose : '}' ∉ back) (inside : List Char) :
    ofClause (first ++ ',' :: (front ++ '{' :: (inside ++ '}' :: back))) =
      (splitOn ',' (front ++ back)).foldl addPart
        (addPart { named := .ofList (namedEntries inside) } first) := by
  have hlead : '{' ∉ first ++ ',' :: front := by simp [hopen, hopen']
  have hsplit := splitBraces_append hlead inside hclose
  rw [List.append_assoc, List.append_assoc, List.cons_append, List.cons_append] at hsplit
  rw [ofClause, hsplit]
  simp only [splitOn_append_cons hcomma]
  rfl

/-! ## Identifiers -/

/-- Characters that identifiers hold. -/
def isNameChar (c : Char) : Bool :=
  isAlphanumeric c || c == '_' || c == '$'

theorem isNameChar_of_mem {name : List Char} (h : isIdentifier name = true) :
    ∀ c ∈ name, isNameChar c = true := by
  cases name with
  | nil => exact fun c hc => absurd hc List.not_mem_nil
  | cons d ds =>
      simp only [isIdentifier, Bool.and_eq_true, List.all_eq_true] at h
      intro c hc
      rcases List.mem_cons.1 hc with rfl | hc
      · simp only [isNameChar, isAlphanumeric, Bool.or_eq_true] at h ⊢
        tauto
      · exact h.2 c hc

theorem ne_nil_of_isIdentifier {name : List Char} (h : isIdentifier name = true) : name ≠ [] := by
  rintro rfl
  cases h

theorem isBlank_eq_false_of_isNameChar {c : Char} (h : isNameChar c = true) :
    isBlank c = false := by
  refine Bool.eq_false_iff.2 fun hblank => ?_
  have hletter := isAlphanumeric_eq_false_of_isBlank hblank
  simp only [isNameChar, hletter, Bool.false_or, Bool.or_eq_true, beq_iff_eq] at h
  rcases h with rfl | rfl <;> cases hblank

theorem not_mem_of_isIdentifier {name : List Char} (h : isIdentifier name = true) {c : Char}
    (hc : isNameChar c = false) : c ∉ name := by
  intro hmem
  rw [isNameChar_of_mem h c hmem] at hc
  cases hc

theorem trim_of_isIdentifier {name : List Char} (h : isIdentifier name = true) :
    trim name = name := by
  obtain ⟨front, back, hname, hfront, hback⟩ := exists_trim_append name
  have hblank {gap : List Char} (hgap : ∀ c ∈ gap, isBlank c = true) (hsub : gap ⊆ name) :
      gap = [] := by
    refine List.eq_nil_iff_forall_not_mem.2 fun c hc => ?_
    have hnot := isBlank_eq_false_of_isNameChar (isNameChar_of_mem h c (hsub hc))
    rw [hgap c hc] at hnot
    cases hnot
  have hfront := hblank hfront fun c hc => by
    rw [hname]
    simp [hc]
  have hback := hblank hback fun c hc => by
    rw [hname]
    simp [hc]
  rw [hfront, hback] at hname
  simpa using hname.symm

/-! ## Parts -/

theorem addPart_blanks {part : List Char} (h : ∀ c ∈ part, isBlank c = true) (b : Bindings) :
    addPart b part = b := by
  rw [addPart, trim_eq_nil h]

/-- An identifier among blanks is the default name. -/
theorem addPart_identifier {front name back : List Char} (hname : isIdentifier name = true)
    (hfront : ∀ c ∈ front, isBlank c = true) (hback : ∀ c ∈ back, isBlank c = true)
    (b : Bindings) :
    addPart b (front ++ name ++ back) = { b with default := some (String.ofList name) } := by
  have htrim : trim (front ++ name ++ back) = name := by
    rw [trim_append_gap _ hback, trim_blanks_append hfront, trim_of_isIdentifier hname]
  cases name with
  | nil => cases hname
  | cons c cs =>
      have hstar : c ≠ '*' := by
        rintro rfl
        exact not_mem_of_isIdentifier hname (by decide) List.mem_cons_self
      rw [addPart, htrim]
      split
      · contradiction
      · next heq => exact absurd (List.cons.inj heq).1 hstar
      · exact if_pos hname

/-- What no identifier holds keeps a part from binding, if the part is no namespace. -/
theorem addPart_of_mem {part : List Char} {c : Char} (hc : isNameChar c = false)
    (hblank : isBlank c = false) (hmem : c ∈ part) (hstar : (trimStart part).head? ≠ some '*')
    (b : Bindings) : addPart b part = b := by
  obtain ⟨front, back, hpart, hfront, hback⟩ := exists_trim_append part
  have hinside : c ∈ trim part := by
    rw [hpart] at hmem
    simpa [not_mem_of_blanks hblank hfront, not_mem_of_blanks hblank hback] using hmem
  rw [addPart]
  split
  · rfl
  · next rest heq =>
      have hlead : trim part <+: trimStart part := trimEnd_prefix (trimStart part)
      rw [heq] at hlead
      obtain ⟨behind, hbehind⟩ := hlead
      exact absurd (congrArg List.head? hbehind).symm hstar
  · refine if_neg fun hname => ?_
    exact not_mem_of_isIdentifier hname hc hinside

/-- A part that starts with `*` binds the namespace and nothing else. -/
theorem addPart_star {gap : List Char} (hgap : ∀ c ∈ gap, isBlank c = true) (rest : List Char)
    (b : Bindings) :
    addPart b (gap ++ '*' :: rest) =
      { b with namespaceName := (namespaceName? rest).or b.namespaceName } := by
  obtain ⟨front, back, hpart, hfront, hback⟩ := exists_trim_append ('*' :: rest)
  cases front with
  | cons c front =>
      obtain ⟨rfl, -⟩ := List.cons.inj hpart
      exact absurd (hfront '*' List.mem_cons_self) (by decide)
  | nil =>
      rw [List.nil_append] at hpart
      cases htrim : trim ('*' :: rest) with
      | nil =>
          rw [htrim, List.nil_append] at hpart
          exact absurd (hback '*' (hpart ▸ List.mem_cons_self)) (by decide)
      | cons c inside =>
          rw [htrim] at hpart
          obtain ⟨rfl, hrest⟩ := List.cons.inj hpart
          obtain rfl : rest = inside ++ back := hrest
          have hwords : words (inside ++ back) = words inside := words_append_blanks hback inside
          rw [addPart, trim_blanks_append hgap, htrim]
          simp only [namespaceName?, hwords]

/-! ## Namespaces -/

/-- A namespace is the word behind `as`. -/
theorem namespaceName?_as {front : List Char} (hfront : ∀ c ∈ front, isBlank c = true) {c : Char}
    (hc : isBlank c = true) (rest : List Char) :
    namespaceName? (front ++ (['a', 's'] ++ c :: rest)) =
      (words (c :: rest)).head?.map String.ofList := by
  have has : ∀ d ∈ ['a', 's'], isBlank d = false :=
    List.all_iff_forall_prop.1 (by decide)
  rw [namespaceName?, words_blanks_append hfront, words_append_cons (by simp) has hc]
  cases words (c :: rest) <;> rfl

theorem namespaceName?_of_ne {front : List Char} (hfront : ∀ c ∈ front, isBlank c = true)
    {word : List Char} (hne : word ≠ []) (hword : ∀ c ∈ word, isBlank c = false)
    {rest : List Char} (has : word ++ rest.takeWhile (!isBlank ·) ≠ ['a', 's']) :
    namespaceName? (front ++ (word ++ rest)) = none := by
  rw [namespaceName?, words_blanks_append hfront, words_append hne hword]
  split
  · next heq => exact absurd (List.cons.inj heq).1 has
  · rfl

/-! ## Named imports -/

theorem mem_trim_iff {c : Char} (hc : isBlank c = false) (cs : List Char) :
    c ∈ trim cs ↔ c ∈ cs := by
  obtain ⟨front, back, hcs, hfront, hback⟩ := exists_trim_append cs
  have hmem : c ∈ front ++ trim cs ++ back ↔ c ∈ trim cs := by
    simp [not_mem_of_blanks hc hfront, not_mem_of_blanks hc hback]
  rw [← hmem, ← hcs]

theorem mem_trimStart_iff {c : Char} (hc : isBlank c = false) (cs : List Char) :
    c ∈ trimStart cs ↔ c ∈ cs := by
  have hfront : c ∉ cs.takeWhile isBlank :=
    not_mem_of_blanks hc fun _ => List.mem_takeWhile_imp
  have hsplit := List.takeWhile_append_dropWhile (p := isBlank) (l := cs)
  have hmem : c ∈ cs.takeWhile isBlank ++ trimStart cs ↔ c ∈ trimStart cs := by
    rw [List.mem_append, or_iff_right hfront]
  rw [← hmem, trimStart, hsplit]

/-- A character that no entry needs is in the names of an entry if it is in its text. -/
theorem mem_iff_exists_namedEntry? {c : Char} (hc : c ∉ ['t', 'y', 'p', 'e', ' ', 'a', 's'])
    (hblank : isBlank c = false) {part : List Char} :
    c ∈ part ↔ ∃ e, namedEntry? part = some e ∧ (c ∈ e.1.toList ∨ c ∈ e.2.toList) := by
  have htype : c ∉ ['t', 'y', 'p', 'e', ' '] := fun h => hc (by
    simp only [List.mem_cons, List.not_mem_nil, or_false] at h ⊢
    tauto)
  have has : c ∉ [' ', 'a', 's', ' '] := fun h => hc (by
    simp only [List.mem_cons, List.not_mem_nil, or_false] at h ⊢
    tauto)
  have hentry : c ∈ part ↔
      c ∈ ((dropLead? ['t', 'y', 'p', 'e', ' '] (trim part)).map trimStart).getD (trim part) := by
    rw [← mem_trim_iff hblank part]
    cases hlead : dropLead? ['t', 'y', 'p', 'e', ' '] (trim part) with
    | none => rfl
    | some rest =>
        rw [dropLead?_eq_some hlead, List.mem_append, Option.map_some, Option.getD_some,
          mem_trimStart_iff hblank, or_iff_right htype]
  rw [hentry, namedEntry?]
  generalize ((dropLead? ['t', 'y', 'p', 'e', ' '] (trim part)).map trimStart).getD (trim part) =
    entry
  cases entry with
  | nil => simp
  | cons d ds =>
      simp only [List.isEmpty_cons, Bool.false_eq_true, if_false]
      cases hsplit : splitAtFirst? [' ', 'a', 's', ' '] (d :: ds) with
      | none => simp
      | some found =>
          obtain ⟨imported, name⟩ := found
          rw [splitAtFirst?_eq_some hsplit, List.mem_append, List.mem_append, or_iff_left has]
          simp [mem_trim_iff hblank]

end ScopedStyles.Bindings
