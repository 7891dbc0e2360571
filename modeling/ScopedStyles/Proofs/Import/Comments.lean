import ScopedStyles.Proofs.Import.CommentedClauses
/-!
# Comments in imports

Which comments leave an import as it is. In front of the final semicolon all of them do. Inert ones
do behind the comma in front of a list, behind a list, and behind a namespace if a blank stands
between the two. Everywhere else a comment hides a name, or the import: in front of the specifier
whatever it holds, and in front of `from` if it holds a quote, a semicolon or a parenthesis outside
braces, or a brace that it does not close. A word `from` in a comment ends the clause there.
-/

namespace ScopedStyles.Import

open Text Statement Lexeme

section

variable {f : Form} {g : Layout} {p : Gap} {front body back : List Char}

/-! ## What is read -/

theorem length_encode_le_of_sublist {cs ds : List Char} (h : cs.Sublist ds) :
    (Utf8.encode cs).length ≤ (Utf8.encode ds).length := by
  induction h with
  | slnil => exact Nat.le_refl _
  | cons c _ ih =>
      rw [Utf8.encode_cons, List.length_append]
      omega
  | cons_cons c _ ih =>
      rw [Utf8.encode_cons, Utf8.encode_cons, List.length_append, List.length_append]
      omega

theorem Extra.text_sublist {g' : Layout} (h : ∀ q, (g q).Sublist (g' q)) (extra : Extra) :
    (extra.text g).Sublist (extra.text g') := by
  cases extra with
  | nothing => exact List.Sublist.refl _
  | namespaced name =>
      exact (h _).append (.cons_cons _ ((h _).append (.cons_cons _ ((h _).append
        ((List.Sublist.refl _).append ((h _).append (.refl _)))))))
  | list before after =>
      exact (h _).append (.cons_cons _ ((h _).append (.cons_cons _
        ((((List.Sublist.refl _).append (h _)).append (.refl _)).append (.refl _)))))

theorem Form.clause_sublist {g' : Layout} (h : ∀ q, (g q).Sublist (g' q)) :
    (f.clause g).Sublist (f.clause g') :=
  (h _).append ((List.Sublist.refl _).append ((Extra.text_sublist h _).append (h _)))

theorem plain_of_isIdentifier {name : List Char} (h : Bindings.isIdentifier name = true) :
    ∀ c ∈ name, isQuote c = false ∧ c ≠ '/' := by
  intro c hc
  have hne {d : Char} (hd : Bindings.isNameChar d = false) : c ≠ d := by
    rintro rfl
    exact Bindings.not_mem_of_isIdentifier h hd hc
  have hdouble : c ≠ '"' := hne (by decide)
  have hsingle : c ≠ '\'' := hne (by decide)
  have hback : c ≠ '\x60' := hne (by decide)
  exact ⟨by simp [isQuote, hdouble, hsingle, hback], hne (by decide)⟩

theorem Extra.plain_text {extra : Extra} (hwell : extra.WellFormed)
    (hgap : ∀ q, ∀ c ∈ g q, isQuote c = false ∧ c ≠ '/') :
    ∀ c ∈ extra.text g, isQuote c = false ∧ c ≠ '/' := by
  cases extra with
  | nothing => exact fun c hc => absurd hc List.not_mem_nil
  | namespaced name =>
      simp only [Extra.text, List.forall_mem_append, List.forall_mem_cons]
      exact ⟨hgap _, by decide, hgap _, by decide, hgap _,
        ⟨by decide, by decide, List.forall_mem_nil _⟩, hgap _, plain_of_isIdentifier hwell.1⟩
  | list before after =>
      have hinside : ∀ c ∈ before ++ after, isQuote c = false ∧ c ≠ '/' := fun c hc =>
        ⟨(hwell c hc).1, (hwell c hc).2.1⟩
      rw [List.forall_mem_append] at hinside
      simp only [Extra.text, List.forall_mem_append, List.forall_mem_cons]
      exact ⟨hgap _, by decide, hgap _, by decide, ⟨⟨hinside.1, hgap _⟩, hinside.2⟩, by decide,
        List.forall_mem_nil _⟩

/-- No quote and no comment stands in front of the specifier of a spaced import. -/
theorem Form.plain_clause (hf : f.WellFormed) (hg : f.Spaced g) :
    ∀ c ∈ f.clause g, isQuote c = false ∧ c ≠ '/' := by
  have hgap (q : Gap) := plain_of_blanks (hg.blanks q)
  simp only [Form.clause, List.forall_mem_append]
  exact ⟨hgap _, plain_of_isIdentifier hf.name, Extra.plain_text hf.extra hgap, hgap _⟩

/-- A comment behind `from` is not one of the clause. -/
theorem Form.clause_commented (hp : p = .beforeSpecifier ∨ p = .beforeEnd) :
    f.clause (g.commented p front body back) = f.clause g := by
  have hsame {q : Gap} (hq : q ≠ .beforeSpecifier ∧ q ≠ .beforeEnd) :
      g.commented p front body back q = g q := by
    refine Function.update_of_ne ?_ _ _
    rcases hp with rfl | rfl
    · exact hq.1
    · exact hq.2
  cases hextra : f.extra <;> simp [Form.clause, Extra.text, hextra, hsame]

theorem Form.blank_or_semicolon_of_mem_ending (hg : f.Spaced g) {c : Char} (hc : c ∈ f.ending g) :
    isAsciiBlank c = true ∨ c = ';' := by
  unfold Form.ending at hc
  split at hc
  · exact (List.mem_append.1 hc).imp (hg.blanks _ c) List.mem_singleton.1
  · exact absurd hc List.not_mem_nil

theorem Form.not_mem_ending (hg : f.Spaced g) {c : Char} (hblank : isAsciiBlank c = false)
    (hc : c ≠ ';') : c ∉ f.ending g := by
  intro hmem
  rcases Form.blank_or_semicolon_of_mem_ending hg hmem with h | h
  · rw [hblank] at h
    cases h
  · exact hc h

/-- A comment in front of the specifier hides the import. -/
theorem scan_commented_specifier (hf : f.WellFormed) (hg : f.Spaced g)
    (hgap : g .beforeSpecifier = front ++ back) (hbody : ¬ ['*', '/'] <:+: body) :
    Import.scan (String.ofList (f.text (g.commented .beforeSpecifier front body back))) = [] := by
  have hblanks := hg.blanks .beforeSpecifier
  rw [hgap, List.forall_mem_append] at hblanks
  have hfilled : f.Filled Inert g := hg.filled
  have hending : f.ending (g.commented .beforeSpecifier front body back) = f.ending g := by
    have hne : Gap.beforeEnd ≠ .beforeSpecifier := by decide
    rw [Form.ending, Layout.commented, Function.update_of_ne hne, Form.ending]
  have hunquoted : ∀ c ∈ f.ending g, c ≠ '"' ∧ c ≠ '\'' := by
    intro c hc
    constructor <;>
    · rintro rfl
      exact Form.not_mem_ending hg (by decide) (by decide) hc
  have hnone := importless_of_comment (Form.plain_clause hf hg)
    (Form.passesOver_clause hf hfilled []).closed (Form.startsWord_clause hfilled) hblanks.1 hbody
    hblanks.2 hf.quote hf.specifier.1 hf.specifier.2 hunquoted
  have htext : f.text (g.commented .beforeSpecifier front body back) =
      keyword ++ f.clause g ++ (fromWord ++ front) ++ (blockComment body ++
        (back ++ f.quote :: (f.specifier ++ f.quote :: f.ending g))) := by
    rw [Form.text, Form.body, Form.clause_commented (.inl rfl), hending, Layout.commented,
      Function.update_self]
    simp only [List.append_assoc]
  rw [Import.scan, String.toList_ofList, htext]
  exact hnone none 0 1

/-! ## In front of `from` -/

theorem filled_of_unclosed (hg : f.Spaced g) (hgap : g p = front ++ back)
    (hbody : ¬ ['*', '/'] <:+: body) :
    f.Filled (fun body => ¬ ['*', '/'] <:+: body) (g.commented p front body back) :=
  filled_commented hg hgap hbody

section

variable {lead rest part more : List Char} (hf : f.WellFormed) (hg : f.Spaced g)
  (hgap : g p = front ++ back) (hbody : ¬ ['*', '/'] <:+: body)
  (h : f.Around g p front back lead rest)

include hf hg hgap hbody h

/-- A comment in which the clause ends hides the import. -/
theorem start_ne_zero_of_endsClause {c : Char} (hsplit : body = part ++ c :: more)
    (hpart : GoesOver none p.depth part (c :: more)) (hdepth : braceDepth p.depth part = 0)
    (hc : endsClause c = true) :
    ∀ j ∈ Import.scan (String.ofList (f.text (g.commented p front body back))), j.start ≠ 0 := by
  intro j hj hstart
  obtain ⟨s, rest', hread, -⟩ := exists_read_of_start_eq_zero hj hstart
  obtain ⟨behind, htext⟩ := h.exists_body_part hsplit
  have hgo : GoesOver none 0 (lead ++ '/' :: '*' :: part) (c :: more ++ '*' :: behind) :=
    h.goesOver_part ((GoesOver.append_stop_iff (by decide)).2 hpart)
  have hnone := Form.read?_eq_none_of_endsClause hf (filled_of_unclosed hg hgap hbody) htext hgo
    (by simp) ((h.braceDepth_part part).trans hdepth) hc
  rw [hread] at hnone
  cases hnone

/-- A comment that leaves a brace open hides the import. -/
theorem start_ne_zero_of_open (hp : p.InClause) (hgo : GoesOver none p.depth body [])
    (hdepth : p.depth < braceDepth p.depth body) (hclose : '}' ∉ f.specifier) :
    ∀ j ∈ Import.scan (String.ofList (f.text (g.commented p front body back))), j.start ≠ 0 := by
  intro j hj hstart
  obtain ⟨s, rest', hread, -⟩ := exists_read_of_start_eq_zero hj hstart
  have hspecifier : g.commented p front body back .beforeSpecifier = g .beforeSpecifier :=
    Function.update_of_ne hp.1.symm _ _
  have hending : f.ending (g.commented p front body back) = f.ending g := by
    rw [Form.ending, Layout.commented, Function.update_of_ne hp.2.symm, Form.ending]
  have htail : '}' ∉ fromWord ++ (g .beforeSpecifier ++
      f.quote :: (f.specifier ++ f.quote :: f.ending g)) := by
    have hquote : '}' ≠ f.quote := by
      rcases hf.quote with hq | hq <;> rw [hq] <;> decide
    have hblank : '}' ∉ g .beforeSpecifier := not_mem_of_blanks (by decide) (hg.blanks _)
    have hend : '}' ∉ f.ending g := Form.not_mem_ending hg (by decide) (by decide)
    have hword : '}' ∉ fromWord := by decide
    simp [hword, hblank, hquote, hclose, hend]
  have hpos : 0 < braceDepth (braceDepth p.depth body) rest := by
    have hclosed := h.closed (braceDepth p.depth body - p.depth)
    rw [Nat.sub_add_cancel hdepth.le] at hclosed
    omega
  have htext := h.body_eq body
  rw [hspecifier, hending] at htext
  have hgoes : GoesOver none 0 (f.body (g.commented p front body back)) [] := by
    rw [htext]
    refine (h.goesOver_part ((GoesOver.stop_iff (by decide)).2 hgo)).append ?_
    rw [h.braceDepth_part]
    refine GoesOver.sign_append (.inr rfl) (GoesOver.append ?_ (.of_open hpos htail))
    rw [List.append_nil]
    exact (h.goesOverRest p.depth le_rfl (fun hlt => absurd hlt (lt_irrefl _)) _).mono hdepth.le
  have hslash : '/' ∈ f.body (g.commented p front body back) := by
    rw [htext]
    simp
  rw [Form.read?_eq_none_of_goesOver hf (filled_of_unclosed hg hgap hbody) hgoes hslash] at hread
  cases hread

variable (hsplit : body = part ++ (fromWord ++ more))
  (hpart : GoesOver none p.depth part (fromWord ++ more)) (hdepth : braceDepth p.depth part = 0)
  (hstarts : startsWord part.getLast? = true) (hends : endsWord more = true)

include hsplit hpart hdepth hstarts hends

/-- At a whole word `from` in a comment the clause ends, so the specifier would have to stand behind
it in the comment. -/
theorem exists_quote_of_from {j : Import}
    (hj : j ∈ Import.scan (String.ofList (f.text (g.commented p front body back))))
    (hstart : j.start = 0) :
    ∃ quote, (quote = '"' ∨ quote = '\'') ∧ (more.dropWhile isAsciiBlank).head? = some quote := by
  obtain ⟨s, rest', hread, -⟩ := exists_read_of_start_eq_zero hj hstart
  obtain ⟨behind, htext, hgo, hstarts, hends⟩ := h.exists_body_from hsplit hpart hstarts hends
  obtain ⟨rest', hquoted⟩ := Form.exists_quoted_of_read? hf (filled_of_unclosed hg hgap hbody) htext
    hgo (by simp) ((h.braceDepth_part part).trans hdepth) hstarts hends hread
  exact head?_dropWhile_of_quoted (by decide) (by decide) hquoted

/-- A specifier that stands in a comment behind the word is read. -/
theorem exists_start_eq_zero_of_from {specifier rest' : List Char}
    (hshort : (Utf8.encode (f.clause (g.commented p front body back))).length < clauseLimit)
    (hquoted : Quoted specifier (more.dropWhile isAsciiBlank) rest') :
    ∃ j ∈ Import.scan (String.ofList (f.text (g.commented p front body back))), j.start = 0 ∧
      j.specifier = String.ofList specifier := by
  have hfilled := filled_of_unclosed hg hgap hbody
  obtain ⟨behind, htext, hgo, hstarts, hends⟩ := h.exists_body_from hsplit hpart hstarts hends
  have hpasses : PassesOver none (lead ++ '/' :: '*' :: part)
      (fromWord ++ (more ++ '*' :: behind)) := ⟨(h.braceDepth_part part).trans hdepth, hgo⟩
  have hslash : '/' ∈ lead ++ '/' :: '*' :: part := by simp
  have hclause : f.clause (g.commented p front body back) =
      lead ++ '/' :: '*' :: part ++ (fromWord ++ more ++ (['*', '/'] ++ rest)) := by
    rw [h.split_inside, hsplit]
    simp only [List.append_assoc, List.cons_append]
  have hlength : (Utf8.encode (lead ++ '/' :: '*' :: part)).length < clauseLimit := by
    rw [hclause, Utf8.encode_append, List.length_append] at hshort
    omega
  have htype := Form.takeWhile_clause_ne hf hfilled
  rw [hclause, takeWhile_trimStart_append hslash] at htype
  have hquoted' : Quoted specifier ((more ++ '*' :: behind).dropWhile isAsciiBlank)
      (rest' ++ '*' :: behind) := quoted_dropWhile_append hquoted _
  obtain ⟨j, later, hscan, hstart, hspecifier, -⟩ := Form.exists_scan_of_reads hfilled
    (Form.reads_part hf hfilled htext hpasses hlength (trim_ne_nil_of_slash hslash) htype hstarts
      hends hquoted')
  exact ⟨j, hscan ▸ List.mem_cons_self, hstart, hspecifier⟩

end

/-! ## Where the import is found -/

theorem blanks_commented (hg : f.Spaced g) (hp : p ≠ .beforeSpecifier) :
    ∀ c ∈ g.commented p front body back .beforeSpecifier, isAsciiBlank c = true := by
  rw [Layout.commented, Function.update_of_ne hp.symm]
  exact hg.blanks _

section

variable (hf : f.WellFormed) (hg : f.Spaced g) (hgap : g p = front ++ back)
  (hshort : (Utf8.encode (f.clause (g.commented p front body back))).length < clauseLimit)

include hf hg hgap hshort

theorem scan_commented_end (hp : p = .beforeEnd) (hbody : ¬ ['*', '/'] <:+: body) :
    ∃ j, Import.scan (String.ofList (f.text (g.commented p front body back))) = [j] ∧
      j.specifier = String.ofList f.specifier ∧ j.bindings = f.bindings g := by
  have hfilled : f.Filled Inert g := hg.filled
  have hclause : f.clause (g.commented p front body back) = f.clause g :=
    Form.clause_commented (.inr hp)
  obtain ⟨j, hscan, hspecifier, hbindings⟩ := Form.scan_text hf (filled_of_unclosed hg hgap hbody)
    (fun _ => id) (fun tail => hclause ▸ Form.passesOver_clause hf hfilled tail)
    (blanks_commented hg (hp ▸ by decide)) hshort
  rw [hclause, ofClause_spaced hf hg] at hbindings
  exact ⟨j, hscan, hspecifier, hbindings⟩

/-- With an inert comment the import binds the same exactly in the gaps that keep it. -/
theorem scan_commented_inert (hhas : f.Has p) (hp : p ≠ .beforeSpecifier) (hbody : Inert body)
    (hnames : p = .inList → ((Bindings.namedEntries
      (f.extra.inside (g.commented p front body back))).map Prod.fst).Nodup) :
    ∃ j, Import.scan (String.ofList (f.text (g.commented p front body back))) = [j] ∧
      j.specifier = String.ofList f.specifier ∧ (j.bindings = f.bindings g ↔ f.Keeps front p) := by
  have hcommented := filled_commented hg hgap hbody
  obtain ⟨j, hscan, hspecifier, hbindings⟩ := Form.scan_text hf hcommented
    (fun _ h => h.unclosed) (Form.passesOver_clause hf hcommented) (blanks_commented hg hp) hshort
  refine ⟨j, hscan, hspecifier, ?_⟩
  rw [hbindings, ← ofClause_spaced hf hg]
  exact ofClause_commented_iff hf hg hhas hgap hbody hnames

/-- A comment that the clause goes on over is read as text of the clause. -/
theorem scan_commented_passed {lead rest : List Char} (h : f.Around g p front back lead rest)
    (hp : p.InClause) (hbody : ¬ ['*', '/'] <:+: body) (hgo : GoesOver none p.depth body [])
    (hdepth : braceDepth p.depth body ≤ p.depth)
    (hearly : braceDepth p.depth body < p.depth → GoesOver none 0 f.extra.behindGap []) :
    ∃ j, Import.scan (String.ofList (f.text (g.commented p front body back))) = [j] ∧
      j.specifier = String.ofList f.specifier ∧
      j.bindings = .ofClause (f.clause (g.commented p front body back)) :=
  Form.scan_text hf (filled_of_unclosed hg hgap hbody) (fun _ => id)
    (h.passesOver hgo hdepth hearly) (blanks_commented hg hp.1) hshort

end

/-! ## All comments -/

/-- What becomes of an import `i` whose gap `p` takes a comment. The imports `found` are those of
the script with the comment. -/
structure Form.Commented (f : Form) (g : Layout) (p : Gap) (front body back : List Char)
    (i : Import) (found : List Import) : Prop where
  /-- In front of the specifier every comment hides the import. -/
  beforeSpecifier : p = .beforeSpecifier → found = []
  /-- In front of the `;` no comment changes it. -/
  beforeEnd : p = .beforeEnd →
    ∃ j, found = [j] ∧ j.specifier = i.specifier ∧ j.bindings = i.bindings
  /-- With an inert comment the import is found, and it binds the same in the gaps that keep it. -/
  inert : Inert body → p ≠ .beforeSpecifier → ∃ j, found = [j] ∧ j.specifier = i.specifier ∧
    (j.bindings = i.bindings ↔ f.Keeps front p)
  /-- A comment that the clause goes on over, with no more braces open behind it than in front, is
  read as text of the clause. In a list it changes a name, and next to a list it is cut at its
  commas. Where it closes the list, the names behind it have to be such that the clause goes on. -/
  passed : p.InClause → GoesOver none p.depth body [] → braceDepth p.depth body ≤ p.depth →
    (braceDepth p.depth body < p.depth → GoesOver none 0 f.extra.behindGap []) →
    ∃ j, found = [j] ∧ j.specifier = i.specifier ∧
      j.bindings = .ofClause (f.clause (g.commented p front body back)) ∧
      (p = .inList → j.bindings ≠ i.bindings) ∧
      (f.extra.isList = true → p = .afterComma ∨ p = .beforeFrom →
        (∀ c ∈ body, c ≠ '{' ∧ c ≠ '}') →
        j.bindings = (splitOn ',' (blockComment body)).foldl Bindings.addPart i.bindings)
  /-- A brace left open hides the import, unless the specifier closes it. -/
  opened : p.InClause → GoesOver none p.depth body [] → p.depth < braceDepth p.depth body →
    '}' ∉ f.specifier → ∀ j ∈ found, j.start ≠ 0
  /-- Outside braces a `;`, a quote or a `(` hides the import. -/
  ended : p.InClause → ∀ part c more, body = part ++ c :: more →
    GoesOver none p.depth part (c :: more) → braceDepth p.depth part = 0 →
    c ∈ [';', '"', '\'', '\x60', '('] → ∀ j ∈ found, j.start ≠ 0
  /-- At a whole word `from` outside braces the clause ends. So the import is hidden, or the
  specifier is one that stands in the comment. -/
  cut : p.InClause → ∀ part more, body = part ++ (fromWord ++ more) →
    GoesOver none p.depth part (fromWord ++ more) → braceDepth p.depth part = 0 →
    startsWord part.getLast? = true → endsWord more = true →
    ((∀ c ∈ (more.dropWhile isAsciiBlank).head?, c ≠ '"' ∧ c ≠ '\'') →
      ∀ j ∈ found, j.start ≠ 0) ∧
    ∀ specifier rest, Quoted specifier (more.dropWhile isAsciiBlank) rest →
      ∃ j ∈ found, j.start = 0 ∧ j.specifier = String.ofList specifier

/-- What each comment does to an import, gap by gap. -/
theorem scan_commented (hf : f.WellFormed) (hg : f.Spaced g) (hhas : f.Has p)
    (hgap : g p = front ++ back) (hbody : ¬ ['*', '/'] <:+: body)
    (hshort : (Utf8.encode (f.clause (g.commented p front body back))).length < clauseLimit)
    (hnames : p = .inList → ((Bindings.namedEntries
      (f.extra.inside (g.commented p front body back))).map Prod.fst).Nodup) :
    ∃ i, Import.scan (String.ofList (f.text g)) = [i] ∧
      i.specifier = String.ofList f.specifier ∧ i.bindings = f.bindings g ∧
      f.Commented g p front body back i
        (Import.scan (String.ofList (f.text (g.commented p front body back)))) := by
  have hfilled : f.Filled Inert g := hg.filled
  have hsublist : (f.clause g).Sublist (f.clause (g.commented p front body back)) :=
    Form.clause_sublist (sublist_commented hgap)
  have hlength := length_encode_le_of_sublist hsublist
  obtain ⟨i, hscan, hspecifier, hbindings⟩ := Form.scan_text hf hfilled (fun _ h => h.unclosed)
    (Form.passesOver_clause hf hfilled) (hg.blanks .beforeSpecifier)
    (Nat.lt_of_le_of_lt hlength hshort)
  rw [ofClause_spaced hf hg] at hbindings
  refine ⟨i, hscan, hspecifier, hbindings, ?_⟩
  constructor
  case beforeSpecifier =>
      rintro rfl
      exact scan_commented_specifier hf hg hgap hbody
  case beforeEnd =>
      intro hp
      rw [hspecifier, hbindings]
      exact scan_commented_end hf hg hgap hshort hp hbody
  case inert =>
      intro hinert hp
      rw [hspecifier, hbindings]
      exact scan_commented_inert hf hg hgap hshort hhas hp hinert hnames
  case passed =>
      intro hp hgo hdepth hearly
      obtain ⟨lead, rest, h⟩ := Form.exists_around hf hg hhas hp hgap
      obtain ⟨j, hj, hj', hclause⟩ :=
        scan_commented_passed hf hg hgap hshort h hp hbody hgo hdepth hearly
      refine ⟨j, hj, hj'.trans hspecifier.symm, hclause, ?_, fun hlist hpart hbraces => ?_⟩
      · rintro rfl
        rw [hclause, hbindings]
        exact ofClause_commented_inList_ne hf hg hhas (hnames rfl)
      · rw [hclause, hbindings]
        exact ofClause_commented_parts hf hg hlist hpart hgap hbraces
  case opened =>
      intro hp hgo hdepth hclose
      obtain ⟨lead, rest, h⟩ := Form.exists_around hf hg hhas hp hgap
      exact start_ne_zero_of_open hf hg hgap hbody h hp hgo hdepth hclose
  case ended =>
      intro hp part c more hsplit hpart hdepth hc
      obtain ⟨lead, rest, h⟩ := Form.exists_around hf hg hhas hp hgap
      exact start_ne_zero_of_endsClause hf hg hgap hbody h hsplit hpart hdepth
        (endsClause_eq_true_iff.2 hc)
  case cut =>
      intro hp part more hsplit hpart hdepth hstarts hends
      obtain ⟨lead, rest, h⟩ := Form.exists_around hf hg hhas hp hgap
      constructor
      · intro hunquoted j hj hstart
        obtain ⟨quote, hquote, hhead⟩ :=
          exists_quote_of_from hf hg hgap hbody h hsplit hpart hdepth hstarts hends hj hstart
        have hne := hunquoted quote hhead
        exact hquote.elim hne.1 hne.2
      · intro specifier rest' hquoted
        exact exists_start_eq_zero_of_from hf hg hgap hbody h hsplit hpart hdepth hstarts hends
          hshort hquoted

/-- In front of `from` a comment leaves the import with its specifier or hides it, unless it holds
a word `from` with a quote behind it. -/
theorem Form.Commented.found_or_hidden {i : Import} {found : List Import}
    (h : f.Commented g p front body back i found) (hp : p.InClause)
    (hnames : GoesOver none 0 f.extra.behindGap []) (hclose : '}' ∉ f.specifier) :
    (∃ j, found = [j] ∧ j.specifier = i.specifier) ∨ (∀ j ∈ found, j.start ≠ 0) ∨
      ∃ part more quote, body = part ++ (fromWord ++ more) ∧ (quote = '"' ∨ quote = '\'') ∧
        (more.dropWhile isAsciiBlank).head? = some quote := by
  rcases GoesOver.exists_stop none p.depth body with
    hgo | ⟨part, rest, hsplit, hpart, hdepth, hstop⟩
  · rcases Nat.lt_or_ge p.depth (braceDepth p.depth body) with hopen | hdepth
    · exact .inr (.inl (h.opened hp hgo hopen hclose))
    · obtain ⟨j, hj, hspecifier, -⟩ := h.passed hp hgo hdepth fun _ => hnames
      exact .inl ⟨j, hj, hspecifier⟩
  · rcases hstop with ⟨c, more, rfl, hc⟩ | ⟨more, rfl, hstarts, hends⟩
    · exact .inr (.inl (h.ended hp part c more hsplit hpart hdepth (endsClause_eq_true_iff.1 hc)))
    · rw [Option.or_none] at hstarts
      obtain ⟨hhidden, -⟩ := h.cut hp part more hsplit hpart hdepth hstarts hends
      by_cases hquote : ∀ c ∈ (more.dropWhile isAsciiBlank).head?, c ≠ '"' ∧ c ≠ '\''
      · exact .inr (.inl (hhidden hquote))
      · push Not at hquote
        obtain ⟨quote, hhead, hquote⟩ := hquote
        refine .inr (.inr ⟨part, more, quote, hsplit, ?_, hhead⟩)
        exact or_iff_not_imp_left.2 hquote

end

-- The middle one of three parts is a name, and the outer two are none.
example : (Import.scan "import a, /* b, e, c */{d} from 'x'").map (·.bindings.default) =
    [some "e"] := by
  decide +kernel

example : (Import.scan "import a, /* b, c */{d} from 'x'").map (·.bindings.default) =
    [some "a"] := by
  decide +kernel

/-- One blank wherever a blank is usual. -/
def singleSpaced : Layout
  | .afterName | .beforeEnd => []
  | _ => [' ']

theorem spaced_singleSpaced (f : Form) : f.Spaced singleSpaced where
  blanks p := by cases p <;> exact List.all_iff_forall_prop.1 (by decide)
  afterKeyword := by decide
  afterAs _ := by decide
  beforeFrom _ := by decide

/-- The form of `import a, {b, d} from 'x'`. -/
def listForm : Form where
  name := ['a']
  extra := .list ['b', ','] ['d']
  specifier := ['x']
  quote := '\''
  closed := false

theorem wellFormed_listForm : listForm.WellFormed where
  name := by decide
  ne_from := by decide
  ne_type := by decide
  extra := show ∀ c ∈ ['b', ',', 'd'], isQuote c = false ∧ c ≠ '/' ∧ c ≠ '{' ∧ c ≠ '}' from
    List.all_iff_forall_prop.1 (by decide)
  quote := by decide
  specifier := by decide

/-- A comment behind the comma keeps what the import binds, and one in the list does not. With an
apostrophe a comment hides the import, and with a word `from` it brings its own specifier. -/
theorem scan_commented_listForm :
    ∃ i, Import.scan "import a, {b, d} from 'x'" = [i] ∧
      (∃ j, Import.scan "import a, /* c */{b, d} from 'x'" = [j] ∧
        j.specifier = i.specifier ∧ j.bindings = i.bindings) ∧
      (∃ j, Import.scan "import a, {b, /* c */d} from 'x'" = [j] ∧
        j.specifier = i.specifier ∧ j.bindings ≠ i.bindings) ∧
      (∀ j ∈ Import.scan "import a, /* it's */{b, d} from 'x'", j.start ≠ 0) ∧
      ∃ j ∈ Import.scan "import a, /* from 'y' */{b, d} from 'x'",
        j.start = 0 ∧ j.specifier = "y" := by
  have hinert : Inert [' ', 'c', ' '] := .of_not_mem (by decide) (by decide)
    (List.all_iff_forall_prop.1 (by decide))
  have hspaced := spaced_singleSpaced listForm
  have hhasComma : listForm.Has .afterComma := Extra.noConfusion
  have hhasList : listForm.Has .inList := rfl
  have hafterComma : singleSpaced .afterComma = [' '] ++ [] := rfl
  have hinList : singleSpaced .inList = [' '] ++ [] := rfl
  have hinClause : Gap.InClause .afterComma := ⟨by decide, by decide⟩
  have hquoteBody : ¬ ['*', '/'] <:+: [' ', 'i', 't', '\'', 's', ' '] := by decide
  have hfromBody : ¬ ['*', '/'] <:+: [' '] ++ (fromWord ++ [' ', '\'', 'y', '\'', ' ']) := by
    decide
  have htext : String.ofList (listForm.text singleSpaced) = "import a, {b, d} from 'x'" := by
    decide +kernel
  have hcomma : String.ofList (listForm.text
      (singleSpaced.commented .afterComma [' '] [' ', 'c', ' '] [])) =
      "import a, /* c */{b, d} from 'x'" := by decide +kernel
  have hinside : String.ofList (listForm.text
      (singleSpaced.commented .inList [' '] [' ', 'c', ' '] [])) =
      "import a, {b, /* c */d} from 'x'" := by decide +kernel
  have hquote : String.ofList (listForm.text
      (singleSpaced.commented .afterComma [' '] [' ', 'i', 't', '\'', 's', ' '] [])) =
      "import a, /* it's */{b, d} from 'x'" := by decide +kernel
  have hfrom : String.ofList (listForm.text
      (singleSpaced.commented .afterComma [' ']
        ([' '] ++ (fromWord ++ [' ', '\'', 'y', '\'', ' '])) [])) =
      "import a, /* from 'y' */{b, d} from 'x'" := by decide +kernel
  obtain ⟨i, hi, -, -, hkept⟩ := scan_commented wellFormed_listForm hspaced hhasComma
    hafterComma hinert.unclosed (by decide +kernel) Gap.noConfusion
  obtain ⟨i', hi', -, -, hchanged⟩ := scan_commented wellFormed_listForm hspaced hhasList
    hinList hinert.unclosed (by decide +kernel) (by decide +kernel)
  obtain ⟨_, -, -, -, hhidden⟩ := scan_commented wellFormed_listForm hspaced hhasComma
    hafterComma hquoteBody (by decide +kernel) Gap.noConfusion
  obtain ⟨_, -, -, -, hcut⟩ := scan_commented wellFormed_listForm hspaced hhasComma
    hafterComma hfromBody (by decide +kernel) Gap.noConfusion
  obtain rfl : i = i' := List.singleton_inj.1 (hi.symm.trans hi')
  obtain ⟨j, hj, hspecifier, hbindings⟩ := hkept.inert hinert (by decide)
  obtain ⟨j', hj', hspecifier', hbindings'⟩ := hchanged.inert hinert (by decide)
  rw [hcomma] at hj
  rw [hinside] at hj'
  rw [hquote] at hhidden
  rw [hfrom] at hcut
  refine ⟨i, htext ▸ hi, ⟨j, hj, hspecifier, hbindings.2 rfl⟩,
    ⟨j', hj', hspecifier', hbindings'.1⟩, ?_, ?_⟩
  · refine hhidden.ended hinClause [' ', 'i', 't'] '\'' ['s', ' '] rfl ?_ rfl (by decide)
    exact .of_plain (List.all_iff_forall_prop.1 (by decide))
  · refine (hcut.cut hinClause [' '] [' ', '\'', 'y', '\'', ' '] rfl ?_ rfl (by decide)
      (by decide)).2 ['y'] [' '] ⟨'\'', .inr rfl, rfl, by decide, by decide⟩
    exact .of_plain (List.all_iff_forall_prop.1 (by decide))

/-- The form of `import a from 'x'`. -/
def defaultForm : Form where
  name := ['a']
  extra := .nothing
  specifier := ['x']
  quote := '\''
  closed := false

theorem wellFormed_defaultForm : defaultForm.WellFormed where
  name := by decide
  ne_from := by decide
  ne_type := by decide
  extra := trivial
  quote := by decide
  specifier := by decide

/-- Not every comment without a line feed leaves an import as it is: one in front of the specifier
hides it. -/
theorem not_forall_commented_same :
    ¬ ∀ (f : Form) (g : Layout) (p : Gap) (front body back : List Char), f.WellFormed →
      f.Spaced g → f.Has p → g p = front ++ back → ¬ ['*', '/'] <:+: body → '\n' ∉ body →
      ∃ i j, Import.scan (String.ofList (f.text g)) = [i] ∧
        Import.scan (String.ofList (f.text (g.commented p front body back))) = [j] ∧
        j.specifier = i.specifier ∧ j.bindings = i.bindings := by
  intro h
  obtain ⟨i, j, -, hscan, -⟩ := h defaultForm singleSpaced .beforeSpecifier [' '] [' ', 'c', ' '] []
    wellFormed_defaultForm (spaced_singleSpaced _) trivial rfl (by decide) (by decide)
  have htext : String.ofList (defaultForm.text
      (singleSpaced.commented .beforeSpecifier [' '] [' ', 'c', ' '] [])) =
      "import a from /* c */'x'" := by decide +kernel
  have hnone : Import.scan "import a from /* c */'x'" = [] := by decide +kernel
  rw [htext, hnone] at hscan
  cases hscan

end ScopedStyles.Import
