import ScopedStyles.Proofs.Import.Fillers
import ScopedStyles.Proofs.Import.Spans
/-!
# Texts without imports

An import needs a quoted specifier right behind its keyword or its `from`. So no import is found in
a text without quotes, nor in one in which a comment stands between `from` and the specifier.
-/

namespace ScopedStyles.Lexeme

open Text Statement

/-- Whatever stands in front of the text, no import is found in it. -/
def Importless (cs : List Char) : Prop :=
  ∀ before offset line, imports offset line (scan before cs) = []

/-! ## Texts without quotes -/

/-- A statement holds the quotes of its specifier. -/
theorem exists_quote_mem_of_read? {after rest : List Char} {s : Statement}
    (h : read? after = some (s, rest)) :
    ∃ quote, (quote = '"' ∨ quote = '\'') ∧ quote ∈ s.text := by
  obtain ⟨lead, quote, ending, htext, -, hquote, -⟩ := Import.written_of_read? h
  exact ⟨quote, hquote, by simp [htext]⟩

theorem importless_of_unquoted {cs : List Char} (h : ∀ c ∈ cs, c ≠ '"' ∧ c ≠ '\'') :
    Importless cs := by
  intro before offset line
  refine List.eq_nil_iff_forall_not_mem.2 fun i hi => ?_
  obtain ⟨front, s, back, hscan, -⟩ := mem_imports_iff.1 hi
  obtain ⟨c, rest, -, hnext, -⟩ := scan_split hscan
  obtain ⟨after, -, -, -, hread⟩ := next_eq_statement hnext
  obtain ⟨quote, hquote, hmem⟩ := exists_quote_mem_of_read? hread
  have htext := flatMap_text_scan before cs
  rw [hscan] at htext
  have hmem : quote ∈ cs := by
    rw [← htext]
    simp [text, hmem]
  have hne := h quote hmem
  exact hquote.elim hne.1 hne.2

/-! ## Texts that put something in front -/

theorem Importless.of_scan {cs rest : List Char} {lexeme : Lexeme}
    (hscan : ∀ before, ∃ last, scan before cs = lexeme :: scan last rest)
    (hlexeme : ∀ s, lexeme ≠ statement s) (h : Importless rest) : Importless cs := by
  intro before offset line
  obtain ⟨last, hscan⟩ := hscan before
  rw [hscan]
  cases lexeme with
  | statement s => exact absurd rfl (hlexeme s)
  | comment _ | literal _ | other _ => exact h _ _ _

theorem Importless.blockComment {rest : List Char} (h : Importless rest) {body : List Char}
    (hbody : ¬ ['*', '/'] <:+: body) : Importless (blockComment body ++ rest) := by
  have hscan (before : Option Char) : scan before (Statement.blockComment body ++ rest) =
      comment (Statement.blockComment body) :: scan none rest := by
    simpa [Statement.blockComment] using scan_blockComment before hbody rest
  exact Importless.of_scan (fun before => ⟨none, hscan before⟩) (fun s => by simp) h

/-- A keyword at the start of a text stands in front of every character that is not in it. -/
theorem exists_behind_keyword {before : Option Char} {cs more after : List Char} {stop : Char}
    (hstop : stop ∉ keyword) (h : wholeWord? keyword before (cs ++ stop :: more) = some after) :
    ∃ behind, cs = keyword ++ behind ∧ after = behind ++ stop :: more := by
  have htext := wholeWord?_eq_some h
  obtain ⟨behind, hbehind⟩ := prefix_of_prefix_append_cons hstop ⟨after, htext.symm⟩
  refine ⟨behind, hbehind.symm, ?_⟩
  rw [← hbehind, List.append_assoc] at htext
  exact (List.append_cancel_left htext).symm

/-- Text without quotes and comments, if no statement is read behind a keyword in it. -/
theorem Importless.append {front more : List Char} {stop : Char}
    (hplain : ∀ c ∈ front, isQuote c = false ∧ c ≠ '/') (hstop : stop ∉ keyword)
    (hread : ∀ before after, front = before ++ keyword ++ after →
      read? (after ++ stop :: more) = none)
    (h : Importless (stop :: more)) : Importless (front ++ stop :: more) := by
  -- One character of the front is read, or all of a keyword.
  induction hn : front.length using Nat.strong_induction_on generalizing front with
  | _ n ih =>
      cases front with
      | nil => exact h
      | cons c cs =>
          obtain ⟨hquote, hslash⟩ := hplain c List.mem_cons_self
          rw [List.length_cons] at hn
          intro before offset line
          cases hword : wholeWord? keyword before (c :: (cs ++ stop :: more)) with
          | none =>
              have hnext : next before c (cs ++ stop :: more) = (other [c], cs ++ stop :: more) :=
                next_other hslash (Bool.eq_false_iff.1 hquote) hword
              rw [List.cons_append, scan_cons_of_next hnext]
              refine ih cs.length (by omega) (fun d hd => hplain d (List.mem_cons_of_mem c hd))
                (fun front after hcs => hread (c :: front) after ?_) rfl _ _ _
              rw [hcs]
              rfl
          | some after =>
              rw [← List.cons_append] at hword
              obtain ⟨behind, hfront, rfl⟩ := exists_behind_keyword hstop hword
              have hnext : next before c (cs ++ stop :: more) =
                  (other keyword, behind ++ stop :: more) := by
                rw [next_of_word (not_and_of_not_left _ hslash) (not_and_of_not_left _ hslash)
                  (Bool.eq_false_iff.1 hquote), ← List.cons_append, hword]
                simp only [hread [] behind hfront]
              have hlength := congrArg List.length hfront
              have hkeyword : keyword.length = 6 := rfl
              rw [List.length_append, List.length_cons] at hlength
              rw [List.cons_append, scan_cons_of_next hnext]
              refine ih behind.length (by omega) (fun d hd => hplain d ?_)
                (fun front after hbehind => hread (keyword ++ front) after ?_) rfl _ _ _
              · rw [hfront]
                exact List.mem_append_right _ hd
              · rw [hfront, hbehind]
                simp

/-- A literal ends where its text does, or further back. -/
theorem untilLiteralEnd_suffix {quote : Char} (hquote : quote ≠ '\\') (ending : List Char) :
    ∀ inside, quote ∉ inside → '\n' ∉ inside →
      (untilLiteralEnd quote (inside ++ quote :: ending)).2 <:+ ending
  | [], _, _ => by
    have hend : (untilLiteralEnd quote (quote :: ending)).2 = ending := by
      rw [untilLiteralEnd_cons hquote, if_pos rfl]
    exact ⟨[], hend⟩
  | c :: inside, hnot, hline => by
    by_cases hescape : c = '\\'
    · subst hescape
      cases inside with
      | nil =>
          rw [List.singleton_append, untilLiteralEnd]
          exact ⟨_, untilLiteralEnd_append quote ending⟩
      | cons d inside =>
          rw [List.cons_append, List.cons_append, untilLiteralEnd]
          exact untilLiteralEnd_suffix hquote ending inside (by simp_all) (by simp_all)
    · have hne : c ≠ quote := (List.ne_of_not_mem_cons hnot).symm
      have hfeed : c ≠ '\n' := (List.ne_of_not_mem_cons hline).symm
      rw [List.cons_append, untilLiteralEnd_cons hescape, if_neg hne, if_neg (by simp [hfeed])]
      exact untilLiteralEnd_suffix hquote ending inside (List.not_mem_of_not_mem_cons hnot)
        (List.not_mem_of_not_mem_cons hline)

theorem importless_literal {quote : Char} (hquote : isQuote quote = true)
    {inside ending : List Char} (hnot : quote ∉ inside) (hline : '\n' ∉ inside)
    (hending : ∀ c ∈ ending, c ≠ '"' ∧ c ≠ '\'') :
    Importless (quote :: (inside ++ quote :: ending)) := by
  have hsuffix := untilLiteralEnd_suffix (ne_of_isQuote hquote (by decide)) ending inside hnot hline
  refine Importless.of_scan (fun before => ⟨_, scan_cons_of_next (next_literal before hquote _)⟩)
    (fun s => by simp) (importless_of_unquoted fun c hc => hending c (hsuffix.subset hc))

/-! ## A comment in front of the specifier -/

theorem not_mem_of_blanks {c : Char} (hc : isAsciiBlank c = false) {gap : List Char}
    (hgap : ∀ d ∈ gap, isAsciiBlank d = true) : c ∉ gap := by
  intro hmem
  rw [hgap c hmem] at hc
  cases hc

theorem plain_of_blanks {gap : List Char} (hgap : ∀ c ∈ gap, isAsciiBlank c = true) :
    ∀ c ∈ gap, isQuote c = false ∧ c ≠ '/' := fun c hc =>
  of_isAsciiBlank (P := fun c => isQuote c = false ∧ c ≠ '/') (by decide) (by decide)
    (by decide) (by decide) (by decide) (hgap c hc)

theorem Importless.blanks {gap rest : List Char} (hgap : ∀ c ∈ gap, isAsciiBlank c = true)
    (h : Importless rest) : Importless (gap ++ rest) := by
  induction gap with
  | nil => exact h
  | cons c gap ih =>
      obtain ⟨hquote, hslash⟩ := plain_of_blanks hgap c List.mem_cons_self
      have hword : c ≠ 'i' := by
        rintro rfl
        exact absurd (hgap 'i' List.mem_cons_self) (by decide)
      have hnext (before : Option Char) :
          next before c (gap ++ rest) = (other [c], gap ++ rest) :=
        next_other hslash (Bool.eq_false_iff.1 hquote) (wholeWord?_cons_eq_none hword _ _ _)
      refine Importless.of_scan (fun before => ⟨_, scan_cons_of_next (hnext before)⟩)
        (fun s => by simp) ?_
      exact ih fun d hd => hgap d (List.mem_cons_of_mem c hd)

theorem startsWord_of_suffix {cs ds : List Char} (h : ds <:+ cs)
    (hcs : startsWord cs.getLast? = true) : startsWord ds.getLast? = true := by
  by_cases hnil : ds = []
  · rw [hnil]
    rfl
  · obtain ⟨front, rfl⟩ := h
    rwa [List.getLast?_append_of_ne_nil _ hnil] at hcs

/-- The specifier behind blanks stands in front of every character that is no blank and no quote. -/
theorem head?_dropWhile_of_quoted {front more inside rest : List Char} {stop : Char}
    (hblank : isAsciiBlank stop = false) (hstop : isQuote stop = false)
    (h : Quoted inside ((front ++ stop :: more).dropWhile isAsciiBlank) rest) :
    ∃ quote, (quote = '"' ∨ quote = '\'') ∧
      (front.dropWhile isAsciiBlank).head? = some quote := by
  obtain ⟨quote, hquote, htext, -⟩ := h
  refine ⟨quote, hquote, ?_⟩
  rw [List.dropWhile_append] at htext
  split at htext
  · rw [List.dropWhile_cons_of_neg (by simp [hblank])] at htext
    obtain ⟨rfl, -⟩ := List.cons.inj htext
    rw [isQuote_iff.2 (hquote.imp_right .inl)] at hstop
    cases hstop
  · next hne =>
      have hne : front.dropWhile isAsciiBlank ≠ [] := by simpa using hne
      rw [← List.head?_append_of_ne_nil _ hne, htext, List.head?_cons]

/-- A specifier behind blanks is one in front of every text. -/
theorem quoted_dropWhile_append {text inside rest : List Char}
    (h : Quoted inside (text.dropWhile isAsciiBlank) rest) (behind : List Char) :
    Quoted inside ((text ++ behind).dropWhile isAsciiBlank) (rest ++ behind) := by
  obtain ⟨quote, hquote, htext, hinside⟩ := h
  refine ⟨quote, hquote, ?_, hinside⟩
  rw [List.dropWhile_append, htext]
  simp

theorem not_quoted_of_slash {front more inside rest : List Char}
    (hfront : ∀ c ∈ front, isQuote c = false) :
    ¬ Quoted inside ((front ++ '/' :: more).dropWhile isAsciiBlank) rest := by
  intro h
  obtain ⟨quote, hquote, hhead⟩ := head?_dropWhile_of_quoted (by decide) (by decide) h
  have hmem : quote ∈ front := (List.dropWhile_suffix _).subset (List.mem_of_head? hhead)
  have hisQuote : isQuote quote = true := isQuote_iff.2 (hquote.imp_right .inl)
  rw [hfront quote hmem] at hisQuote
  cases hisQuote

/-- Nothing is read if a slash stands behind `from`. A `from` further in front would need a
specifier that is not there either. -/
theorem not_reads_of_slash {lead gap more specifier tail : List Char} {clause : Option (List Char)}
    (hlead : ∀ c ∈ lead, isQuote c = false) (hclosed : braceDepth 0 lead = 0)
    (hstarts : startsWord lead.getLast? = true) (hgap : ∀ c ∈ gap, isAsciiBlank c = true) :
    ¬ Reads (lead ++ (fromWord ++ (gap ++ '/' :: more))) specifier clause tail := by
  intro h
  have hfront : ∀ c ∈ lead ++ (fromWord ++ gap), isQuote c = false := by
    simp only [List.forall_mem_append]
    exact ⟨hlead, List.all_iff_forall_prop.1 (by decide),
      fun c hc => (plain_of_blanks hgap c hc).1⟩
  generalize hbody : lead ++ (fromWord ++ (gap ++ '/' :: more)) = body at h
  cases h with
  | bare quoted =>
      obtain ⟨quote, hquote, rfl, -⟩ := quoted
      have hisQuote : isQuote quote = true := isQuote_iff.2 (hquote.imp_right .inl)
      have hmem : quote ∈ lead ++ (fromWord ++ gap) := by
        cases lead with
        | nil => exact absurd (List.cons.inj hbody).1 (ne_of_isQuote hisQuote (by decide)).symm
        | cons c lead => exact (List.cons.inj hbody).1 ▸ List.mem_cons_self
      rw [hfront quote hmem] at hisQuote
      cases hisQuote
  | @bound _ inside behind _ starts runs nonempty binds quoted =>
      have hends : endsWord (gap ++ '/' :: more) = true :=
        (Filler.blanks (P := Inert) hgap).endsWord_append rfl
      rw [List.append_assoc] at hbody
      obtain ⟨mid, hmid, hword⟩ :=
        runs.exists_append_of_from hclosed (by rwa [Option.or_none]) hends hbody
      have hsplit : fromWord ++ behind = mid ++ (fromWord ++ gap) ++ '/' :: more := by
        rw [hword]
        simp only [List.append_assoc]
      rcases List.append_eq_append_iff.1 hsplit with ⟨front, hsecond, rfl⟩ | ⟨front, hfirst, hrest⟩
      · refine not_quoted_of_slash (fun c hc => hfront c ?_) quoted
        have hmem : c ∈ mid ++ (fromWord ++ gap) := hsecond ▸ List.mem_append_right _ hc
        rw [hmid, List.append_assoc]
        exact List.mem_append_right _ hmem
      · cases front with
        | nil =>
            obtain rfl : '/' :: more = behind := hrest
            rw [← List.nil_append ('/' :: more)] at quoted
            exact not_quoted_of_slash (List.forall_mem_nil _) quoted
        | cons c front =>
            obtain rfl : '/' = c := (List.cons.inj hrest).1
            have hmem : '/' ∈ fromWord := hfirst ▸ by simp
            exact absurd hmem (by decide)

theorem read?_eq_none_of_slash {clause gap : List Char} (hclause : ∀ c ∈ clause, isQuote c = false)
    (hclosed : braceDepth 0 clause = 0) (hstarts : startsWord clause.getLast? = true)
    (hgap : ∀ c ∈ gap, isAsciiBlank c = true) (more : List Char) :
    read? (clause ++ (fromWord ++ (gap ++ '/' :: more))) = none := by
  refine Option.eq_none_iff_forall_ne_some.2 fun ⟨s, rest⟩ hread => ?_
  obtain ⟨tail, hreads, -⟩ := read?_eq_some_iff.1 hread
  have hbody : (clause ++ (fromWord ++ (gap ++ '/' :: more))).dropWhile isAsciiBlank =
      clause.dropWhile isAsciiBlank ++ (fromWord ++ (gap ++ '/' :: more)) := by
    rw [List.dropWhile_append]
    split
    · next hnil =>
        rw [List.isEmpty_iff.1 hnil]
        rfl
    · rfl
  have hsuffix : clause.dropWhile isAsciiBlank <:+ clause := List.dropWhile_suffix _
  rw [hbody] at hreads
  exact not_reads_of_slash (fun c hc => hclause c (hsuffix.subset hc))
    (braceDepth_eq_zero_of_suffix hsuffix hclosed) (startsWord_of_suffix hsuffix hstarts) hgap
    hreads

/-- A comment among blanks is not passed over in front of a `;`. -/
theorem afterSemicolon_comment {front : List Char} (hfront : ∀ c ∈ front, isAsciiBlank c = true)
    (more : List Char) : afterSemicolon (front ++ '/' :: more) = front ++ '/' :: more := by
  obtain ⟨ending, hsplit, hnil | ⟨gap, hending, hgap⟩⟩ :=
    Import.exists_ending (front ++ '/' :: more)
  · rw [hnil, List.nil_append] at hsplit
    exact hsplit.symm
  · have hgap : ∀ c ∈ gap, isAsciiBlank c = true := fun c hc => by
      rcases hgap c hc with rfl | rfl <;> rfl
    rw [hending, List.append_assoc] at hsplit
    have hdrop := congrArg (List.dropWhile isAsciiBlank) hsplit
    rw [List.dropWhile_append_of_pos hfront, List.dropWhile_append_of_pos hgap,
      List.singleton_append, List.dropWhile_cons_of_neg (by decide),
      List.dropWhile_cons_of_neg (by decide)] at hdrop
    exact absurd (List.cons.inj hdrop).1 (by decide)

/-- A keyword in front of `from` and blanks stands in front of the end of a clause. -/
theorem exists_suffix_behind_keyword {clause tail before after : List Char} (htail : 't' ∉ tail)
    (h : keyword ++ clause ++ tail = before ++ keyword ++ after) :
    ∃ mid, mid <:+ clause ∧ after = mid ++ tail := by
  rcases List.append_eq_append_iff.1 h with ⟨mid, hsplit, hmid⟩ | ⟨mid, hsplit, hafter⟩
  · rcases List.eq_nil_or_concat mid with rfl | ⟨mid, c, rfl⟩
    · exact ⟨[], List.nil_suffix, hmid.symm⟩
    · have hlast : before ++ ['i', 'm', 'p', 'o', 'r'] ++ ['t'] =
          keyword ++ clause ++ mid ++ [c] := by
        simpa [keyword] using hsplit
      obtain rfl : 't' = c := List.singleton_inj.1 (List.append_inj' hlast rfl).2
      exact absurd (by simp [hmid]) htail
  · refine ⟨mid, ?_, hafter⟩
    have hlength := congrArg List.length hsplit
    rw [List.length_append, List.length_append, List.length_append] at hlength
    exact List.suffix_of_suffix_length_le ⟨before ++ keyword, hsplit.symm⟩
      (List.suffix_append keyword clause) (by omega)

/-- No import is found where a comment stands between `from` and the specifier. -/
theorem importless_of_comment {clause front body gap inside ending : List Char} {quote : Char}
    (hplain : ∀ c ∈ clause, isQuote c = false ∧ c ≠ '/') (hclosed : braceDepth 0 clause = 0)
    (hstarts : startsWord clause.getLast? = true) (hfront : ∀ c ∈ front, isAsciiBlank c = true)
    (hbody : ¬ ['*', '/'] <:+: body) (hgap : ∀ c ∈ gap, isAsciiBlank c = true)
    (hquote : quote = '"' ∨ quote = '\'') (hnot : quote ∉ inside) (hline : '\n' ∉ inside)
    (hending : ∀ c ∈ ending, c ≠ '"' ∧ c ≠ '\'') :
    Importless (keyword ++ clause ++ (fromWord ++ front) ++
      (blockComment body ++ (gap ++ quote :: (inside ++ quote :: ending)))) := by
  have hisQuote : isQuote quote = true := isQuote_iff.2 (hquote.imp_right .inl)
  have hliteral := importless_literal hisQuote hnot hline hending
  have hfrom : ∀ c ∈ fromWord ++ front, isQuote c = false ∧ c ≠ '/' :=
    List.forall_mem_append.2 ⟨List.all_iff_forall_prop.1 (by decide), plain_of_blanks hfront⟩
  have hlead : ∀ c ∈ keyword ++ clause ++ (fromWord ++ front), isQuote c = false ∧ c ≠ '/' :=
    List.forall_mem_append.2
      ⟨List.forall_mem_append.2 ⟨List.all_iff_forall_prop.1 (by decide), hplain⟩, hfrom⟩
  refine Importless.append hlead (by decide) (fun before after h => ?_)
    ((hliteral.blanks hgap).blockComment hbody)
  have hletter : 't' ∉ fromWord ++ front :=
    List.not_mem_append (by decide) (not_mem_of_blanks (by decide) hfront)
  obtain ⟨mid, hsuffix, rfl⟩ := exists_suffix_behind_keyword hletter h
  rw [List.append_assoc, List.append_assoc]
  exact read?_eq_none_of_slash (fun c hc => (hplain c (hsuffix.subset hc)).1)
    (braceDepth_eq_zero_of_suffix hsuffix hclosed) (startsWord_of_suffix hsuffix hstarts) hfront _

end ScopedStyles.Lexeme
