import ScopedStyles.Proofs.Import.Clauses
import ScopedStyles.Proofs.Import.Pieces
/-!
# Between the tokens of an import

A clause goes on over names, blanks, braces and inert comments, in whatever order they stand. A
comment is inert if nothing in it is of the syntax of an import: no separator, brace, quote or
parenthesis, and no word `from`.
-/

namespace ScopedStyles.Statement

open Text Lexeme

/-! ## Braces -/

theorem braceDepth_append (depth : Nat) (cs ds : List Char) :
    braceDepth depth (cs ++ ds) = braceDepth (braceDepth depth cs) ds :=
  List.foldl_append

theorem braceDepth_of_braceless {cs : List Char} (h : ∀ c ∈ cs, c ≠ '{' ∧ c ≠ '}')
    (depth : Nat) : braceDepth depth cs = depth := by
  induction cs with
  | nil => rfl
  | cons c cs ih =>
      obtain ⟨hopen, hclose⟩ := h c List.mem_cons_self
      rw [braceDepth, List.foldl_cons, if_neg hopen, if_neg hclose]
      exact ih fun d hd => h d (List.mem_cons_of_mem c hd)

theorem braceDepth_mono {depth depth' : Nat} (h : depth ≤ depth') (cs : List Char) :
    braceDepth depth cs ≤ braceDepth depth' cs := by
  induction cs generalizing depth depth' with
  | nil => exact h
  | cons c cs ih =>
      rw [braceDepth, braceDepth, List.foldl_cons, List.foldl_cons]
      refine ih ?_
      split
      · omega
      · split <;> omega

theorem le_braceDepth {cs : List Char} (h : '}' ∉ cs) (depth : Nat) :
    depth ≤ braceDepth depth cs := by
  induction cs generalizing depth with
  | nil => exact Nat.le_refl depth
  | cons c cs ih =>
      have hclose : c ≠ '}' := (List.ne_of_not_mem_cons h).symm
      have hcs := List.not_mem_of_not_mem_cons h
      rw [braceDepth, List.foldl_cons, if_neg hclose]
      refine Nat.le_trans ?_ (ih hcs _)
      split <;> omega

/-- A text that leaves no brace open has no end that leaves one open. -/
theorem braceDepth_eq_zero_of_suffix {cs ds : List Char} (h : ds <:+ cs)
    (hclosed : braceDepth 0 cs = 0) : braceDepth 0 ds = 0 := by
  obtain ⟨front, rfl⟩ := h
  rw [braceDepth_append] at hclosed
  have hmono := braceDepth_mono (Nat.zero_le (braceDepth 0 front)) ds
  omega

/-! ## What a clause goes on over -/

theorem takeWhile_word {word rest : List Char} (hword : ∀ c ∈ word, isIdentifierChar c = true)
    (hrest : endsWord rest = true) : (word ++ rest).takeWhile isIdentifierChar = word := by
  rw [List.takeWhile_append_of_pos hword]
  cases rest with
  | nil => rw [List.takeWhile_nil, List.append_nil]
  | cons c cs =>
      have hc : ¬ isIdentifierChar c = true := by simpa [endsWord] using hrest
      rw [List.takeWhile_cons_of_neg hc, List.append_nil]

theorem wholeWord?_of_not_startsWord {before : Option Char} (h : startsWord before = false)
    (word cs : List Char) : wholeWord? word before cs = none := by
  apply Option.eq_none_iff_forall_ne_some.2
  intro after hafter
  obtain ⟨-, hstarts, -⟩ := wholeWord?_eq_some_iff.1 hafter
  rw [h] at hstarts
  cases hstarts

theorem wholeWord?_of_ne {word other rest : List Char}
    (hword : ∀ c ∈ word, isIdentifierChar c = true)
    (hother : ∀ c ∈ other, isIdentifierChar c = true) (hne : other ≠ word)
    (hrest : endsWord rest = true) (before : Option Char) :
    wholeWord? word before (other ++ rest) = none := by
  apply Option.eq_none_iff_forall_ne_some.2
  intro after hafter
  obtain ⟨htext, -, hend⟩ := wholeWord?_eq_some_iff.1 hafter
  have htake := takeWhile_word hother hrest
  rw [htext, takeWhile_word hword hend] at htake
  exact hne htake.symm

theorem GoesOn.congr {before before' : Option Char} {depth : Nat} {c : Char} {cs : List Char}
    (hbefore : startsWord before = startsWord before') (h : GoesOn before depth c cs) :
    GoesOn before' depth c cs := by
  rwa [GoesOn, ← wholeWord?_congr hbefore]

/-- A clause with `depth` open braces goes on over all of `cs`, which stands behind `before` and in
front of `tail`. -/
def GoesOver (before : Option Char) (depth : Nat) (cs tail : List Char) : Prop :=
  ∀ front c back, cs = front ++ c :: back →
    GoesOn (front.getLast?.or before) (braceDepth depth front) c (back ++ tail)

namespace GoesOver

variable {before before' : Option Char} {depth : Nat} {cs ds tail : List Char}

theorem nil : GoesOver before depth [] tail := fun front c back h => absurd h (by simp)

theorem append (h : GoesOver before depth cs (ds ++ tail))
    (h' : GoesOver (cs.getLast?.or before) (braceDepth depth cs) ds tail) :
    GoesOver before depth (cs ++ ds) tail := by
  intro front c back heq
  rcases List.append_eq_append_iff.1 heq with ⟨mid, rfl, hds⟩ | ⟨mid, hcs, hback⟩
  · have hgo := h' mid c back hds
    rw [braceDepth_append, List.getLast?_append, Option.or_assoc]
    exact hgo
  · cases mid with
    | nil =>
        rw [List.append_nil] at hcs
        have hgo := h' [] c back hback.symm
        rw [← hcs]
        exact hgo
    | cons d mid =>
        obtain ⟨rfl, hrest⟩ := List.cons.inj hback
        obtain rfl : back = mid ++ ds := hrest
        rw [List.append_assoc]
        exact h front c mid hcs

theorem cons {c : Char} (h : GoesOn before depth c (cs ++ tail))
    (h' : GoesOver (some c) (braceDepth depth [c]) cs tail) :
    GoesOver before depth (c :: cs) tail := by
  have hfirst : GoesOver before depth [c] (cs ++ tail) := by
    intro front d back heq
    cases front with
    | nil =>
        obtain ⟨rfl, rfl⟩ := List.cons.inj heq
        exact h
    | cons e front => simp at heq
  exact hfirst.append h'

theorem of_append_left (h : GoesOver before depth (cs ++ ds) tail) :
    GoesOver before depth cs (ds ++ tail) := by
  intro front c back heq
  have hsplit : cs ++ ds = front ++ c :: (back ++ ds) := by
    rw [heq, List.append_assoc, List.cons_append]
  have hgo := h front c (back ++ ds) hsplit
  rwa [List.append_assoc] at hgo

theorem of_append_right (h : GoesOver before depth (cs ++ ds) tail) :
    GoesOver (cs.getLast?.or before) (braceDepth depth cs) ds tail := by
  intro front c back heq
  have hgo := h (cs ++ front) c back (by rw [heq, List.append_assoc])
  rwa [braceDepth_append, List.getLast?_append, Option.or_assoc] at hgo

theorem congr (hbefore : startsWord before = startsWord before')
    (h : GoesOver before depth cs tail) : GoesOver before' depth cs tail := by
  intro front c back heq
  have hgo := h front c back heq
  cases hlast : front.getLast? with
  | some d => rwa [hlast] at hgo
  | none =>
      rw [hlast] at hgo
      exact hgo.congr hbefore

/-- More open braces leave fewer places to stop at. -/
theorem mono {depth' : Nat} (hle : depth ≤ depth') (h : GoesOver before depth cs tail) :
    GoesOver before depth' cs tail := by
  intro front c back heq hzero
  have hmono := braceDepth_mono hle front
  exact h front c back heq (by omega)

/-- Between braces a clause goes on over everything. -/
theorem of_open (hdepth : 0 < depth) (hcs : '}' ∉ cs) : GoesOver before depth cs tail := by
  intro front c back heq hzero
  have hfront : '}' ∉ front := fun hmem => hcs (heq ▸ List.mem_append_left _ hmem)
  have hle := le_braceDepth hfront depth
  omega

/-- Characters that end no clause and start no `from`. -/
theorem of_plain (h : ∀ c ∈ cs, endsClause c = false ∧ c ≠ 'f') :
    GoesOver before depth cs tail := by
  intro front c back heq _ _ _
  obtain ⟨hends, hfrom⟩ := h c (heq ▸ List.mem_append_right _ List.mem_cons_self)
  exact ⟨hends, wholeWord?_cons_eq_none hfrom _ _ _⟩

/-- Whether a clause goes on depends on nothing behind a character that is in no word. -/
theorem append_stop_iff {stop : Char} (hstop : isIdentifierChar stop = false) {rest : List Char} :
    GoesOver before depth cs (tail ++ stop :: rest) ↔ GoesOver before depth cs tail := by
  have hword : stop ∉ fromWord := by
    intro hmem
    have hfrom : ∀ c ∈ fromWord, isIdentifierChar c = true :=
      List.all_iff_forall_prop.1 (by decide)
    rw [hfrom stop hmem] at hstop
    cases hstop
  constructor
  · intro h front c back heq hdepth hopen hclose
    obtain ⟨hends, hnone⟩ := h front c back heq hdepth hopen hclose
    refine ⟨hends, Option.eq_none_iff_forall_ne_some.2 fun after hafter => ?_⟩
    obtain ⟨hsplit, hstarts, hend⟩ := wholeWord?_eq_some_iff.1 hafter
    have hend' : endsWord (after ++ stop :: rest) = true := by
      cases after with
      | nil => simp [endsWord, hstop]
      | cons d after => exact hend
    rw [← List.append_assoc, ← List.cons_append, hsplit, List.append_assoc,
      wholeWord?_eq_some_iff.2 ⟨rfl, hstarts, hend'⟩] at hnone
    cases hnone
  · intro h front c back heq hdepth hopen hclose
    obtain ⟨hends, hnone⟩ := h front c back heq hdepth hopen hclose
    have hgo := wholeWord?_append_cons hword hnone rest
    rw [List.cons_append, List.append_assoc] at hgo
    exact ⟨hends, hgo⟩

theorem stop_iff {stop : Char} (hstop : isIdentifierChar stop = false) :
    GoesOver before depth cs (stop :: tail) ↔ GoesOver before depth cs [] := by
  rw [← List.nil_append (stop :: tail)]
  exact append_stop_iff hstop

/-- A clause goes on over a text, or it stops outside braces: at a character that ends it or at a
whole word `from`. -/
theorem exists_stop (before : Option Char) (depth : Nat) (cs : List Char) :
    GoesOver before depth cs [] ∨
      ∃ part rest, cs = part ++ rest ∧ GoesOver before depth part rest ∧
        braceDepth depth part = 0 ∧
        ((∃ c more, rest = c :: more ∧ endsClause c = true) ∨
          ∃ more, rest = fromWord ++ more ∧ startsWord (part.getLast?.or before) = true ∧
            endsWord more = true) := by
  induction cs generalizing before depth with
  | nil => exact .inl .nil
  | cons c cs ih =>
      by_cases hgo : GoesOn before depth c cs
      · rcases ih (some c) (braceDepth depth [c]) with h | ⟨part, rest, rfl, h, hdepth, hstop⟩
        · exact .inl (.cons (by rwa [List.append_nil]) h)
        · refine .inr ⟨c :: part, rest, rfl, .cons hgo h, hdepth, ?_⟩
          rwa [getLast?_cons_or]
      · simp only [GoesOn, Classical.not_imp, not_and] at hgo
        obtain ⟨hdepth, -, -, hgo⟩ := hgo
        refine .inr ⟨[], c :: cs, rfl, .nil, hdepth, ?_⟩
        cases hends : endsClause c with
        | true => exact .inl ⟨c, cs, rfl, hends⟩
        | false =>
            obtain ⟨more, hword⟩ := Option.ne_none_iff_exists'.1 (hgo hends)
            exact .inr ⟨more, wholeWord?_eq_some_iff.1 hword⟩

/-- A clause goes on over the signs in which a comment starts and ends. -/
theorem sign_append {sign rest : List Char} (hsign : sign = ['/', '*'] ∨ sign = ['*', '/'])
    (h : GoesOver none depth rest tail) : GoesOver before depth (sign ++ rest) tail := by
  obtain ⟨hplain, hdepth, hstarts⟩ : (∀ c ∈ sign, endsClause c = false ∧ c ≠ 'f') ∧
      braceDepth depth sign = depth ∧ startsWord none = startsWord (sign.getLast?.or before) := by
    rcases hsign with rfl | rfl <;>
      exact ⟨List.all_iff_forall_prop.1 (by decide), rfl, rfl⟩
  refine GoesOver.append (.of_plain hplain) ?_
  rw [hdepth]
  exact h.congr hstarts

end GoesOver

/-- A clause with no brace open goes on over all of `cs` in front of `tail`, and none is open
behind it. -/
structure PassesOver (before : Option Char) (cs tail : List Char) : Prop where
  closed : braceDepth 0 cs = 0
  goesOver : GoesOver before 0 cs tail

namespace PassesOver

variable {before : Option Char} {cs ds tail : List Char}

theorem nil : PassesOver before [] tail where
  closed := rfl
  goesOver := .nil

theorem append (h : PassesOver before cs (ds ++ tail))
    (h' : PassesOver (cs.getLast?.or before) ds tail) : PassesOver before (cs ++ ds) tail where
  closed := by rw [braceDepth_append, h.closed, h'.closed]
  goesOver := h.goesOver.append (h.closed.symm ▸ h'.goesOver)

/-- Characters that end no clause and start no `from`. -/
theorem of_plain (h : ∀ c ∈ cs, endsClause c = false ∧ c ≠ 'f' ∧ c ≠ '{' ∧ c ≠ '}') :
    PassesOver before cs tail where
  closed := braceDepth_of_braceless (fun c hc => (h c hc).2.2) 0
  goesOver := .of_plain fun c hc => ⟨(h c hc).1, (h c hc).2.1⟩

theorem cons {c : Char} (hc : endsClause c = false ∧ c ≠ 'f' ∧ c ≠ '{' ∧ c ≠ '}')
    (h : PassesOver (some c) cs tail) : PassesOver before (c :: cs) tail := by
  have hsingle : PassesOver before [c] (cs ++ tail) := .of_plain (by simpa using hc)
  exact hsingle.append h

/-- A word other than `from`. -/
theorem of_word (hword : ∀ c ∈ cs, isIdentifierChar c = true) (hne : cs ≠ fromWord)
    (htail : endsWord tail = true) : PassesOver before cs tail := by
  have hplain : ∀ c ∈ cs, endsClause c = false ∧ c ≠ '{' ∧ c ≠ '}' := by
    intro c hc
    have hc := hword c hc
    refine ⟨Bool.eq_false_iff.2 fun hends => ?_, ?_, ?_⟩
    · simp only [endsClause, Bool.or_eq_true, beq_iff_eq] at hends
      rcases hends with (((rfl | rfl) | rfl) | rfl) | rfl <;> exact absurd hc (by decide)
    · rintro rfl
      exact absurd hc (by decide)
    · rintro rfl
      exact absurd hc (by decide)
  refine ⟨braceDepth_of_braceless (fun c hc => (hplain c hc).2) 0, ?_⟩
  intro front c back heq _ _ _
  have hc : c ∈ cs := heq ▸ List.mem_append_right _ List.mem_cons_self
  refine ⟨(hplain c hc).1, ?_⟩
  -- Behind a character of the word no other word starts, so it would be the word itself.
  cases hlast : front.getLast? with
  | some d =>
      have hd := hword d (heq ▸ List.mem_append_left _ (List.mem_of_getLast? hlast))
      have hinside : startsWord (some d) = false := by simp [startsWord, hd]
      exact wholeWord?_of_not_startsWord hinside _ _
  | none =>
      obtain rfl := List.getLast?_eq_none_iff.1 hlast
      obtain rfl : cs = c :: back := heq
      have hfrom : ∀ e ∈ fromWord, isIdentifierChar e = true :=
        List.all_iff_forall_prop.1 (by decide)
      exact wholeWord?_of_ne hfrom hword hne htail before

/-- What stands between two braces, if it holds no other braces. -/
theorem braces (h : ∀ c ∈ cs, c ≠ '{' ∧ c ≠ '}') :
    PassesOver before ('{' :: (cs ++ ['}'])) tail where
  closed := by
    rw [← List.cons_append, braceDepth_append, braceDepth, List.foldl_cons]
    exact congrArg (braceDepth · ['}']) (braceDepth_of_braceless h 1)
  goesOver front c back heq := by
    cases front with
    | nil =>
        intro _ hopen
        exact absurd (List.cons.inj heq).1.symm hopen
    | cons d front =>
        obtain ⟨rfl, hinside⟩ := List.cons.inj heq
        have hfront : ∀ e ∈ front, e ≠ '{' ∧ e ≠ '}' := by
          intro e he
          rcases List.append_eq_append_iff.1 hinside with ⟨mid, rfl, hmid⟩ | ⟨mid, hcs, -⟩
          · cases mid with
            | nil => exact h e (by simpa using he)
            | cons d mid => simp at hmid
          · exact h e (hcs ▸ List.mem_append_left _ he)
        intro hdepth
        rw [braceDepth, List.foldl_cons] at hdepth
        exact absurd ((braceDepth_of_braceless hfront 1).symm.trans hdepth) (by decide)

end PassesOver

/-- A clause runs to the `from` behind what it goes on over. -/
theorem PassesOver.runsTo {clause rest : List Char} (h : PassesOver none clause (fromWord ++ rest))
    (hshort : (Utf8.encode clause).length < clauseLimit)
    (hbefore : startsWord clause.getLast? = true) (hrest : endsWord rest = true) :
    RunsTo none 0 0 clause rest where
  short := by rwa [Nat.zero_add]
  closed := h.closed
  word := by
    rw [Option.or_none]
    exact wholeWord?_eq_some_iff.2 ⟨rfl, hbefore, hrest⟩
  goesOn front c back heq := by
    rw [List.append_assoc]
    exact h.goesOver front c back heq

theorem RunsTo.goesOver {before : Option Char} {depth used : Nat} {clause rest : List Char}
    (h : RunsTo before depth used clause rest) :
    GoesOver before depth clause (fromWord ++ rest) := by
  intro front c back heq
  rw [← List.append_assoc]
  exact h.goesOn front c back heq

/-- A clause ends no earlier than it stops going on. -/
theorem RunsTo.exists_append_of_goesOver {before : Option Char} {depth used : Nat}
    {clause rest lead tail : List Char} (h : RunsTo before depth used clause rest)
    (hlead : GoesOver before depth lead tail)
    (htext : lead ++ tail = clause ++ (fromWord ++ rest)) :
    ∃ more, clause = lead ++ more ∧ tail = more ++ (fromWord ++ rest) := by
  rcases List.append_eq_append_iff.1 htext with hmore | ⟨mid, hsplit, hword⟩
  · exact hmore
  · cases mid with
    | nil => exact ⟨[], by rw [hsplit, List.append_nil, List.append_nil], hword.symm⟩
    | cons c mid =>
        -- The `f` of the word would stand among what the clause goes on over.
        obtain rfl : 'f' = c := (List.cons.inj hword).1
        have hnone := (hlead clause 'f' mid hsplit h.closed (by decide) (by decide)).2
        rw [← List.cons_append, ← hword, h.word] at hnone
        cases hnone

/-- A clause ends no later than at a whole word `from` outside braces. -/
theorem RunsTo.exists_append_of_from {before : Option Char} {depth used : Nat}
    {clause rest lead tail : List Char} (h : RunsTo before depth used clause rest)
    (hclosed : braceDepth depth lead = 0) (hstarts : startsWord (lead.getLast?.or before) = true)
    (hends : endsWord tail = true)
    (htext : lead ++ (fromWord ++ tail) = clause ++ (fromWord ++ rest)) :
    ∃ more, lead = clause ++ more ∧ fromWord ++ rest = more ++ (fromWord ++ tail) := by
  rcases List.append_eq_append_iff.1 htext with ⟨mid, hsplit, hword⟩ | hmore
  · cases mid with
    | nil => exact ⟨[], by rw [hsplit, List.append_nil, List.append_nil], hword.symm⟩
    | cons c mid =>
        obtain rfl : 'f' = c := (List.cons.inj hword).1
        have hnone := (h.goesOver lead 'f' mid hsplit hclosed (by decide) (by decide)).2
        rw [← List.cons_append, ← hword, wholeWord?_eq_some_iff.2 ⟨rfl, hstarts, hends⟩] at hnone
        cases hnone
  · exact hmore

/-! ## Comments -/

/-- The inside of a comment that holds nothing of the syntax of an import. -/
structure Inert (body : List Char) : Prop where
  unclosed : ¬ ['*', '/'] <:+: body
  plain : ∀ c ∈ body, c ∉ [',', '{', '}', ';', '"', '\'', '\x60', '(']
  wordless : ∀ front back, body = front ++ back → wholeWord? fromWord front.getLast? back = none

theorem Inert.of_not_mem {body : List Char} (hslash : '/' ∉ body) (hfrom : 'f' ∉ body)
    (hplain : ∀ c ∈ body, c ∉ [',', '{', '}', ';', '"', '\'', '\x60', '(']) : Inert body where
  unclosed h := hslash (h.subset (by decide))
  plain := hplain
  wordless front back h := by
    cases back with
    | nil => rfl
    | cons c cs =>
        have hc : c ≠ 'f' := by
          rintro rfl
          exact hfrom (h ▸ List.mem_append_right _ List.mem_cons_self)
        exact wholeWord?_cons_eq_none hc _ _ _

/-- A comment between `/*` and `*/`. -/
def blockComment (body : List Char) : List Char :=
  '/' :: '*' :: (body ++ ['*', '/'])

theorem passesOver_blockComment {body : List Char} (hbody : Inert body) (before : Option Char)
    (tail : List Char) : PassesOver before (blockComment body) tail := by
  have hclose : PassesOver (body.getLast?.or (some '*')) ['*', '/'] tail :=
    .of_plain (List.all_iff_forall_prop.1 (by decide))
  refine .cons (by decide) (.cons (by decide) (PassesOver.append ⟨?_, ?_⟩ hclose))
  · refine braceDepth_of_braceless (fun c hc => ?_) 0
    have hc := hbody.plain c hc
    simp only [List.mem_cons, not_or] at hc
    exact ⟨hc.2.1, hc.2.2.1⟩
  · intro front c back heq _ _ _
    have hc := hbody.plain c (heq ▸ List.mem_append_right _ List.mem_cons_self)
    simp only [List.mem_cons, List.not_mem_nil, or_false, not_or] at hc
    refine ⟨by simp [endsClause, hc], ?_⟩
    have hword := hbody.wordless front (c :: back) heq
    have hstar : '*' ∉ fromWord := by decide
    have hgo := wholeWord?_append_cons hstar hword ('/' :: tail)
    have hbefore : startsWord front.getLast? = startsWord (front.getLast?.or (some '*')) := by
      cases front.getLast? <;> rfl
    rw [wholeWord?_congr hbefore] at hgo
    exact hgo

/-! ## Fillers -/

theorem of_isAsciiBlank {P : Char → Prop} (hspace : P ' ') (htab : P '\t') (hfeed : P '\n')
    (hpage : P '\x0c') (hreturn : P '\r') {c : Char} (h : isAsciiBlank c = true) : P c := by
  simp only [isAsciiBlank, Bool.or_eq_true, beq_iff_eq] at h
  rcases h with (((rfl | rfl) | rfl) | rfl) | rfl <;> assumption

theorem passesOver_blanks {gap : List Char} (hgap : ∀ c ∈ gap, isAsciiBlank c = true)
    (before : Option Char) (tail : List Char) : PassesOver before gap tail :=
  .of_plain fun c hc => of_isAsciiBlank
    (P := fun c => endsClause c = false ∧ c ≠ 'f' ∧ c ≠ '{' ∧ c ≠ '}')
    (by decide) (by decide) (by decide) (by decide) (by decide) (hgap c hc)

theorem braceDepth_blanks {gap : List Char} (hgap : ∀ c ∈ gap, isAsciiBlank c = true)
    (depth : Nat) : braceDepth depth gap = depth :=
  braceDepth_of_braceless (fun c hc => of_isAsciiBlank (P := fun c => c ≠ '{' ∧ c ≠ '}')
    (by decide) (by decide) (by decide) (by decide) (by decide) (hgap c hc)) depth

/-- What stands between two tokens: blanks, or among blanks a comment with an inside of some
kind. -/
inductive Filler (P : List Char → Prop) : List Char → Prop where
  | blanks {gap : List Char} (hgap : ∀ c ∈ gap, isAsciiBlank c = true) : Filler P gap
  | comment {front body back : List Char} (hfront : ∀ c ∈ front, isAsciiBlank c = true)
      (hbody : P body) (hback : ∀ c ∈ back, isAsciiBlank c = true) :
      Filler P (front ++ (blockComment body ++ back))

namespace Filler

variable {P : List Char → Prop} {gap : List Char}

theorem passesOver (h : Filler Inert gap) (before : Option Char) (tail : List Char) :
    PassesOver before gap tail := by
  cases h with
  | blanks hgap => exact passesOver_blanks hgap before tail
  | comment hfront hbody hback =>
      exact (passesOver_blanks hfront _ _).append
        ((passesOver_blockComment hbody _ _).append (passesOver_blanks hback _ _))

/-- A filler starts with a blank or the slash of a comment. -/
theorem head_of_ne_nil (h : Filler P gap) (hne : gap ≠ []) (rest : List Char) :
    ∃ c, (gap ++ rest).head? = some c ∧ (isAsciiBlank c = true ∨ c = '/') := by
  cases h with
  | blanks hgap =>
      obtain ⟨c, cs, rfl⟩ := List.exists_cons_of_ne_nil hne
      exact ⟨c, rfl, .inl (hgap c List.mem_cons_self)⟩
  | @comment front body back hfront hbody hback =>
      cases front with
      | nil => exact ⟨'/', rfl, .inr rfl⟩
      | cons c front => exact ⟨c, rfl, .inl (hfront c List.mem_cons_self)⟩

/-- A filler ends with a blank or the slash of a comment. -/
theorem getLast?_of_ne_nil (h : Filler P gap) (hne : gap ≠ []) :
    ∃ c, gap.getLast? = some c ∧ (isAsciiBlank c = true ∨ c = '/') := by
  obtain ⟨c, hc⟩ := Option.ne_none_iff_exists'.1 (mt List.getLast?_eq_none_iff.1 hne)
  refine ⟨c, hc, ?_⟩
  cases h with
  | blanks hgap => exact .inl (hgap c (List.mem_of_getLast? hc))
  | @comment front body back hfront hbody hback =>
      rcases List.eq_nil_or_concat back with rfl | ⟨back, d, rfl⟩
      · have hlast : front ++ (blockComment body ++ []) =
            front ++ '/' :: '*' :: (body ++ ['*']) ++ ['/'] := by simp [blockComment]
        rw [hlast, List.getLast?_concat] at hc
        exact .inr (Option.some.inj hc).symm
      · rw [List.concat_eq_append, ← List.append_assoc, ← List.append_assoc,
          List.getLast?_concat] at hc
        exact .inl (Option.some.inj hc ▸ hback d (by simp))

theorem endsWord_append_of_ne_nil (h : Filler P gap) (hne : gap ≠ []) (rest : List Char) :
    endsWord (gap ++ rest) = true := by
  obtain ⟨c, hhead, hc⟩ := h.head_of_ne_nil hne rest
  rw [endsWord, hhead]
  rcases hc with hc | rfl
  · exact of_isAsciiBlank (P := fun c => (some c).all (fun c => !isIdentifierChar c) = true)
      rfl rfl rfl rfl rfl hc
  · rfl

theorem endsWord_append (h : Filler P gap) {rest : List Char} (hrest : endsWord rest = true) :
    endsWord (gap ++ rest) = true := by
  by_cases hne : gap = []
  · rwa [hne, List.nil_append]
  · exact h.endsWord_append_of_ne_nil hne rest

theorem startsWord_of_ne_nil (h : Filler P gap) (hne : gap ≠ []) (before : Option Char) :
    startsWord (gap.getLast?.or before) = true := by
  obtain ⟨c, hlast, hc⟩ := h.getLast?_of_ne_nil hne
  rw [hlast]
  rcases hc with hc | rfl
  · exact of_isAsciiBlank (P := fun c => startsWord (some c) = true) rfl rfl rfl rfl rfl hc
  · rfl

theorem startsWord_or (h : Filler P gap) {before : Option Char}
    (hbefore : startsWord before = true) :
    startsWord (gap.getLast?.or before) = true := by
  by_cases hne : gap = []
  · rwa [hne]
  · exact h.startsWord_of_ne_nil hne before

/-- A filler holds nothing of the syntax of an import. -/
theorem not_mem (h : Filler Inert gap) {c : Char}
    (hc : c ∈ [',', '{', '}', ';', '"', '\'', '\x60', '(']) : c ∉ gap := by
  have hblank : isAsciiBlank c = false := by
    simp only [List.mem_cons, List.not_mem_nil, or_false] at hc
    rcases hc with rfl | rfl | rfl | rfl | rfl | rfl | rfl | rfl <;> rfl
  have hblanks {gap : List Char} (hgap : ∀ c ∈ gap, isAsciiBlank c = true) : c ∉ gap := by
    intro hmem
    rw [hgap c hmem] at hblank
    cases hblank
  cases h with
  | blanks hgap => exact hblanks hgap
  | @comment front body back hfront hbody hback =>
      have hslash : c ≠ '/' := by
        rintro rfl
        exact absurd hc (by decide)
      have hstar : c ≠ '*' := by
        rintro rfl
        exact absurd hc (by decide)
      simp only [blockComment, List.mem_append, List.mem_cons, List.not_mem_nil, or_false, not_or]
      exact ⟨hblanks hfront, ⟨hslash, hstar, fun hmem => hbody.plain c hmem hc, hstar, hslash⟩,
        hblanks hback⟩

theorem blanks_of_not_mem (h : Filler P gap) (hslash : '/' ∉ gap) :
    ∀ c ∈ gap, isAsciiBlank c = true := by
  cases h with
  | blanks hgap => exact hgap
  | comment => exact absurd (by simp [blockComment]) hslash

/-- Behind the blanks in front of a comment stands the comment. -/
theorem dropWhile_append_of_mem (h : Filler P gap) (hmem : '/' ∈ gap) {p : Char → Bool}
    (hp : ∀ c, isAsciiBlank c = true → p c = true) (hslash : p '/' = false) (rest : List Char) :
    ∃ behind, (gap ++ rest).dropWhile p = '/' :: behind := by
  cases h with
  | blanks hgap => exact absurd (hgap '/' hmem) (by decide)
  | @comment front body back hfront hbody hback =>
      refine ⟨'*' :: (body ++ ['*', '/']) ++ back ++ rest, ?_⟩
      rw [List.append_assoc, List.dropWhile_append_of_pos fun c hc => hp c (hfront c hc)]
      simp [blockComment, hslash]

theorem dropWhile_append (h : Filler P gap) {p : Char → Bool}
    (hp : ∀ c, isAsciiBlank c = true → p c = true) (hslash : p '/' = false) (rest : List Char) :
    (gap ++ rest).dropWhile p = rest.dropWhile p ∨
      ∃ behind, (gap ++ rest).dropWhile p = '/' :: behind := by
  by_cases hmem : '/' ∈ gap
  · exact .inr (h.dropWhile_append_of_mem hmem hp hslash rest)
  · exact .inl (List.dropWhile_append_of_pos fun c hc => hp c (h.blanks_of_not_mem hmem c hc))

end Filler

/-! ## The blanks in front of a clause -/

section

variable {cs tail : List Char}

theorem braceDepth_dropWhile (cs : List Char) (depth : Nat) :
    braceDepth depth (cs.dropWhile isAsciiBlank) = braceDepth depth cs := by
  have hlead : ∀ c ∈ cs.takeWhile isAsciiBlank, isAsciiBlank c = true :=
    fun _ => List.mem_takeWhile_imp
  have happend := braceDepth_append depth (cs.takeWhile isAsciiBlank) (cs.dropWhile isAsciiBlank)
  rw [List.takeWhile_append_dropWhile, braceDepth_blanks hlead] at happend
  exact happend.symm

theorem GoesOver.dropWhile (h : GoesOver none 0 cs tail) :
    GoesOver none 0 (cs.dropWhile isAsciiBlank) tail := by
  have hlead : ∀ c ∈ cs.takeWhile isAsciiBlank, isAsciiBlank c = true :=
    fun _ => List.mem_takeWhile_imp
  rw [← List.takeWhile_append_dropWhile (p := isAsciiBlank) (l := cs)] at h
  have hdrop := h.of_append_right
  rw [braceDepth_blanks hlead] at hdrop
  exact hdrop.congr ((Filler.blanks (P := Inert) hlead).startsWord_or rfl)

theorem PassesOver.dropWhile (h : PassesOver none cs tail) :
    PassesOver none (cs.dropWhile isAsciiBlank) tail where
  closed := (braceDepth_dropWhile cs 0).trans h.closed
  goesOver := h.goesOver.dropWhile

end

end ScopedStyles.Statement
