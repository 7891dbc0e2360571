import ScopedStyles.Import.Statement
import ScopedStyles.Text.Utf8
/-!
# The grammar of import statements

`Quoted`, `RunsTo` and `Reads` say which texts the readers of a statement accept, without following
them character by character: a quoted text, a clause up to its `from`, and what stands behind the
keyword. Each reader is shown to accept exactly these texts.
-/

namespace ScopedStyles.Statement

open Text

/-! ## Leads of texts -/

theorem dropLead?_eq_some_iff {lead cs rest : List Char} :
    dropLead? lead cs = some rest ↔ cs = lead ++ rest := by
  constructor
  · exact dropLead?_eq_some
  · rintro rfl
    rw [dropLead?, if_pos (List.isPrefixOf_iff_prefix.2 (List.prefix_append lead rest)),
      List.drop_left]

/-- Whether a word can start behind a character. -/
def startsWord (before : Option Char) : Bool :=
  before.all fun c => !isIdentifierChar c && c != '.'

/-- Whether a word can end in front of a text. -/
def endsWord (rest : List Char) : Bool :=
  rest.head?.all fun c => !isIdentifierChar c

theorem endsWord_of_append {front back : List Char} (h : endsWord (front ++ back) = true) :
    endsWord front = true := by
  cases front with
  | nil => rfl
  | cons c cs => exact h

theorem wholeWord?_eq_some_iff {word text rest : List Char} {before : Option Char} :
    wholeWord? word before text = some rest ↔
      text = word ++ rest ∧ startsWord before = true ∧ endsWord rest = true := by
  rw [wholeWord?, Option.filter_eq_some_iff, dropLead?_eq_some_iff, Bool.and_eq_true]
  rfl

theorem wholeWord?_cons_eq_none {first c : Char} (hc : c ≠ first) (word : List Char)
    (before : Option Char) (cs : List Char) :
    wholeWord? (first :: word) before (c :: cs) = none := by
  have hlead : ¬ (first :: word).isPrefixOf (c :: cs) = true := by simp [Ne.symm hc]
  rw [wholeWord?, dropLead?, if_neg hlead]
  rfl

/-! ## Quoted texts -/

/-- `text` is `inside` between two equal quotes on one line, and `rest`. -/
def Quoted (inside text rest : List Char) : Prop :=
  ∃ quote, (quote = '"' ∨ quote = '\'') ∧ text = quote :: (inside ++ quote :: rest) ∧
    quote ∉ inside ∧ '\n' ∉ inside

theorem untilQuote?_eq_some_iff {quote : Char} {text inside rest : List Char} :
    untilQuote? quote text = some (inside, rest) ↔
      text = inside ++ quote :: rest ∧ quote ∉ inside ∧ '\n' ∉ inside := by
  induction text generalizing inside with
  | nil => simp [untilQuote?]
  | cons c cs ih =>
      simp only [untilQuote?]
      by_cases hc : c = quote
      · rw [if_pos hc, Option.some.injEq, Prod.mk.injEq]
        constructor
        · rintro ⟨rfl, rfl⟩
          exact ⟨by rw [hc, List.nil_append], List.not_mem_nil, List.not_mem_nil⟩
        · rintro ⟨htext, hnot, -⟩
          cases inside with
          | nil => exact ⟨rfl, (List.cons.inj htext).2⟩
          | cons d ds =>
              have hd : d = quote := (List.cons.inj htext).1.symm.trans hc
              exact absurd (hd ▸ List.mem_cons_self) hnot
      · rw [if_neg hc]
        by_cases hline : c = '\n'
        · rw [if_pos hline]
          refine iff_of_false (by simp) ?_
          rintro ⟨htext, -, hnot⟩
          cases inside with
          | nil => exact hc (List.cons.inj htext).1
          | cons d ds => exact hnot (hline ▸ (List.cons.inj htext).1 ▸ List.mem_cons_self)
        · rw [if_neg hline, Option.map_eq_some_iff]
          constructor
          · rintro ⟨⟨inside', rest'⟩, h, heq⟩
            obtain ⟨rfl, rfl⟩ := Prod.mk.inj heq
            obtain ⟨rfl, hq, hn⟩ := ih.1 h
            refine ⟨rfl, ?_, ?_⟩
            · exact List.not_mem_cons_of_ne_of_not_mem (Ne.symm hc) hq
            · exact List.not_mem_cons_of_ne_of_not_mem (Ne.symm hline) hn
          · rintro ⟨htext, hq, hn⟩
            cases inside with
            | nil => exact absurd (List.cons.inj htext).1 hc
            | cons d ds =>
                obtain ⟨rfl, htail⟩ := List.cons.inj htext
                exact ⟨(ds, rest), ih.2 ⟨htail, List.not_mem_of_not_mem_cons hq,
                  List.not_mem_of_not_mem_cons hn⟩, rfl⟩

theorem quoted?_eq_some_iff {text inside rest : List Char} :
    quoted? text = some (inside, rest) ↔ Quoted inside text rest := by
  cases text with
  | nil => simp [quoted?, Quoted]
  | cons c cs =>
      simp only [quoted?, Bool.or_eq_true, decide_eq_true_eq]
      by_cases hc : c = '"' ∨ c = '\''
      · rw [if_pos hc, untilQuote?_eq_some_iff]
        constructor
        · rintro ⟨rfl, hnot⟩
          exact ⟨c, hc, rfl, hnot⟩
        · rintro ⟨quote, -, heq, hnot⟩
          obtain ⟨rfl, rfl⟩ := List.cons.inj heq
          exact ⟨rfl, hnot⟩
      · rw [if_neg hc]
        refine iff_of_false (by simp) ?_
        rintro ⟨quote, hquote, heq, -⟩
        exact hc ((List.cons.inj heq).1 ▸ hquote)

/-! ## Clauses -/

/-- The word behind a clause. -/
def fromWord : List Char := ['f', 'r', 'o', 'm']

/-- The braces open behind a text, where `depth` are open in front of it. A closing brace too many
counts for nothing. -/
def braceDepth (depth : Nat) (cs : List Char) : Nat :=
  cs.foldl (fun d c => if c = '{' then d + 1 else if c = '}' then d - 1 else d) depth

theorem endsClause_eq_true_iff {c : Char} :
    endsClause c = true ↔ c ∈ [';', '"', '\'', '\x60', '('] := by
  simp [endsClause, or_assoc]

/-- A clause goes on over its character `c`: outside braces, `c` does not end it and starts no
whole word `from`. -/
def GoesOn (before : Option Char) (depth : Nat) (c : Char) (cs : List Char) : Prop :=
  depth = 0 → c ≠ '{' → c ≠ '}' →
    endsClause c = false ∧ wholeWord? fromWord before (c :: cs) = none

/-- A clause of which `used` bytes and `depth` open braces are given goes on over `clause` and ends
at a `from` in front of `rest`. -/
structure RunsTo (before : Option Char) (depth used : Nat) (clause rest : List Char) : Prop where
  short : used + (Utf8.encode clause).length < clauseLimit
  closed : braceDepth depth clause = 0
  word : wholeWord? fromWord (clause.getLast?.or before) (fromWord ++ rest) = some rest
  goesOn : ∀ front c back, clause = front ++ c :: back →
    GoesOn (front.getLast?.or before) (braceDepth depth front) c (back ++ fromWord ++ rest)

theorem getLast?_cons_or (c : Char) (cs : List Char) (before : Option Char) :
    (c :: cs).getLast?.or before = cs.getLast?.or (some c) := by
  rw [← List.singleton_append, List.getLast?_append, Option.or_assoc]
  rfl

theorem runsTo_nil_iff {before : Option Char} {depth used : Nat} {rest : List Char} :
    RunsTo before depth used [] rest ↔
      used < clauseLimit ∧ depth = 0 ∧
        wholeWord? fromWord before (fromWord ++ rest) = some rest := by
  constructor
  · intro h
    exact ⟨h.short, h.closed, h.word⟩
  · rintro ⟨hshort, hclosed, hword⟩
    exact ⟨hshort, hclosed, hword, fun front c back h => absurd h (by simp)⟩

theorem runsTo_cons_iff {before : Option Char} {depth used : Nat} {c : Char}
    {clause rest : List Char} :
    RunsTo before depth used (c :: clause) rest ↔
      GoesOn before depth c (clause ++ fromWord ++ rest) ∧
        RunsTo (some c) (braceDepth depth [c]) (used + c.utf8Size) clause rest := by
  have hlength : used + (Utf8.encode (c :: clause)).length =
      used + c.utf8Size + (Utf8.encode clause).length := by
    rw [Utf8.encode_cons, List.length_append, String.length_utf8EncodeChar, Nat.add_assoc]
  constructor
  · intro h
    refine ⟨h.goesOn [] c clause rfl, hlength ▸ h.short, h.closed, ?_, ?_⟩
    · rw [← getLast?_cons_or c clause before]
      exact h.word
    · intro front d back heq
      rw [← getLast?_cons_or c front before]
      exact h.goesOn (c :: front) d back (congrArg (c :: ·) heq)
  · rintro ⟨hfirst, h⟩
    refine ⟨hlength ▸ h.short, h.closed, ?_, ?_⟩
    · rw [getLast?_cons_or]
      exact h.word
    · intro front d back heq
      cases front with
      | nil =>
          obtain ⟨rfl, rfl⟩ := List.cons.inj heq
          exact hfirst
      | cons e front =>
          obtain ⟨rfl, htail⟩ := List.cons.inj heq
          rw [getLast?_cons_or]
          exact h.goesOn front d back htail

theorem untilFrom?_of_goesOn {before : Option Char} {depth used : Nat} {c : Char} {cs : List Char}
    (hused : used < clauseLimit) (h : GoesOn before depth c cs) :
    untilFrom? before depth used (c :: cs) =
      (untilFrom? (some c) (braceDepth depth [c]) (used + c.utf8Size) cs).map
        fun (clause, rest) => (c :: clause, rest) := by
  simp only [untilFrom?]
  rw [if_neg (Nat.not_le.2 hused)]
  by_cases hopen : c = '{'
  · rw [if_pos hopen, braceDepth, List.foldl_cons, List.foldl_nil, if_pos hopen]
  · rw [if_neg hopen]
    by_cases hclose : c = '}'
    · rw [if_pos hclose, braceDepth, List.foldl_cons, List.foldl_nil, if_neg hopen, if_pos hclose]
    · rw [if_neg hclose, braceDepth, List.foldl_cons, List.foldl_nil, if_neg hopen, if_neg hclose]
      by_cases hdepth : depth = 0
      · obtain ⟨hends, hword⟩ := h hdepth hopen hclose
        have hword : wholeWord? ['f', 'r', 'o', 'm'] before (c :: cs) = none := hword
        rw [if_pos hdepth, hends, hword]
        rfl
      · rw [if_neg hdepth]

/-- Where a clause does not go on, it is empty or there is none. -/
theorem untilFrom?_of_not_goesOn {before : Option Char} {depth used : Nat} {c : Char}
    {cs clause rest : List Char} (h : ¬ GoesOn before depth c cs) :
    untilFrom? before depth used (c :: cs) = some (clause, rest) ↔
      clause = [] ∧ c :: cs = fromWord ++ rest ∧ RunsTo before depth used [] rest := by
  simp only [GoesOn, Classical.not_imp, not_and] at h
  obtain ⟨rfl, hopen, hclose, h⟩ := h
  simp only [untilFrom?]
  rw [if_neg hopen, if_neg hclose, if_pos trivial, runsTo_nil_iff]
  by_cases hused : clauseLimit ≤ used
  · rw [if_pos hused]
    refine iff_of_false (by simp) ?_
    rintro ⟨-, -, hshort, -⟩
    omega
  · rw [if_neg hused]
    cases hends : endsClause c with
    | true =>
        rw [if_pos rfl]
        refine iff_of_false (by simp) ?_
        rintro ⟨-, heq, -⟩
        obtain ⟨rfl, -⟩ := List.cons.inj heq
        exact absurd hends (by decide)
    | false =>
        obtain ⟨tail, hword⟩ := Option.ne_none_iff_exists'.1 (h hends)
        have htext := wholeWord?_eq_some hword
        have hword' : wholeWord? ['f', 'r', 'o', 'm'] before (c :: cs) = some tail := hword
        rw [hword', if_neg (by simp), Option.some.injEq, Prod.mk.injEq]
        constructor
        · rintro ⟨rfl, rfl⟩
          exact ⟨rfl, htext, by omega, rfl, htext ▸ hword⟩
        · rintro ⟨rfl, heq, -⟩
          exact ⟨rfl, List.append_cancel_left (htext.symm.trans heq)⟩

theorem untilFrom?_eq_some_iff {before : Option Char} {depth used : Nat}
    {text clause rest : List Char} :
    untilFrom? before depth used text = some (clause, rest) ↔
      text = clause ++ fromWord ++ rest ∧ RunsTo before depth used clause rest := by
  induction text generalizing before depth used clause with
  | nil => simp [untilFrom?, fromWord]
  | cons c cs ih =>
      -- A character over which the clause goes on belongs to it; any other is the `f` of `from`.
      by_cases hgoes : GoesOn before depth c cs
      · by_cases hused : used < clauseLimit
        · rw [untilFrom?_of_goesOn hused hgoes, Option.map_eq_some_iff]
          constructor
          · rintro ⟨⟨clause', rest'⟩, h, heq⟩
            obtain ⟨rfl, rfl⟩ := Prod.mk.inj heq
            obtain ⟨rfl, hruns⟩ := ih.1 h
            exact ⟨rfl, runsTo_cons_iff.2 ⟨hgoes, hruns⟩⟩
          · rintro ⟨htext, hruns⟩
            cases clause with
            | nil =>
                obtain ⟨-, hdepth, hword⟩ := runsTo_nil_iff.1 hruns
                have hc : c = 'f' := (List.cons.inj htext).1
                have hnone := (hgoes hdepth (by rw [hc]; decide) (by rw [hc]; decide)).2
                rw [htext, List.nil_append, hword] at hnone
                exact absurd hnone (by simp)
            | cons d ds =>
                obtain ⟨rfl, rfl⟩ := List.cons.inj htext
                exact ⟨(ds, rest), ih.2 ⟨rfl, (runsTo_cons_iff.1 hruns).2⟩, rfl⟩
        · have hnone : untilFrom? before depth used (c :: cs) = none := by
            simp only [untilFrom?]
            rw [if_pos (Nat.not_lt.1 hused)]
          rw [hnone]
          refine iff_of_false (by simp) ?_
          rintro ⟨-, hruns⟩
          have hshort := hruns.short
          omega
      · rw [untilFrom?_of_not_goesOn hgoes]
        constructor
        · rintro ⟨rfl, htext, hruns⟩
          exact ⟨htext, hruns⟩
        · rintro ⟨htext, hruns⟩
          cases clause with
          | nil => exact ⟨rfl, htext, hruns⟩
          | cons d ds =>
              obtain ⟨rfl, rfl⟩ := List.cons.inj htext
              exact absurd (runsTo_cons_iff.1 hruns).1 hgoes

/-! ## Statements -/

/-- Whether a text behind the keyword starts a clause. -/
def startsClause (body : List Char) : Bool :=
  body.head?.all fun c => c != '(' && c != '.' && c != '"' && c != '\''

/-- Clauses that a statement can have. -/
structure Binds (clause : List Char) : Prop where
  nonempty : clause ≠ []
  trimmed : trim clause = clause
  values : isTypeOnly clause = false

/-- `body`, which stands behind the keyword and its blanks, imports `specifier` under `clause` in
front of `rest`. -/
inductive Reads : List Char → List Char → Option (List Char) → List Char → Prop where
  | bare {body specifier rest : List Char} (quoted : Quoted specifier body rest) :
      Reads body specifier none rest
  | bound {specifier clause tail rest : List Char}
      (starts : startsClause (clause ++ fromWord ++ tail) = true)
      (runs : RunsTo none 0 0 clause tail) (nonempty : trim clause ≠ [])
      (binds : isTypeOnly (trim clause) = false)
      (quoted : Quoted specifier (tail.dropWhile isAsciiBlank) rest) :
      Reads (clause ++ fromWord ++ tail) specifier (some (trim clause)) rest

theorem reads_of_parts?_eq_some {body specifier rest : List Char} {clause : Option (List Char)}
    (h : parts? body = some ((specifier, clause), rest)) : Reads body specifier clause rest := by
  unfold parts? at h
  split at h
  · simp at h
  · next c cs =>
      simp only [Bool.or_eq_true, decide_eq_true_eq] at h
      split at h
      · simp at h
      · next hskip =>
          split at h
          · obtain ⟨⟨inside, rest'⟩, hq, heq⟩ := Option.map_eq_some_iff.1 h
            cases heq
            exact .bare (quoted?_eq_some_iff.1 hq)
          · next hquote =>
              have hstarts : startsClause (c :: cs) = true := by
                simp [startsClause, not_or.1 hskip, not_or.1 hquote]
              split at h
              · simp at h
              · next raw tail hfrom =>
                  obtain ⟨htext, hruns⟩ := untilFrom?_eq_some_iff.1 hfrom
                  split at h
                  · simp at h
                  · next hkeeps =>
                      obtain ⟨⟨inside, rest'⟩, hq, heq⟩ := Option.map_eq_some_iff.1 h
                      cases heq
                      simp only [List.isEmpty_iff, Bool.not_eq_true, not_or] at hkeeps
                      rw [htext] at hstarts ⊢
                      exact .bound hstarts hruns hkeeps.1 hkeeps.2 (quoted?_eq_some_iff.1 hq)

theorem parts?_of_reads {body specifier rest : List Char} {clause : Option (List Char)}
    (h : Reads body specifier clause rest) : parts? body = some ((specifier, clause), rest) := by
  cases h with
  | bare quoted =>
      have hq := quoted?_eq_some_iff.2 quoted
      obtain ⟨quote, hquote, rfl, -⟩ := quoted
      have hskip : ¬ (quote = '(' ∨ quote = '.') := by rcases hquote with rfl | rfl <;> decide
      simp only [parts?, Bool.or_eq_true, decide_eq_true_eq]
      rw [if_neg hskip, if_pos hquote, hq]
      rfl
  | bound starts runs nonempty binds quoted =>
      rename_i raw tail
      have hfrom := untilFrom?_eq_some_iff.2 ⟨rfl, runs⟩
      have hq := quoted?_eq_some_iff.2 quoted
      cases hbody : raw ++ fromWord ++ tail with
      | nil => exact absurd hbody (by simp [fromWord])
      | cons c cs =>
          rw [hbody] at starts hfrom
          simp only [startsClause, List.head?_cons, Option.all_some, Bool.and_eq_true,
            bne_iff_ne] at starts
          obtain ⟨⟨⟨hparen, hdot⟩, hdouble⟩, hsingle⟩ := starts
          simp only [parts?, Bool.or_eq_true, decide_eq_true_eq]
          rw [if_neg (not_or.2 ⟨hparen, hdot⟩), if_neg (not_or.2 ⟨hdouble, hsingle⟩), hfrom]
          simp only [List.isEmpty_iff, binds]
          rw [if_neg (by simp [nonempty]), hq]
          rfl

theorem parts?_eq_some_iff {body specifier rest : List Char} {clause : Option (List Char)} :
    parts? body = some ((specifier, clause), rest) ↔ Reads body specifier clause rest :=
  ⟨reads_of_parts?_eq_some, parts?_of_reads⟩

/-- A statement is read where its specifier and clause stand behind blanks. It takes the `;` behind
it with it. -/
theorem read?_eq_some_iff {after rest : List Char} {s : Statement} :
    read? after = some (s, rest) ↔
      ∃ tail, Reads (after.dropWhile isAsciiBlank) s.specifier s.clause tail ∧
        rest = afterSemicolon tail ∧ s.text = keyword ++ upTo after rest := by
  simp only [read?, Option.bind_eq_bind, Option.bind_eq_some_iff]
  constructor
  · rintro ⟨⟨⟨specifier, clause⟩, tail⟩, hparts, h⟩
    obtain ⟨rfl, rfl⟩ := Prod.mk.inj (Option.some.inj h)
    exact ⟨tail, parts?_eq_some_iff.1 hparts, rfl, rfl⟩
  · rintro ⟨tail, hreads, rfl, htext⟩
    refine ⟨((s.specifier, s.clause), tail), parts?_eq_some_iff.2 hreads, ?_⟩
    rw [← htext]
    rfl

end ScopedStyles.Statement
