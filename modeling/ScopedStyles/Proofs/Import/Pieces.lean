import ScopedStyles.Proofs.Import.Lines
import ScopedStyles.Proofs.Text.Split
/-!
# Scanning piece by piece

Comments, literals, other text and statements that are complete in themselves are read the same
whatever follows them. So the imports of a script that starts with such a piece are those of the
piece and, moved behind it, those of the rest.
-/

namespace ScopedStyles

/-- An import that stands so many bytes and lines further back. -/
def Import.shift (bytes lines : Nat) (i : Import) : Import :=
  { i with start := i.start + bytes, stop := i.stop + bytes, line := i.line + lines }

namespace Lexeme

open Text Statement

/-! ## What stands in front of a text -/

theorem wholeWord?_congr {before before' : Option Char}
    (h : startsWord before = startsWord before') (word cs : List Char) :
    wholeWord? word before cs = wholeWord? word before' cs := by
  rw [wholeWord?, wholeWord?]
  unfold startsWord at h
  rw [h]

theorem scan_congr {before before' : Option Char} (h : startsWord before = startsWord before')
    (cs : List Char) : scan before cs = scan before' cs := by
  cases cs with
  | nil => rw [scan, scan]
  | cons c cs =>
      have hnext : next before c cs = next before' c cs := by
        rw [next, next, wholeWord?_congr h]
      rw [scan, scan, hnext]

theorem scan_of_startsWord {before : Option Char} (h : startsWord before = true) (cs : List Char) :
    scan before cs = scan none cs :=
  scan_congr h cs

theorem scan_cons_of_next {before : Option Char} {c : Char} {cs rest : List Char}
    {lexeme : Lexeme} (h : next before c cs = (lexeme, rest)) :
    scan before (c :: cs) = lexeme :: scan lexeme.text.getLast? rest := by
  rw [scan, h]

/-! ## Comments -/

theorem scan_lineComment (before : Option Char) {body : List Char} (hbody : '\n' ∉ body)
    (rest : List Char) :
    scan before ('/' :: '/' :: body ++ '\n' :: rest) =
      comment ('/' :: '/' :: body) :: other ['\n'] :: scan none rest := by
  have hstays : ∀ c ∈ '/' :: body, (c != '\n') = true := by
    intro c hc
    rcases List.mem_cons.1 hc with rfl | hc
    · decide
    · exact bne_iff_ne.2 fun h => hbody (h ▸ hc)
  have htake : ('/' :: body ++ '\n' :: rest).takeWhile (· != '\n') = '/' :: body := by
    rw [List.takeWhile_append_of_pos hstays, List.takeWhile_cons_of_neg (by decide),
      List.append_nil]
  have hdrop : ('/' :: body ++ '\n' :: rest).dropWhile (· != '\n') = '\n' :: rest := by
    rw [List.dropWhile_append_of_pos hstays, List.dropWhile_cons_of_neg (by decide)]
  have hcomment : next before '/' ('/' :: body ++ '\n' :: rest) =
      (comment ('/' :: '/' :: body), '\n' :: rest) := by
    rw [next_lineComment before rfl, htake, hdrop]
  have hfeed (last : Option Char) : next last '\n' rest = (other ['\n'], rest) :=
    next_other (by decide) (by decide) (wholeWord?_cons_eq_none (by decide) keyword.tail last rest)
  rw [List.cons_append, scan_cons_of_next hcomment, scan_cons_of_next (hfeed _),
    scan_of_startsWord rfl]

theorem untilBlockEnd_cons {c : Char} {cs : List Char} (h : ¬ (c = '*' ∧ cs.head? = some '/')) :
    untilBlockEnd (c :: cs) = (c :: (untilBlockEnd cs).1, (untilBlockEnd cs).2) := by
  rw [untilBlockEnd.eq_def]
  split <;> simp_all

theorem untilBlockEnd_append_close {body : List Char} (hbody : ¬ ['*', '/'] <:+: body)
    (rest : List Char) :
    untilBlockEnd (body ++ '*' :: '/' :: rest) = (body ++ ['*', '/'], rest) := by
  induction body with
  | nil => rfl
  | cons c cs ih =>
      have hcs : ¬ ['*', '/'] <:+: cs := fun h => hbody (List.infix_cons h)
      have hopen : ¬ (c = '*' ∧ (cs ++ '*' :: '/' :: rest).head? = some '/') := by
        rintro ⟨rfl, hhead⟩
        cases cs with
        | nil => cases hhead
        | cons d ds =>
            obtain rfl : d = '/' := Option.some.inj hhead
            exact hbody ⟨[], ds, rfl⟩
      rw [List.cons_append, untilBlockEnd_cons hopen, ih hcs]
      rfl

theorem scan_blockComment (before : Option Char) {body : List Char}
    (hbody : ¬ ['*', '/'] <:+: body) (rest : List Char) :
    scan before ('/' :: '*' :: body ++ '*' :: '/' :: rest) =
      comment ('/' :: '*' :: body ++ ['*', '/']) :: scan none rest := by
  have hcomment : next before '/' ('*' :: body ++ '*' :: '/' :: rest) =
      (comment ('/' :: '*' :: body ++ ['*', '/']), rest) := by
    rw [List.cons_append, next_blockComment, untilBlockEnd_append_close hbody]
    rfl
  have hlast : ('/' :: '*' :: body ++ ['*', '/']).getLast? = some '/' := by
    rw [List.getLast?_append]
    rfl
  rw [List.cons_append, scan_cons_of_next hcomment, Lexeme.text, hlast, scan_of_startsWord rfl]

/-! ## Literals -/

/-- What can stand between two quotes: a backslash takes a character with it that is no line feed,
and only a template literal holds line feeds. -/
inductive LiteralBody (quote : Char) : List Char → Prop where
  | nil : LiteralBody quote []
  | escape {c : Char} {cs : List Char} (hc : c ≠ '\n') (hcs : LiteralBody quote cs) :
      LiteralBody quote ('\\' :: c :: cs)
  | plain {c : Char} {cs : List Char} (hquote : c ≠ quote) (hescape : c ≠ '\\')
      (hline : c = '\n' → quote = '\x60') (hcs : LiteralBody quote cs) : LiteralBody quote (c :: cs)

theorem untilLiteralEnd_cons {quote c : Char} (hescape : c ≠ '\\') (cs : List Char) :
    untilLiteralEnd quote (c :: cs) =
      if c = quote then ([c], cs)
      else if c = '\n' && quote != '\x60' then ([], c :: cs)
      else (c :: (untilLiteralEnd quote cs).1, (untilLiteralEnd quote cs).2) := by
  rw [untilLiteralEnd.eq_def]
  split <;> simp_all

theorem untilLiteralEnd_append_close {quote : Char} (hquote : isQuote quote = true)
    {body : List Char} (hbody : LiteralBody quote body) (rest : List Char) :
    untilLiteralEnd quote (body ++ quote :: rest) = (body ++ [quote], rest) := by
  induction hbody with
  | nil =>
      have hescape : quote ≠ '\\' := ne_of_isQuote hquote (by decide)
      rw [List.nil_append, untilLiteralEnd_cons hescape, if_pos rfl]
      rfl
  | escape _ _ ih =>
      rw [List.cons_append, List.cons_append, untilLiteralEnd, ih]
      rfl
  | @plain c cs hne hescape hline _ ih =>
      have hstays : ¬ (c = '\n' && quote != '\x60') = true := by
        simpa using hline
      rw [List.cons_append, untilLiteralEnd_cons hescape, if_neg hne, if_neg hstays, ih]
      rfl

theorem scan_literal (before : Option Char) {quote : Char} (hquote : isQuote quote = true)
    {body : List Char} (hbody : LiteralBody quote body) (rest : List Char) :
    scan before (quote :: body ++ quote :: rest) =
      literal (quote :: body ++ [quote]) :: scan none rest := by
  have hliteral : next before quote (body ++ quote :: rest) =
      (literal (quote :: body ++ [quote]), rest) := by
    rw [next_literal before hquote, untilLiteralEnd_append_close hquote hbody]
    rfl
  have hlast : (quote :: body ++ [quote]).getLast? = some quote := List.getLast?_concat
  have hstarts : startsWord (some quote) = true := by
    rcases isQuote_iff.1 hquote with rfl | rfl | rfl <;> decide
  rw [List.cons_append, scan_cons_of_next hliteral, Lexeme.text, hlast, scan_of_startsWord hstarts]

theorem escapedLineFeeds_eq_zero {quote : Char} (hquote : isQuote quote = true) {body : List Char}
    (hbody : LiteralBody quote body) : escapedLineFeeds (body ++ [quote]) = 0 := by
  induction hbody with
  | nil =>
      rcases isQuote_iff.1 hquote with rfl | rfl | rfl <;> rfl
  | escape hc _ ih =>
      rw [List.cons_append, List.cons_append, escapedLineFeeds, if_neg hc, ih]
  | plain _ hescape _ _ ih => rw [List.cons_append, escapedLineFeeds_cons hescape, ih]

/-! ## Other text -/

/-- A character by which text can be cut: it continues no word and starts nothing. -/
def isCut (c : Char) : Bool :=
  isAsciiBlank c || c == ';'

theorem startsWord_of_isCut {c : Char} (h : isCut c = true) : startsWord (some c) = true := by
  simp only [isCut, isAsciiBlank, Bool.or_eq_true, beq_iff_eq] at h
  rcases h with ((((rfl | rfl) | rfl) | rfl) | rfl) | rfl <;> decide

theorem not_mem_keyword_of_isCut {c : Char} (h : isCut c = true) : c ∉ keyword := by
  simp only [isCut, isAsciiBlank, Bool.or_eq_true, beq_iff_eq] at h
  rcases h with ((((rfl | rfl) | rfl) | rfl) | rfl) | rfl <;> decide

theorem scan_plain {before : Option Char} {run : List Char}
    (hplain : ∀ c ∈ run, isQuote c = false ∧ c ≠ '/') (hword : ¬ keyword <:+: run)
    {last : Char} (hlast : run.getLast? = some last) (hcut : isCut last = true)
    (rest : List Char) :
    scan before (run ++ rest) = run.map (fun c => other [c]) ++ scan none rest := by
  induction run generalizing before with
  | nil => cases hlast
  | cons c cs ih =>
      have hnone : wholeWord? keyword before (c :: (cs ++ rest)) = none := by
        refine Option.eq_none_iff_forall_ne_some.2 fun after h => hword ?_
        -- A keyword that starts in the run ends in it, as the run's last character is in none.
        have hlead : keyword <+: c :: cs ++ rest := ⟨after, (wholeWord?_eq_some h).symm⟩
        obtain ⟨front, hfront⟩ := List.getLast?_eq_some_iff.1 hlast
        rw [hfront, List.append_assoc] at hlead
        have hfits := prefix_of_prefix_append_cons (not_mem_keyword_of_isCut hcut) hlead
        exact (hfits.trans ⟨[last], hfront.symm⟩).isInfix
      obtain ⟨hquote, hslash⟩ := hplain c List.mem_cons_self
      have hother : next before c (cs ++ rest) = (other [c], cs ++ rest) :=
        next_other hslash (Bool.eq_false_iff.1 hquote) hnone
      rw [List.cons_append, scan_cons_of_next hother]
      cases cs with
      | nil =>
          obtain rfl : c = last := Option.some.inj hlast
          exact congrArg _ (scan_of_startsWord (startsWord_of_isCut hcut) rest)
      | cons d ds =>
          rw [ih (fun e he => hplain e (List.mem_cons_of_mem c he))
            (fun h => hword (List.infix_cons h)) hlast]
          rfl

/-! ## Statements -/

/-- Clauses that are read back as they are written: they are not too long, close their braces, and
hold outside of them nothing that ends a clause and no word `from`. -/
structure ReadsBack (clause : List Char) : Prop extends Binds clause where
  undotted : clause.head? ≠ some '.'
  short : (Utf8.encode clause).length ≤ 998
  closed : braceDepth 0 clause = 0
  outside : ∀ front c back, clause = front ++ c :: back → braceDepth 0 front = 0 →
    endsClause c = false ∧ wholeWord? fromWord front.getLast? (c :: back) = none

theorem wholeWord?_append_cons {word cs : List Char} {before : Option Char} {stop : Char}
    (hword : stop ∉ word) (h : wholeWord? word before cs = none) (rest : List Char) :
    wholeWord? word before (cs ++ stop :: rest) = none := by
  refine Option.eq_none_iff_forall_ne_some.2 fun after hafter => ?_
  obtain ⟨htext, hstarts, hend⟩ := wholeWord?_eq_some_iff.1 hafter
  obtain ⟨behind, rfl⟩ := prefix_of_prefix_append_cons hword ⟨after, htext.symm⟩
  rw [List.append_assoc, List.append_cancel_left_eq] at htext
  have hsome : wholeWord? word before (word ++ behind) = some behind :=
    wholeWord?_eq_some_iff.2 ⟨rfl, hstarts, endsWord_of_append (htext ▸ hend)⟩
  rw [h] at hsome
  cases hsome

theorem runsTo_of_readsBack {clause : List Char} (h : ReadsBack clause) (tail : List Char) :
    RunsTo none 0 0 (clause ++ [' ']) (' ' :: tail) := by
  constructor
  case short =>
      have hshort := h.short
      have hspace : (Utf8.encode [' ']).length = 1 := by decide
      rw [Utf8.encode_append, List.length_append, hspace, clauseLimit]
      omega
  case closed =>
      have hclosed := h.closed
      unfold braceDepth at hclosed ⊢
      rw [List.foldl_append, hclosed]
      rfl
  case word =>
      rw [List.getLast?_concat]
      exact wholeWord?_eq_some_iff.2 ⟨rfl, by decide, rfl⟩
  case goesOn =>
      intro front c back heq
      rcases List.eq_nil_or_concat back with rfl | ⟨back', d, rfl⟩
      · obtain ⟨-, hc⟩ := List.append_inj' heq rfl
        obtain rfl : ' ' = c := List.singleton_inj.1 hc
        intro _ _ _
        exact ⟨by decide, wholeWord?_cons_eq_none (by decide) _ _ _⟩
      · rw [List.concat_eq_append, ← List.cons_append, ← List.append_assoc] at heq
        obtain ⟨hclause, hd⟩ := List.append_inj' heq rfl
        obtain rfl : ' ' = d := List.singleton_inj.1 hd
        intro hdepth _ _
        obtain ⟨hends, hword⟩ := h.outside front c back' hclause hdepth
        refine ⟨hends, ?_⟩
        have hspace : ' ' ∉ fromWord := by decide
        have hgo := wholeWord?_append_cons hspace hword (fromWord ++ ' ' :: tail)
        rw [Option.or_none, List.concat_eq_append]
        simpa using hgo

/-- What stands behind the keyword and its blank in the statement that imports a specifier. -/
def rendered (specifier : List Char) : Option (List Char) → List Char
  | none => '\'' :: (specifier ++ ['\'', ';'])
  | some clause => clause ++ [' '] ++ fromWord ++ ' ' :: '\'' :: (specifier ++ ['\'', ';'])

theorem text_of (specifier : String) (clause : Option String) :
    (Import.of specifier clause).text.toList =
      keyword ++ ' ' :: rendered specifier.toList (clause.map String.toList) := by
  cases clause <;> simp [Import.of, rendered, keyword, fromWord]

theorem getLast?_rendered (specifier : List Char) (clause : Option (List Char)) :
    (rendered specifier clause).getLast? = some ';' := by
  have hend (front : List Char) :
      (front ++ '\'' :: (specifier ++ ['\'', ';'])).getLast? = some ';' := by
    have hfront : front ++ '\'' :: (specifier ++ ['\'', ';']) =
        front ++ '\'' :: (specifier ++ ['\'']) ++ [';'] := by simp
    rw [hfront, List.getLast?_concat]
  cases clause with
  | none => exact hend []
  | some clause =>
      have hclause := hend (clause ++ [' '] ++ fromWord ++ [' '])
      rwa [List.append_assoc _ [' ']] at hclause

theorem quoted_rendered {specifier : List Char} (hquote : '\'' ∉ specifier)
    (hline : '\n' ∉ specifier) (rest : List Char) :
    Quoted specifier ('\'' :: (specifier ++ ['\'', ';']) ++ rest) (';' :: rest) :=
  ⟨'\'', .inr rfl, by simp, hquote, hline⟩

theorem dropWhile_rendered {specifier : List Char} {clause : Option (List Char)}
    (hclause : ∀ c ∈ clause, ReadsBack c) (rest : List Char) :
    (rendered specifier clause ++ rest).dropWhile isAsciiBlank =
      rendered specifier clause ++ rest := by
  cases clause with
  | none => rfl
  | some clause =>
      have hreads := hclause clause rfl
      cases clause with
      | nil => exact absurd rfl hreads.nonempty
      | cons c cs =>
          have hc := trimStart_cons_eq_self_iff.1 (trimStart_eq_self_of_trim hreads.trimmed)
          refine List.dropWhile_cons_of_neg fun hblank => ?_
          rw [isBlank_of_isAsciiBlank hblank] at hc
          cases hc

theorem startsClause_of_readsBack {clause : List Char} (h : ReadsBack clause) (tail : List Char) :
    startsClause (clause ++ [' '] ++ fromWord ++ tail) = true := by
  cases clause with
  | nil => exact absurd rfl h.nonempty
  | cons c cs =>
      have hdot : c ≠ '.' := fun hc => h.undotted (congrArg some hc)
      have hends := (h.outside [] c cs rfl rfl).1
      simp only [endsClause, Bool.or_eq_false_iff, beq_eq_false_iff_ne] at hends
      simp [startsClause, hdot, hends]

theorem reads_rendered {specifier : List Char} (hquote : '\'' ∉ specifier)
    (hline : '\n' ∉ specifier) {clause : Option (List Char)} (hclause : ∀ c ∈ clause, ReadsBack c)
    (rest : List Char) :
    Reads (rendered specifier clause ++ rest) specifier clause (';' :: rest) := by
  have hquoted := quoted_rendered hquote hline rest
  cases clause with
  | none => exact .bare hquoted
  | some clause =>
      have hreads := hclause clause rfl
      have hspace : ∀ c ∈ [' '], isBlank c = true := by
        rw [List.forall_mem_singleton]
        decide
      have htrim : trim (clause ++ [' ']) = clause := trim_append_blanks hreads.trimmed hspace
      have hnonempty : trim (clause ++ [' ']) ≠ [] := by
        rw [htrim]
        exact hreads.nonempty
      have hvalues : isTypeOnly (trim (clause ++ [' '])) = false := by
        rw [htrim]
        exact hreads.values
      have hstarts := startsClause_of_readsBack hreads
        (' ' :: ('\'' :: (specifier ++ ['\'', ';']) ++ rest))
      have hruns := runsTo_of_readsBack hreads ('\'' :: (specifier ++ ['\'', ';']) ++ rest)
      have hbound := Reads.bound hstarts hruns hnonempty hvalues hquoted
      rw [htrim] at hbound
      simpa [rendered] using hbound

theorem read?_rendered {specifier : List Char} (hquote : '\'' ∉ specifier)
    (hline : '\n' ∉ specifier) {clause : Option (List Char)} (hclause : ∀ c ∈ clause, ReadsBack c)
    (rest : List Char) :
    read? (' ' :: rendered specifier clause ++ rest) =
      some (⟨keyword ++ ' ' :: rendered specifier clause, specifier, clause⟩, rest) := by
  have hbody : (' ' :: rendered specifier clause ++ rest).dropWhile isAsciiBlank =
      rendered specifier clause ++ rest := dropWhile_rendered hclause rest
  refine read?_eq_some_iff.2 ⟨';' :: rest, ?_, rfl, ?_⟩
  · rw [hbody]
    exact reads_rendered hquote hline hclause rest
  · rw [upTo_append_right]

theorem scan_statement {before : Option Char} (hbefore : startsWord before = true)
    {specifier : String} (hquote : '\'' ∉ specifier.toList) (hline : '\n' ∉ specifier.toList)
    {clause : Option String} (hclause : ∀ c ∈ clause, ReadsBack c.toList) (rest : List Char) :
    scan before ((Import.of specifier clause).text.toList ++ rest) =
      statement ⟨(Import.of specifier clause).text.toList, specifier.toList,
        clause.map String.toList⟩ :: scan none rest := by
  have hclause : ∀ c ∈ clause.map String.toList, ReadsBack c := by
    intro c hc
    obtain ⟨d, hd, rfl⟩ := Option.map_eq_some_iff.1 hc
    exact hclause d hd
  have hread := read?_rendered hquote hline hclause rest
  have hnext := next_of_read? hbefore rfl hread
  have hlast : (keyword ++ ' ' :: rendered specifier.toList (clause.map String.toList)).getLast? =
      some ';' := by
    rw [List.getLast?_append, List.getLast?_cons, getLast?_rendered]
    rfl
  rw [text_of, List.append_assoc]
  refine (scan_cons_of_next hnext).trans ?_
  rw [Lexeme.text, hlast, scan_of_startsWord (by decide)]

/-! ## Imports further back -/

theorem imports_shift (offset line bytes lines : Nat) (lexemes : List Lexeme) :
    imports (offset + bytes) (line + lines) lexemes =
      (imports offset line lexemes).map (Import.shift bytes lines) := by
  induction lexemes generalizing offset line with
  | nil => rfl
  | cons lexeme lexemes ih =>
      have hlater := ih (offset + lexeme.byteLength) (line + lexeme.lineFeeds)
      rw [Nat.add_right_comm offset, Nat.add_right_comm line] at hlater
      cases lexeme with
      | comment _ | literal _ | other _ => exact hlater
      | statement s =>
          have hplace : s.place (offset + bytes) (line + lines) =
              Import.shift bytes lines (s.place offset line) := by
            rw [place, Import.shift, place, Nat.add_right_comm]
          simp only [imports, List.map_cons]
          rw [hlater, hplace]

end Lexeme

open Text Statement Lexeme

/-! ## Pieces -/

/-- A text that is complete in itself: a line comment with its line feed, a block comment, a
literal, a run of other characters, or a statement. -/
inductive Piece where
  | lineComment (body : List Char) (hbody : '\n' ∉ body)
  | blockComment (body : List Char) (hbody : ¬ ['*', '/'] <:+: body)
  | literal (quote : Char) (body : List Char) (hquote : isQuote quote = true)
      (hbody : LiteralBody quote body)
  | plain (run : List Char) (hplain : ∀ c ∈ run, isQuote c = false ∧ c ≠ '/')
      (hword : ¬ keyword <:+: run) (hlast : ∃ last, run.getLast? = some last ∧ isCut last = true)
  | statement (specifier : String) (clause : Option String) (hquote : '\'' ∉ specifier.toList)
      (hline : '\n' ∉ specifier.toList) (hclause : ∀ c ∈ clause, ReadsBack c.toList)

namespace Piece

def text : Piece → List Char
  | lineComment body _ => '/' :: '/' :: body ++ ['\n']
  | blockComment body _ => '/' :: '*' :: body ++ ['*', '/']
  | literal quote body _ _ => quote :: body ++ [quote]
  | plain run _ _ _ => run
  | statement specifier clause _ _ _ => (Import.of specifier clause).text.toList

/-- A piece's own imports. -/
def imports : Piece → List Import
  | statement specifier clause _ _ _ => [Import.of specifier clause]
  | _ => []

def lexemes : Piece → List Lexeme
  | lineComment body _ => [.comment ('/' :: '/' :: body), .other ['\n']]
  | blockComment body _ => [.comment ('/' :: '*' :: body ++ ['*', '/'])]
  | literal quote body _ _ => [.literal (quote :: body ++ [quote])]
  | plain run _ _ _ => run.map fun c => .other [c]
  | statement specifier clause _ _ _ =>
    [.statement ⟨(Import.of specifier clause).text.toList, specifier.toList,
      clause.map String.toList⟩]

theorem lexemes_append {before : Option Char} (h : startsWord before = true) (p : Piece)
    (rest : List Char) :
    Lexeme.scan before (p.text ++ rest) = p.lexemes ++ Lexeme.scan none rest := by
  cases p with
  | lineComment body hbody =>
      rw [text, List.append_assoc]
      exact scan_lineComment before hbody rest
  | blockComment body hbody =>
      rw [text, List.append_assoc]
      exact scan_blockComment before hbody rest
  | literal quote body hquote hbody =>
      rw [text, List.append_assoc]
      exact scan_literal before hquote hbody rest
  | plain run hplain hword hlast =>
      obtain ⟨last, hlast, hcut⟩ := hlast
      exact scan_plain hplain hword hlast hcut rest
  | statement specifier clause hquote hline hclause =>
      exact scan_statement h hquote hline hclause rest

theorem flatMap_text_lexemes (p : Piece) : p.lexemes.flatMap Lexeme.text = p.text := by
  have htext := flatMap_text_scan none (p.text ++ [])
  rwa [lexemes_append rfl, Lexeme.scan, List.append_nil, List.append_nil] at htext

theorem hiddenLineFeeds_eq_zero (p : Piece) : ∀ lexeme ∈ p.lexemes, lexeme.hiddenLineFeeds = 0 := by
  cases p with
  | literal quote body hquote hbody =>
      have hescape : quote ≠ '\\' := ne_of_isQuote hquote (by decide)
      intro lexeme hlexeme
      rw [lexemes, List.mem_singleton] at hlexeme
      rw [hlexeme, hiddenLineFeeds, List.cons_append, escapedLineFeeds_cons hescape]
      exact escapedLineFeeds_eq_zero hquote hbody
  | lineComment | blockComment | plain | statement => simp [lexemes, hiddenLineFeeds]

theorem total_lineFeeds_lexemes (p : Piece) : total lineFeeds p.lexemes = p.text.count '\n' := by
  have hfeeds := total_lineFeeds_add_hiddenLineFeeds p.lexemes
  have hhidden : total hiddenLineFeeds p.lexemes = 0 := by
    rw [total_eq_zero_iff]
    exact hiddenLineFeeds_eq_zero p
  rw [flatMap_text_lexemes, hhidden] at hfeeds
  exact hfeeds

theorem imports_map_other (offset line : Nat) (run : List Char) :
    Lexeme.imports offset line (run.map fun c => .other [c]) = [] := by
  induction run generalizing offset line with
  | nil => rfl
  | cons c cs ih => exact ih _ _

theorem imports_lexemes (p : Piece) : Lexeme.imports 0 1 p.lexemes = p.imports := by
  cases p with
  | lineComment | blockComment | literal => rfl
  | plain run _ _ _ => exact imports_map_other 0 1 run
  | statement specifier clause _ _ _ =>
      have hplace : place ⟨(Import.of specifier clause).text.toList, specifier.toList,
          clause.map String.toList⟩ 0 1 = Import.of specifier clause := by
        simp [place, Import.of, Function.comp_def]
      rw [lexemes, Lexeme.imports, hplace]
      rfl

/-- A piece in front of a script adds its own imports and moves those of the script behind it. -/
theorem scan_append (p : Piece) (source : String) :
    Import.scan (String.ofList p.text ++ source) =
      p.imports ++ (Import.scan source).map
        (Import.shift (String.ofList p.text).utf8ByteSize (p.text.count '\n')) := by
  have hscan : Lexeme.scan none (p.text ++ source.toList) =
      p.lexemes ++ Lexeme.scan none source.toList := lexemes_append rfl p source.toList
  have hbytes : total byteLength p.lexemes = (String.ofList p.text).utf8ByteSize := by
    rw [total_byteLength, flatMap_text_lexemes, utf8ByteSize_ofList]
  rw [Import.scan, String.toList_append, String.toList_ofList, hscan, imports_append,
    imports_lexemes, imports_shift, hbytes, total_lineFeeds_lexemes]
  rfl

theorem readsBack_singleton : ReadsBack ['a'] where
  nonempty := by decide
  trimmed := by decide
  values := by decide
  undotted := by decide
  short := by decide
  closed := by decide
  outside := by
    intro front c back h _
    cases front with
    | nil =>
        obtain ⟨rfl, rfl⟩ := List.cons.inj h
        decide
    | cons d ds => simp at h

theorem scan_import_a_append :
    Import.scan ("import a from 'x';" ++ "import 'y'") =
      [⟨"import a from 'x';", 0, 18, "x", some "a", 1⟩, ⟨"import 'y'", 18, 28, "y", none, 1⟩] := by
  have h := scan_append (.statement "x" (some "a") (by decide) (by decide)
    fun c hc => Option.some.inj hc ▸ readsBack_singleton) "import 'y'"
  refine h.trans ?_
  decide +kernel

end Piece

end ScopedStyles
