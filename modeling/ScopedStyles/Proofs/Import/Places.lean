import ScopedStyles.Proofs.Import.Lines
import ScopedStyles.Proofs.Import.Reading
import ScopedStyles.Proofs.Import.Spans
import ScopedStyles.Proofs.Text.Parts
/-!
# Imports in code

A keyword that the scan reports belongs to code, unless JavaScript does not end a lexeme in front of
it where the scan does: above all a template literal with a literal or a comment in one of its
substitutions, which the scan ends at the first backquote.
-/

namespace ScopedStyles

open Text Statement

namespace Reading

/-- Characters that can open a literal or a comment. -/
def opens : List Char :=
  ['"', '\'', '\x60', '/']

theorem step_of_not_mem {c : Char} (hc : c ∉ opens) : step {} c = {} := by
  simp only [opens, List.mem_cons, List.not_mem_nil, or_false, not_or] at hc
  simp only [step, stepCode, if_neg hc.2.2.2, if_neg (not_or.2 ⟨hc.1, hc.2.1⟩), if_neg hc.2.2.1]
  split
  · rfl
  · split <;> rfl

theorem foldl_of_forall_not_mem {cs : List Char} (hcs : ∀ c ∈ cs, c ∉ opens) :
    cs.foldl step {} = {} := by
  induction cs with
  | nil => rfl
  | cons c cs ih =>
      obtain ⟨hc, hcs⟩ := List.forall_mem_cons.1 hcs
      rw [List.foldl_cons, step_of_not_mem hc, ih hcs]

theorem foldl_specifier {quote : Char} {specifier : List Char} (hquote : quote ∉ specifier)
    (hfeed : '\n' ∉ specifier) (hescape : '\\' ∉ specifier) (hreturn : '\r' ∉ specifier) :
    specifier.foldl step ⟨.string quote, []⟩ = ⟨.string quote, []⟩ := by
  induction specifier with
  | nil => rfl
  | cons c cs ih =>
      simp only [List.mem_cons, not_or] at hquote hfeed hescape hreturn
      rw [List.foldl_cons, step_string_plain (Ne.symm hquote.1) (Ne.symm hescape.1)
        (Ne.symm hfeed.1) (Ne.symm hreturn.1), ih hquote.2 hfeed.2 hescape.2 hreturn.2]

theorem not_mem_opens_of_isBlank {c : Char} (hc : isBlank c = true) : c ∉ opens := by
  intro hmem
  simp only [opens, List.mem_cons, List.not_mem_nil, or_false] at hmem
  rcases hmem with rfl | rfl | rfl | rfl <;> exact absurd hc (by decide)

theorem not_mem_opens_of_lead {clause : Option (List Char)} {lead : List Char}
    (hlead : Import.Lead clause lead) (hclause : ∀ cs ∈ clause, ∀ c ∈ cs, c ∉ opens) :
    ∀ c ∈ lead, c ∉ opens := by
  have hgap {gap : List Char} (h : ∀ c ∈ gap, isAsciiBlank c = true) : ∀ c ∈ gap, c ∉ opens :=
    fun c hc => not_mem_opens_of_isBlank (isBlank_of_isAsciiBlank (h c hc))
  have hkeyword : ∀ c ∈ keyword, c ∉ opens := by simp [keyword, opens]
  have hfrom : ∀ c ∈ fromWord, c ∉ opens := by simp [fromWord, opens]
  cases clause with
  | none =>
      obtain ⟨gap, rfl, hblank⟩ := hlead
      exact List.forall_mem_append.2 ⟨hkeyword, hgap hblank⟩
  | some clause =>
      obtain ⟨inside, gap, rfl, htrim, hblank⟩ := hlead
      obtain ⟨front, back, hsplit, hfront, hback⟩ := exists_trim_append inside
      have hinside : ∀ c ∈ inside, c ∉ opens := by
        rw [hsplit, htrim]
        simp only [List.forall_mem_append]
        exact ⟨⟨fun c hc => not_mem_opens_of_isBlank (hfront c hc), hclause clause rfl⟩,
          fun c hc => not_mem_opens_of_isBlank (hback c hc)⟩
      simp only [List.forall_mem_append]
      exact ⟨⟨⟨hkeyword, hinside⟩, hfrom⟩, hgap hblank⟩

/-- A statement is read as code around a string, if nothing in its clause opens anything and nothing
in its specifier keeps the string open. -/
theorem of_written {text specifier : List Char} {clause : Option (List Char)}
    (h : Import.Written text specifier clause) (hclause : ∀ cs ∈ clause, ∀ c ∈ cs, c ∉ opens)
    (hescape : '\\' ∉ specifier) (hreturn : '\r' ∉ specifier) : of text = {} := by
  obtain ⟨lead, quote, ending, rfl, hlead, hquote, hspecifier, hfeed, hending⟩ := h
  have hopen : step {} quote = ⟨.string quote, []⟩ := by rcases hquote with rfl | rfl <;> rfl
  have hclose : step ⟨.string quote, []⟩ quote = {} := if_pos (.inl rfl)
  have hbehind : ∀ c ∈ ending, c ∉ opens := by
    rcases hending with rfl | ⟨gap, rfl, hgap⟩
    · exact List.forall_mem_nil _
    · refine List.forall_mem_append.2 ⟨fun c hc => ?_, by simp [opens]⟩
      rcases hgap c hc with rfl | rfl <;> decide
  rw [of, List.foldl_append, foldl_of_forall_not_mem (not_mem_opens_of_lead hlead hclause),
    List.foldl_cons, hopen, List.foldl_append,
    foldl_specifier hspecifier hfeed hescape hreturn, List.foldl_cons, hclose,
    foldl_of_forall_not_mem hbehind]

end Reading

/-! ## Lexemes -/

namespace Lexeme

open Reading

/-- What can keep JavaScript from ending a lexeme where the scan does: other ends of lines than a
line feed in a line comment, a carriage return in a literal in quotes, a literal or a comment in a
substitution of a template literal, what opens one of these in the clause of a statement, and a
backslash or a carriage return in its specifier. -/
inductive EndsElsewhere : Lexeme → Prop where
  | comment {body : List Char} {c : Char} (hmem : c ∈ body) (hc : endsLine c = true) :
      EndsElsewhere (comment ('/' :: '/' :: body))
  | quoted {quote : Char} {body : List Char} (hquote : quote = '"' ∨ quote = '\'')
      (hmem : '\r' ∈ body) : EndsElsewhere (literal (quote :: body))
  | template {body : List Char} (hnests : Nests {} ('\x60' :: body)) :
      EndsElsewhere (literal ('\x60' :: body))
  | clause {s : Statement} {clause : List Char} {c : Char} (hclause : s.clause = some clause)
      (hmem : c ∈ clause) (hc : c ∈ opens) : EndsElsewhere (statement s)
  | specifier {s : Statement} (hmem : '\\' ∈ s.specifier ∨ '\r' ∈ s.specifier) :
      EndsElsewhere (statement s)

/-- JavaScript, where it meets the lexeme in code, is not back in code at the end of it. -/
def Misread (lexeme : Lexeme) : Prop :=
  of lexeme.text ≠ {} ∧ lexeme.EndsElsewhere

section

variable {before : Option Char} {c : Char} {cs : List Char}

theorem ready_lineComment (hcs : cs.head? = some '/')
    (hends : ¬ (comment ('/' :: cs.takeWhile (· != '\n'))).EndsElsewhere)
    (hrest : cs.dropWhile (· != '\n') ≠ []) :
    Ready (of ('/' :: cs.takeWhile (· != '\n'))) (cs.dropWhile (· != '\n')) := by
  obtain ⟨body, rfl⟩ := List.head?_eq_some_iff.1 hcs
  have hbody : ∀ c ∈ body.takeWhile (· != '\n'), endsLine c = false := by
    intro c hc
    refine Bool.eq_false_iff.2 fun hline => hends ?_
    rw [List.takeWhile_cons_of_pos (by decide)]
    exact .comment hc hline
  have hof : of ('/' :: ('/' :: body).takeWhile (· != '\n')) = ⟨.lineComment, []⟩ := by
    rw [List.takeWhile_cons_of_pos (by decide)]
    exact foldl_lineComment hbody
  obtain ⟨c, rest, hcons⟩ := List.exists_cons_of_ne_nil hrest
  have hfeed : c = '\n' := by
    have hhead := List.head_dropWhile_not (· != '\n') hrest
    simp only [hcons, List.head_cons, bne_eq_false_iff_eq] at hhead
    exact hhead
  rw [hof, hcons]
  exact .lineComment (congrArg some hfeed)

theorem ready_literal {quote : Char} (hquote : isQuote quote = true)
    (hends : ¬ (literal (quote :: (untilLiteralEnd quote cs).1)).EndsElsewhere)
    (hrest : (untilLiteralEnd quote cs).2 ≠ []) :
    Ready (of (quote :: (untilLiteralEnd quote cs).1)) (untilLiteralEnd quote cs).2 := by
  rcases or_assoc.2 (isQuote_iff.1 hquote) with hquote | rfl
  · have hopen : step {} quote = ⟨.string quote, []⟩ := by rcases hquote with rfl | rfl <;> rfl
    rw [of, List.foldl_cons, hopen]
    exact foldl_untilLiteralEnd hquote (fun hmem => hends (.quoted hquote hmem)) hrest
  · have hnests : ¬ Nests ⟨.template, []⟩ (untilLiteralEnd '\x60' cs).1 :=
      fun h => hends (.template (Nests.of_step (r := {}) h))
    have hof : of ('\x60' :: (untilLiteralEnd '\x60' cs).1) = {} :=
      foldl_untilTemplateEnd .template hnests hrest
    rw [hof]
    exact .code _

theorem of_statement {after rest : List Char} {s : Statement}
    (hread : read? after = some (s, rest)) (hends : ¬ (statement s).EndsElsewhere) :
    of s.text = {} := by
  refine of_written (Import.written_of_read? hread) ?_ ?_ ?_
  · exact fun clause hclause c hmem hc => hends (.clause hclause hmem hc)
  · exact fun hmem => hends (.specifier (.inl hmem))
  · exact fun hmem => hends (.specifier (.inr hmem))

/-- A character of its own opens nothing, unless it is a slash in front of something else. -/
theorem ready_other (hline : ¬ (c = '/' ∧ cs.head? = some '/'))
    (hblock : ¬ (c = '/' ∧ cs.head? = some '*')) (hquote : ¬ isQuote c = true) :
    Ready (of [c]) cs := by
  by_cases hslash : c = '/'
  · subst hslash
    exact .slash (fun h => hline ⟨rfl, h⟩) fun h => hblock ⟨rfl, h⟩
  · have hopens : c ∉ opens := by
      rw [isQuote_iff] at hquote
      simp only [opens, List.mem_cons, List.not_mem_nil, or_false, not_or] at hquote ⊢
      exact ⟨hquote.1, hquote.2.1, hquote.2.2, hslash⟩
    have hof : of [c] = {} := step_of_not_mem hopens
    rw [hof]
    exact .code cs

/-- A lexeme that starts in code ends in code. -/
theorem ready_next (hmisread : ¬ (next before c cs).1.Misread)
    (hrest : (next before c cs).2 ≠ []) :
    Ready (of (next before c cs).1.text) (next before c cs).2 := by
  by_cases hof : of (next before c cs).1.text = {}
  · rw [hof]
    exact .code _
  have hends : ¬ (next before c cs).1.EndsElsewhere := fun h => hmisread ⟨hof, h⟩
  by_cases hline : c = '/' ∧ cs.head? = some '/'
  · obtain ⟨rfl, hcs⟩ := hline
    rw [next_lineComment before hcs] at hends hrest ⊢
    exact ready_lineComment hcs hends hrest
  by_cases hblock : c = '/' ∧ cs.head? = some '*'
  · obtain ⟨rfl, hcs⟩ := hblock
    obtain ⟨cs, rfl⟩ := List.head?_eq_some_iff.1 hcs
    rw [next_blockComment] at hof hrest
    have hopen : false = true → cs.head? ≠ some '/' := by simp
    exact absurd (foldl_untilBlockEnd hopen hrest) hof
  by_cases hquote : isQuote c = true
  · rw [next_literal before hquote] at hends hrest ⊢
    exact ready_literal hquote hends hrest
  rw [next_of_word hline hblock hquote] at hof hends ⊢
  cases hword : wholeWord? keyword before (c :: cs) with
  | none => exact ready_other hline hblock hquote
  | some after =>
      rw [hword] at hof hends
      cases hread : read? after with
      | none =>
          simp only [hread] at hof
          exact absurd rfl hof
      | some found =>
          simp only [hread] at hof hends
          exact absurd (of_statement hread hends) hof

/-- Behind a place that is as good as code, a lexeme is read as it is in code. -/
theorem foldl_text_next (before : Option Char) {r : Reading} (hr : Ready r (c :: cs)) :
    (next before c cs).1.text.foldl step r = of (next before c cs).1.text := by
  obtain ⟨e, es, htext⟩ := List.exists_cons_of_ne_nil (next_text_ne_nil before c cs)
  have happend := next_append before c cs
  rw [htext] at happend
  rw [htext, (List.cons.inj happend).1]
  exact hr.foldl_eq es

end

/-- Behind lexemes that JavaScript does not misread, a lexeme starts in code. -/
theorem ready_of_scan {before : Option Char} {cs : List Char} {front back : List Lexeme}
    {lexeme : Lexeme} {r : Reading} (h : scan before cs = front ++ lexeme :: back)
    (hr : Ready r cs) (hfront : ∀ first ∈ front, ¬ first.Misread) {c : Char} {rest : List Char}
    (htext : cs = front.flatMap text ++ c :: rest) :
    Ready ((front.flatMap text).foldl step r) (c :: rest) := by
  induction front generalizing before cs r with
  | nil =>
      obtain rfl : cs = c :: rest := htext
      exact hr
  | cons first front ih =>
      cases cs with
      | nil => simp [scan] at h
      | cons d ds =>
          rw [scan, List.cons_append] at h
          obtain ⟨rfl, htail⟩ := List.cons.inj h
          obtain ⟨hfirst, hfront⟩ := List.forall_mem_cons.1 hfront
          have hrest : (next before d ds).2 = front.flatMap text ++ c :: rest := by
            rw [List.flatMap_cons, List.append_assoc, ← next_append before d ds] at htext
            exact List.append_cancel_left htext
          have hready := ready_next hfirst (by simp [hrest])
          rw [List.flatMap_cons, List.foldl_append, foldl_text_next before hr]
          exact ih htail hready hfront hrest

end Lexeme

/-! ## Keywords -/

theorem charsBefore_append {front rest : List Char} {c : Char} :
    charsBefore (Utf8.size front) (front ++ c :: rest) = front := by
  induction front with
  | nil => exact if_pos c.utf8Size_pos
  | cons d front ih =>
      have hsize : ¬ Utf8.size (d :: front) < d.utf8Size := by
        rw [Utf8.size_cons]
        omega
      rw [List.cons_append, charsBefore, if_neg hsize, Utf8.size_cons, Nat.add_sub_cancel_left, ih]

namespace Import

open Lexeme

theorem lexemesBefore_total {source : String} {front back : List Lexeme} {lexeme : Lexeme}
    (hscan : Lexeme.scan none source.toList = front ++ lexeme :: back) :
    lexemesBefore source (total byteLength front) = front := by
  obtain ⟨c, cs, -, hnext, -⟩ := scan_split hscan
  rw [lexemesBefore, hscan, inFrontOf_total (byteLength_pos (hnext ▸ next_text_ne_nil _ c cs))]

/-- A reported keyword belongs to code, unless JavaScript misreads a lexeme in front of it. Where
only the last lexeme in front of it may be misread, it belongs to code if and only if JavaScript is
in code behind that lexeme. -/
theorem inCode_or_exists_misread {source : String} {i : Import} (h : i ∈ scan source) :
    (InCode source i.start ∨ ∃ lexeme ∈ lexemesBefore source i.start, lexeme.Misread) ∧
    ∀ front last, lexemesBefore source i.start = front ++ [last] →
      (∀ lexeme ∈ front, ¬ lexeme.Misread) →
        (InCode source i.start ↔ (Reading.of last.text).IsCode) := by
  obtain ⟨before, s, back, hscan, rfl⟩ := mem_imports_iff.1 h
  obtain ⟨c, cs, htext, hnext, -⟩ := scan_split hscan
  have hstart : (s.place (0 + total byteLength before) (1 + total lineFeeds before)).start =
      total byteLength before := Nat.zero_add _
  have hbytes : total byteLength before = Utf8.size (before.flatMap Lexeme.text) :=
    (total_byteLength before).trans (length_encode _)
  have hplace : InCode source (total byteLength before) ↔
      (Reading.of (before.flatMap Lexeme.text)).IsCode := by
    rw [InCode, htext, hbytes, charsBefore_append]
  rw [hstart, lexemesBefore_total hscan, hplace]
  constructor
  · rw [Classical.or_iff_not_imp_right]
    intro hmisread
    have hready := ready_of_scan hscan (.code _)
      (fun lexeme hmem hmis => hmisread ⟨lexeme, hmem, hmis⟩) htext
    obtain ⟨after, hkeyword, -⟩ := next_eq_statement hnext
    exact hready.isCode (by rw [(List.cons.inj hkeyword).1]; decide)
  · rintro front last rfl hfront
    rw [List.append_assoc] at hscan
    obtain ⟨d, ds, htext', hlast, -⟩ := scan_split hscan
    have hready := ready_of_scan hscan (.code _) hfront htext'
    have hread := foldl_text_next ((front.flatMap Lexeme.text).getLast?.or none) hready
    rw [hlast] at hread
    rw [List.flatMap_append, Reading.of, List.foldl_append, List.flatMap_singleton, hread]

/-- A string, a template literal with a substitution and a comment in front of an import. -/
def behindLiterals : String :=
  "'\"';\x60$\x7ba\x7d\x60;/* ' */import b from 'x'"

theorem inCode_behindLiterals :
    (⟨"import b from 'x'", 18, 35, "x", some "b", 1⟩ : Import) ∈ scan behindLiterals ∧
      InCode behindLiterals 18 := by
  have hmem : (⟨"import b from 'x'", 18, 35, "x", some "b", 1⟩ : Import) ∈ scan behindLiterals := by
    decide +kernel
  have hread : ∀ lexeme ∈ lexemesBefore behindLiterals 18, Reading.of lexeme.text = {} := by
    decide +kernel
  refine ⟨hmem, (inCode_or_exists_misread hmem).1.resolve_right ?_⟩
  rintro ⟨lexeme, hlexeme, hof, -⟩
  exact hof (hread lexeme hlexeme)

/-- The template literal in a substitution of another one is taken for code. -/
theorem not_forall_inCode : ¬ ∀ source, ∀ i ∈ scan source, InCode source i.start := by
  intro hcode
  have hmem : (⟨"import a from 'x'", 4, 21, "x", some "a", 1⟩ : Import) ∈
      scan "\x60$\x7b\x60import a from 'x'\x60\x7d\x60" := by
    decide +kernel
  exact absurd (hcode _ _ hmem) (by decide +kernel)

end Import

end ScopedStyles
