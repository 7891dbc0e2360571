import ScopedStyles.Proofs.Import.Fillers
/-!
# Texts that stand alone

Some texts are read the same whatever follows them, and what follows is read as a script of its own:
words other than the keyword, signs, literals that are closed. In front of a script such a text only
moves the imports.
-/

namespace ScopedStyles.Lexeme

open Text Statement

/-- What follows the text is read as a script of its own. The text itself imports nothing, and all
of its line feeds count. -/
def Standalone (text : List Char) : Prop :=
  ∃ lexemes,
    (∀ before, startsWord before = true → ∀ rest,
      scan before (text ++ rest) = lexemes ++ scan none rest) ∧
    ∀ lexeme ∈ lexemes, (∀ s, lexeme ≠ statement s) ∧ lexeme.hiddenLineFeeds = 0

theorem imports_eq_nil {lexemes : List Lexeme} (h : ∀ lexeme ∈ lexemes, ∀ s, lexeme ≠ statement s)
    (offset line : Nat) : imports offset line lexemes = [] := by
  apply List.eq_nil_iff_forall_not_mem.2
  intro i hi
  obtain ⟨front, s, back, rfl, -⟩ := mem_imports_iff.1 hi
  exact h (statement s) (List.mem_append_right _ List.mem_cons_self) s rfl

namespace Standalone

variable {front back text : List Char}

theorem nil : Standalone [] := by
  refine ⟨[], ?_, ?_⟩
  · intro before hbefore rest
    exact scan_of_startsWord hbefore rest
  · intro lexeme hmem
    cases hmem

theorem append (hfront : Standalone front) (hback : Standalone back) :
    Standalone (front ++ back) := by
  obtain ⟨lexemes, hscan, hlexemes⟩ := hfront
  obtain ⟨lexemes', hscan', hlexemes'⟩ := hback
  refine ⟨lexemes ++ lexemes', ?_, ?_⟩
  · intro before hbefore rest
    rw [List.append_assoc, hscan before hbefore, hscan' none rfl, List.append_assoc]
  · intro lexeme hmem
    rcases List.mem_append.1 hmem with hmem | hmem
    · exact hlexemes lexeme hmem
    · exact hlexemes' lexeme hmem

theorem of_piece (p : Piece) (himports : p.imports = []) : Standalone p.text := by
  refine ⟨p.lexemes, ?_, ?_⟩
  · intro before hbefore rest
    exact p.lexemes_append hbefore rest
  · intro lexeme hmem
    refine ⟨?_, p.hiddenLineFeeds_eq_zero lexeme hmem⟩
    rintro s rfl
    cases p with
    | statement => cases himports
    | lineComment | blockComment | literal | plain => simp [Piece.lexemes] at hmem

/-- Characters none of which starts a word, a comment or a literal. -/
theorem plain {run : List Char}
    (hplain : run.all (fun c => !isQuote c && c != '/' && c != 'i') = true)
    (hlast : run.getLast?.any isCut = true) : Standalone run := by
  have hchars : ∀ c ∈ run, (isQuote c = false ∧ c ≠ '/') ∧ c ≠ 'i' := by
    intro c hc
    simpa using List.all_eq_true.1 hplain c hc
  have hword : ¬ keyword <:+: run := by
    intro h
    exact (hchars 'i' (h.subset List.mem_cons_self)).2 rfl
  obtain ⟨last, hlast, hcut⟩ := (Option.any_eq_true _ _).1 hlast
  exact of_piece (.plain run (fun c hc => (hchars c hc).1) hword ⟨last, hlast, hcut⟩) rfl

/-- Imports behind a text that stands alone are found as if they started the script. -/
theorem import_scan (h : Standalone text) (source : String) :
    Import.scan (String.ofList text ++ source) =
      (Import.scan source).map
        (Import.shift (String.ofList text).utf8ByteSize (text.count '\n')) := by
  obtain ⟨lexemes, hscan, hlexemes⟩ := h
  have htext : lexemes.flatMap Lexeme.text = text := by
    have happend := flatMap_text_scan none (text ++ [])
    rwa [hscan none rfl, scan, List.append_nil, List.append_nil] at happend
  have hbytes : total byteLength lexemes = (String.ofList text).utf8ByteSize := by
    rw [total_byteLength, htext, utf8ByteSize_ofList]
  have hfeeds : total lineFeeds lexemes = text.count '\n' := by
    have hcount := total_lineFeeds_add_hiddenLineFeeds lexemes
    have hhidden : total hiddenLineFeeds lexemes = 0 := by
      apply (total_eq_zero_iff _).2
      intro lexeme hmem
      exact (hlexemes lexeme hmem).2
    rwa [htext, hhidden] at hcount
  have himports := imports_eq_nil (fun lexeme hmem => (hlexemes lexeme hmem).1) 0 1
  rw [Import.scan, String.toList_append, String.toList_ofList, hscan none rfl, imports_append,
    himports, imports_shift, hbytes, hfeeds, List.nil_append]
  rfl

end Standalone

/-! ## Words -/

theorem plain_of_isIdentifierChar {c : Char} (h : isIdentifierChar c = true) :
    isQuote c = false ∧ c ≠ '/' := by
  constructor
  · apply Bool.eq_false_iff.2
    intro hquote
    rcases isQuote_iff.1 hquote with rfl | rfl | rfl <;> exact absurd h (by decide)
  · rintro rfl
    exact absurd h (by decide)

section

variable {name : List Char} (hname : ∀ c ∈ name, isIdentifierChar c = true) {stop : Char}
  (hcut : isCut stop = true)

include hname hcut

theorem scan_word {before : Option Char} {rest : List Char}
    (hnone : wholeWord? keyword before (name ++ stop :: rest) = none) :
    scan before (name ++ stop :: rest) =
      (name ++ [stop]).map (fun c => other [c]) ++ scan none rest := by
  induction name generalizing before with
  | nil =>
      have hplain : isQuote stop = false ∧ stop ≠ '/' := by
        simp only [isCut, isAsciiBlank, Bool.or_eq_true, beq_iff_eq] at hcut
        rcases hcut with ((((rfl | rfl) | rfl) | rfl) | rfl) | rfl <;> decide
      rw [List.nil_append] at hnone ⊢
      have hnext := next_other hplain.2 (Bool.eq_false_iff.1 hplain.1) hnone
      rw [scan_cons_of_next hnext, Lexeme.text, List.getLast?_singleton,
        scan_of_startsWord (startsWord_of_isCut hcut)]
      rfl
  | cons c cs ih =>
      obtain ⟨hc, hcs⟩ := List.forall_mem_cons.1 hname
      obtain ⟨hquote, hslash⟩ := plain_of_isIdentifierChar hc
      rw [List.cons_append] at hnone ⊢
      have hnext := next_other hslash (Bool.eq_false_iff.1 hquote) hnone
      have hinside : startsWord (some c) = false := by simp [startsWord, hc]
      rw [scan_cons_of_next hnext, Lexeme.text, List.getLast?_singleton,
        ih hcs (wholeWord?_of_not_startsWord hinside _ _)]
      rfl

/-- A word other than the keyword, with the character that ends it. -/
theorem Standalone.word (hne : name ≠ keyword) : Standalone (name ++ [stop]) := by
  have hkeyword : ∀ c ∈ keyword, isIdentifierChar c = true := List.all_eq_true.1 (by decide)
  have hends (rest : List Char) : endsWord (stop :: rest) = true := by
    have hstarts := startsWord_of_isCut hcut
    simp only [startsWord, Option.all_some, Bool.and_eq_true] at hstarts
    exact hstarts.1
  refine ⟨(name ++ [stop]).map fun c => other [c], ?_, ?_⟩
  · intro before _ rest
    rw [List.append_assoc, List.singleton_append]
    exact scan_word hname hcut (wholeWord?_of_ne hkeyword hname hne (hends rest) before)
  · intro lexeme hmem
    obtain ⟨c, -, rfl⟩ := List.mem_map.1 hmem
    exact ⟨fun s => by simp, rfl⟩

end

end ScopedStyles.Lexeme
