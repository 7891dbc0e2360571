import ScopedStyles.Proofs.Import.Lexemes
/-!
# Line numbers

An import's line is one more than the number of line feeds in front of it, except that a line feed
right behind a backslash in a literal is not counted.
-/

namespace ScopedStyles.Lexeme

open Text Statement

/-- The line feeds of a literal that a backslash takes with it. -/
def escapedLineFeeds : List Char → Nat
  | [] => 0
  | '\\' :: [] => 0
  | '\\' :: c :: cs => (if c = '\n' then 1 else 0) + escapedLineFeeds cs
  | _ :: cs => escapedLineFeeds cs

/-- The line feeds of a lexeme that do not advance the line number. -/
def hiddenLineFeeds : Lexeme → Nat
  | literal text => escapedLineFeeds text
  | _ => 0

/-- The lexemes in front of a byte offset. -/
def inFrontOf (offset : Nat) : List Lexeme → List Lexeme
  | [] => []
  | lexeme :: rest =>
    if offset < lexeme.byteLength then []
    else lexeme :: inFrontOf (offset - lexeme.byteLength) rest

theorem escapedLineFeeds_cons {c : Char} (hc : c ≠ '\\') (cs : List Char) :
    escapedLineFeeds (c :: cs) = escapedLineFeeds cs := by
  rw [escapedLineFeeds.eq_def]
  split <;> simp_all

theorem literalLineFeeds_add_escapedLineFeeds (cs : List Char) :
    literalLineFeeds cs + escapedLineFeeds cs = cs.count '\n' := by
  fun_induction literalLineFeeds cs with
  | case1 => rfl
  | case2 => rfl
  | case3 c cs ih =>
      have hslash : ¬ '\\' = '\n' := by decide
      rw [escapedLineFeeds, List.count_cons, List.count_cons]
      simp only [beq_iff_eq, if_neg hslash]
      omega
  | case4 c cs hlast hmore ih =>
      have hplain := ne_backslash hlast hmore
      rw [escapedLineFeeds_cons hplain, List.count_cons]
      simp only [beq_iff_eq]
      omega

theorem lineFeeds_add_hiddenLineFeeds (lexeme : Lexeme) :
    lexeme.lineFeeds + lexeme.hiddenLineFeeds = lexeme.text.count '\n' := by
  cases lexeme with
  | literal text => exact literalLineFeeds_add_escapedLineFeeds text
  | comment _ | statement _ | other _ => rfl

theorem total_lineFeeds_add_hiddenLineFeeds (lexemes : List Lexeme) :
    total lineFeeds lexemes + total hiddenLineFeeds lexemes =
      (lexemes.flatMap text).count '\n' := by
  induction lexemes with
  | nil => rfl
  | cons lexeme lexemes ih =>
      have hlexeme := lineFeeds_add_hiddenLineFeeds lexeme
      rw [total_cons, total_cons, List.flatMap_cons, List.count_append]
      omega

theorem inFrontOf_total {front back : List Lexeme} {lexeme : Lexeme}
    (hpos : 0 < lexeme.byteLength) :
    inFrontOf (total byteLength front) (front ++ lexeme :: back) = front := by
  induction front with
  | nil => exact if_pos hpos
  | cons first front ih =>
      have hfirst : ¬ total byteLength (first :: front) < first.byteLength := by
        rw [total_cons]
        omega
      rw [List.cons_append, inFrontOf, if_neg hfirst, total_cons, Nat.add_sub_cancel_left, ih]

end ScopedStyles.Lexeme

namespace ScopedStyles.Import

open Text Lexeme

/-- The line feeds in front of a byte offset. -/
def lineFeedsBefore (source : String) (offset : Nat) : Nat :=
  ((Utf8.encode source.toList).take offset).count '\n'.toUInt8

/-- The lexemes in front of a byte offset. -/
def lexemesBefore (source : String) (offset : Nat) : List Lexeme :=
  inFrontOf offset (Lexeme.scan none source.toList)

theorem line_add_hiddenLineFeeds {source : String} {i : Import} (h : i ∈ scan source) :
    i.line + total hiddenLineFeeds (lexemesBefore source i.start) =
      1 + lineFeedsBefore source i.start := by
  obtain ⟨front, s, back, hscan, rfl⟩ := mem_imports_iff.1 h
  obtain ⟨c, cs, -, hnext, -⟩ := scan_split hscan
  have hpos : 0 < (statement s).byteLength := byteLength_pos (hnext ▸ next_text_ne_nil _ c cs)
  have hfront : (Utf8.encode source.toList).take (total byteLength front) =
      Utf8.encode (front.flatMap Lexeme.text) := by
    have htext := flatMap_text_scan none source.toList
    rw [hscan, List.flatMap_append] at htext
    rw [← htext, Utf8.encode_append, total_byteLength, List.take_left]
  have hstart : (s.place (0 + total byteLength front) (1 + total lineFeeds front)).start =
      total byteLength front := Nat.zero_add _
  have hline : (s.place (0 + total byteLength front) (1 + total lineFeeds front)).line =
      1 + total lineFeeds front := rfl
  rw [lineFeedsBefore, lexemesBefore, hline, hstart, hfront, hscan, inFrontOf_total hpos,
    count_encode (by decide), ← total_lineFeeds_add_hiddenLineFeeds, Nat.add_assoc]

/-- An import's line falls behind by the line feeds that backslashes take with them in the literals
in front of it, so it is right exactly where there are none. -/
theorem line_eq_iff_forall_hiddenLineFeeds {source : String} {i : Import} (h : i ∈ scan source) :
    i.line + total hiddenLineFeeds (lexemesBefore source i.start) =
        1 + lineFeedsBefore source i.start ∧
      (i.line = 1 + lineFeedsBefore source i.start ↔
        ∀ lexeme ∈ lexemesBefore source i.start, lexeme.hiddenLineFeeds = 0) := by
  have hline := line_add_hiddenLineFeeds h
  refine ⟨hline, ?_⟩
  rw [← total_eq_zero_iff]
  omega

theorem line_eq_behind_template :
    (⟨"import 'x'", 4, 14, "x", none, 2⟩ : Import) ∈ scan "\x60\n\x60;import 'x'" ∧
      2 = 1 + lineFeedsBefore "\x60\n\x60;import 'x'" 4 := by
  have hmem : (⟨"import 'x'", 4, 14, "x", none, 2⟩ : Import) ∈ scan "\x60\n\x60;import 'x'" := by
    decide +kernel
  refine ⟨hmem, ?_⟩
  apply (line_eq_iff_forall_hiddenLineFeeds hmem).2.2
  decide +kernel

/-- A template literal with a line feed behind a backslash puts the next import a line too high. -/
theorem not_forall_line_eq :
    ¬ ∀ source, ∀ i ∈ scan source, i.line = 1 + lineFeedsBefore source i.start := by
  intro hline
  have hmem : (⟨"import a from 'x'", 5, 22, "x", some "a", 2⟩ : Import) ∈
      scan "\x60\\\n\x60\nimport a from 'x'" := by
    decide +kernel
  have h := hline _ _ hmem
  have hcount : lineFeedsBefore "\x60\\\n\x60\nimport a from 'x'" 5 = 2 := by decide +kernel
  rw [hcount] at h
  exact absurd h (by decide)

end ScopedStyles.Import
