import ScopedStyles.Import.Scan
import ScopedStyles.Proofs.Import.Grammar
import ScopedStyles.Proofs.Text.Bytes
/-!
# Lexemes at their places

An import's offset and line come from the lexemes in front of it. This module says what stands in
front of a lexeme and what is read there, so that a fact about a single step of the scan becomes a
fact about every import of a script.
-/

namespace ScopedStyles.Lexeme

open Text Statement

section

variable (measure : Lexeme → Nat)

/-- A measure of several lexemes together. -/
def total : List Lexeme → Nat
  | [] => 0
  | lexeme :: lexemes => measure lexeme + total lexemes

@[simp] theorem total_nil : total measure [] = 0 := rfl

@[simp] theorem total_cons (lexeme : Lexeme) (lexemes : List Lexeme) :
    total measure (lexeme :: lexemes) = measure lexeme + total measure lexemes := rfl

theorem total_eq_zero_iff {lexemes : List Lexeme} :
    total measure lexemes = 0 ↔ ∀ lexeme ∈ lexemes, measure lexeme = 0 := by
  induction lexemes with
  | nil => simp
  | cons lexeme lexemes ih => rw [total_cons, Nat.add_eq_zero_iff, ih, List.forall_mem_cons]

end

theorem byteLength_eq (lexeme : Lexeme) :
    lexeme.byteLength = (Utf8.encode lexeme.text).length :=
  (length_encode lexeme.text).symm

theorem byteLength_pos {lexeme : Lexeme} (h : lexeme.text ≠ []) : 0 < lexeme.byteLength := by
  obtain ⟨c, cs, htext⟩ := List.exists_cons_of_ne_nil h
  rw [byteLength, htext, Utf8.size_cons]
  exact Nat.add_pos_left c.utf8Size_pos _

theorem total_byteLength (lexemes : List Lexeme) :
    total byteLength lexemes = (Utf8.encode (lexemes.flatMap text)).length := by
  induction lexemes with
  | nil => rfl
  | cons lexeme lexemes ih =>
      rw [total_cons, List.flatMap_cons, Utf8.encode_append, List.length_append, ih,
        byteLength_eq]

/-! ## The imports among lexemes -/

theorem imports_append (offset line : Nat) (front back : List Lexeme) :
    imports offset line (front ++ back) =
      imports offset line front ++
        imports (offset + total byteLength front) (line + total lineFeeds front) back := by
  induction front generalizing offset line with
  | nil => simp [imports]
  | cons lexeme front ih =>
      rw [List.cons_append]
      cases lexeme <;>
        simp only [imports, ih, total_cons, Nat.add_assoc, List.cons_append]

/-- An import is a statement among the lexemes, placed behind what stands in front of it. -/
theorem mem_imports_iff {offset line : Nat} {lexemes : List Lexeme} {i : Import} :
    i ∈ imports offset line lexemes ↔
      ∃ front s back, lexemes = front ++ statement s :: back ∧
        i = s.place (offset + total byteLength front) (line + total lineFeeds front) := by
  induction lexemes generalizing offset line with
  | nil => simp [imports]
  | cons lexeme lexemes ih =>
      have later {o l : Nat} (ho : o = offset + lexeme.byteLength)
          (hl : l = line + lexeme.lineFeeds) (h : i ∈ imports o l lexemes) :
          ∃ front s back, lexeme :: lexemes = front ++ statement s :: back ∧
            i = s.place (offset + total byteLength front) (line + total lineFeeds front) := by
        obtain ⟨front, s, back, rfl, rfl⟩ := ih.1 h
        refine ⟨lexeme :: front, s, back, rfl, ?_⟩
        rw [total_cons, total_cons, ho, hl, Nat.add_assoc, Nat.add_assoc]
      constructor
      · intro h
        cases lexeme with
        | statement s =>
            rcases List.mem_cons.1 h with rfl | h
            · exact ⟨[], s, lexemes, rfl, rfl⟩
            · exact later rfl rfl h
        | comment _ | literal _ | other _ => exact later rfl rfl h
      · rintro ⟨front, s, back, heq, rfl⟩
        rw [heq, imports_append]
        exact List.mem_append_right _ List.mem_cons_self

/-! ## What starts a lexeme -/

/-- What is left of a literal's characters behind the cases of a backslash. -/
theorem ne_backslash {c : Char} {cs : List Char} (hlast : c = '\\' → cs = [] → False)
    (hmore : ∀ d ds, c = '\\' → cs = d :: ds → False) : c ≠ '\\' := by
  rintro rfl
  cases cs with
  | nil => exact hlast rfl rfl
  | cons d ds => exact hmore d ds rfl rfl

theorem isQuote_iff {c : Char} : isQuote c = true ↔ c = '"' ∨ c = '\'' ∨ c = '\x60' := by
  simp only [isQuote, Bool.or_eq_true, beq_iff_eq, or_assoc]

theorem ne_of_isQuote {quote c : Char} (hquote : isQuote quote = true) (hc : isQuote c = false) :
    quote ≠ c := by
  rintro rfl
  rw [hquote] at hc
  cases hc

theorem next_lineComment (before : Option Char) {cs : List Char} (hcs : cs.head? = some '/') :
    next before '/' cs =
      (comment ('/' :: cs.takeWhile (· != '\n')), cs.dropWhile (· != '\n')) := by
  rw [next, if_pos (by simp [hcs])]

theorem next_blockComment (before : Option Char) (cs : List Char) :
    next before '/' ('*' :: cs) =
      (comment ('/' :: '*' :: (untilBlockEnd cs).1), (untilBlockEnd cs).2) := by
  rw [next, if_neg (by simp), if_pos (by simp)]
  rfl

theorem next_literal (before : Option Char) {quote : Char} (hquote : isQuote quote = true)
    (cs : List Char) :
    next before quote cs =
      (literal (quote :: (untilLiteralEnd quote cs).1), (untilLiteralEnd quote cs).2) := by
  have hslash : quote ≠ '/' := ne_of_isQuote hquote (by decide)
  rw [next, if_neg (by simp [hslash]), if_neg (by simp [hslash]), if_pos hquote]

theorem next_of_word {before : Option Char} {c : Char} {cs : List Char}
    (hline : ¬ (c = '/' ∧ cs.head? = some '/')) (hblock : ¬ (c = '/' ∧ cs.head? = some '*'))
    (hquote : ¬ isQuote c = true) :
    next before c cs =
      match wholeWord? keyword before (c :: cs) with
      | none => (other [c], cs)
      | some after =>
        match read? after with
        | none => (other keyword, after)
        | some (s, rest) => (statement s, rest) := by
  rw [next, if_neg (by simpa using hline), if_neg (by simpa using hblock)]
  exact if_neg hquote

theorem next_other {before : Option Char} {c : Char} {cs : List Char} (hslash : c ≠ '/')
    (hquote : ¬ isQuote c = true) (hword : wholeWord? keyword before (c :: cs) = none) :
    next before c cs = (other [c], cs) := by
  rw [next_of_word (not_and_of_not_left _ hslash) (not_and_of_not_left _ hslash) hquote, hword]

/-- A statement among the lexemes is what is read behind a keyword. -/
theorem next_eq_statement {before : Option Char} {c : Char} {cs : List Char} {s : Statement}
    (h : (next before c cs).1 = statement s) :
    ∃ after, c :: cs = keyword ++ after ∧ startsWord before = true ∧ endsWord after = true ∧
      read? after = some (s, (next before c cs).2) := by
  by_cases hline : c = '/' ∧ cs.head? = some '/'
  · rw [next, if_pos (by simpa using hline)] at h
    cases h
  by_cases hblock : c = '/' ∧ cs.head? = some '*'
  · rw [next, if_neg (by simpa using hline), if_pos (by simpa using hblock)] at h
    cases h
  by_cases hquote : isQuote c = true
  · rw [next, if_neg (by simpa using hline), if_neg (by simpa using hblock), if_pos hquote] at h
    cases h
  rw [next_of_word hline hblock hquote] at h ⊢
  cases hword : wholeWord? keyword before (c :: cs) with
  | none =>
      rw [hword] at h
      cases h
  | some after =>
      obtain ⟨htext, hstarts, hend⟩ := wholeWord?_eq_some_iff.1 hword
      refine ⟨after, htext, hstarts, hend, ?_⟩
      rw [hword] at h
      simp only at h ⊢
      cases hread : read? after with
      | none =>
          rw [hread] at h
          cases h
      | some found =>
          rw [hread] at h
          cases h
          rfl

theorem next_of_read? {before : Option Char} {after rest : List Char} {s : Statement}
    (hstarts : startsWord before = true) (hend : endsWord after = true)
    (hread : read? after = some (s, rest)) :
    next before 'i' (keyword.tail ++ after) = (statement s, rest) := by
  have hword : wholeWord? keyword before ('i' :: (keyword.tail ++ after)) = some after :=
    wholeWord?_eq_some_iff.2 ⟨rfl, hstarts, hend⟩
  rw [next_of_word (by simp) (by simp) (by decide), hword]
  simp only [hread]

/-! ## What is read at a lexeme's place -/

/-- In front of what follows a lexeme stands the lexeme's last character, whatever stands in front
of the lexeme itself. -/
theorem getLast?_next_or (before previous : Option Char) (c : Char) (cs : List Char) :
    (next before c cs).1.text.getLast?.or previous = (next before c cs).1.text.getLast? := by
  have hne := next_text_ne_nil before c cs
  cases hlast : (next before c cs).1.text.getLast? with
  | none => exact absurd (List.getLast?_eq_none_iff.1 hlast) hne
  | some _ => rfl

/-- A lexeme of a scan is the next one behind the lexemes in front of it. -/
theorem scan_split {before : Option Char} {cs : List Char} {front back : List Lexeme}
    {lexeme : Lexeme} (h : scan before cs = front ++ lexeme :: back) :
    ∃ c rest, cs = front.flatMap text ++ c :: rest ∧
      (next ((front.flatMap text).getLast?.or before) c rest).1 = lexeme ∧
      scan lexeme.text.getLast? (next ((front.flatMap text).getLast?.or before) c rest).2 =
        back := by
  induction front generalizing before cs with
  | nil =>
      cases cs with
      | nil => simp [scan] at h
      | cons c rest =>
          rw [scan, List.nil_append] at h
          obtain ⟨hhead, htail⟩ := List.cons.inj h
          exact ⟨c, rest, rfl, hhead, hhead ▸ htail⟩
  | cons first front ih =>
      cases cs with
      | nil => simp [scan] at h
      | cons c rest =>
          rw [scan, List.cons_append] at h
          obtain ⟨rfl, htail⟩ := List.cons.inj h
          obtain ⟨c', rest', htext, hnext, hback⟩ := ih htail
          have hlast : (((next before c rest).1 :: front).flatMap text).getLast?.or before =
              (front.flatMap text).getLast?.or (next before c rest).1.text.getLast? := by
            rw [List.flatMap_cons, List.getLast?_append, Option.or_assoc, getLast?_next_or]
          refine ⟨c', rest', ?_, ?_, ?_⟩
          · rw [List.flatMap_cons, List.append_assoc, ← htext, next_append]
          · rw [hlast, hnext]
          · rw [hlast, hback]

end ScopedStyles.Lexeme
