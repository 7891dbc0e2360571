import ScopedStyles.Proofs.Import.Acceptance
import ScopedStyles.Proofs.Import.Pieces
import ScopedStyles.Proofs.Import.Spans
/-!
# Statements taken out of their script

Whether a statement is read behind a keyword, and what it imports, depends on nothing behind the
statement. So the text of an import is a script with this import and no other.
-/

namespace ScopedStyles

open Text

namespace Statement

/-! ## What stands behind a text -/

theorem endsWord_append_congr {tail tail' : List Char} (h : tail.head? = tail'.head?)
    (front : List Char) : endsWord (front ++ tail) = endsWord (front ++ tail') := by
  rw [endsWord, endsWord, List.head?_append, List.head?_append, h]

/-- In a text that is long enough no word is found only because of what stands further behind. -/
theorem wholeWord?_append_congr {word cs tail tail' : List Char} {before : Option Char}
    (hlong : word.length ≤ cs.length) (htail : tail.head? = tail'.head?)
    (h : wholeWord? word before (cs ++ tail) = none) :
    wholeWord? word before (cs ++ tail') = none := by
  refine Option.eq_none_iff_forall_ne_some.2 fun rest hword => ?_
  obtain ⟨hsplit, hstarts, hends⟩ := wholeWord?_eq_some_iff.1 hword
  have hlead : word <+: cs :=
    List.prefix_of_prefix_length_le ⟨rest, hsplit.symm⟩ (List.prefix_append cs tail') hlong
  obtain ⟨mid, rfl⟩ := hlead
  rw [List.append_assoc, List.append_cancel_left_eq] at hsplit
  have hsome : wholeWord? word before (word ++ mid ++ tail) = some (mid ++ tail) := by
    refine wholeWord?_eq_some_iff.2 ⟨List.append_assoc _ _ _, hstarts, ?_⟩
    rw [endsWord_append_congr htail, hsplit]
    exact hends
  rw [h] at hsome
  cases hsome

/-- A clause ends at its `from` whatever follows the character behind the word. -/
theorem RunsTo.of_head? {before : Option Char} {depth used : Nat} {clause tail tail' : List Char}
    (h : RunsTo before depth used clause tail) (htail : tail.head? = tail'.head?) :
    RunsTo before depth used clause tail' := by
  obtain ⟨-, hstarts, hends⟩ := wholeWord?_eq_some_iff.1 h.word
  refine ⟨h.short, h.closed, ?_, ?_⟩
  · rw [← List.nil_append tail, endsWord_append_congr htail] at hends
    exact wholeWord?_eq_some_iff.2 ⟨rfl, hstarts, hends⟩
  · intro front c back hclause hdepth hopen hclose
    obtain ⟨hplain, hnone⟩ := h.goesOn front c back hclause hdepth hopen hclose
    have hlong : fromWord.length ≤ (c :: (back ++ fromWord)).length := by
      simp only [List.length_cons, List.length_append]
      omega
    exact ⟨hplain, wholeWord?_append_congr hlong htail hnone⟩

theorem startsClause_append_congr {front : List Char} (hne : front ≠ []) (tail tail' : List Char) :
    startsClause (front ++ tail) = startsClause (front ++ tail') := by
  rw [startsClause, startsClause, List.head?_append_of_ne_nil _ hne,
    List.head?_append_of_ne_nil _ hne]

/-! ## Reading a statement in front of something else -/

theorem Quoted.exists_front {inside text rest : List Char} (h : Quoted inside text rest) :
    ∃ front, front ≠ [] ∧ text = front ++ rest ∧ ∀ rest', Quoted inside (front ++ rest') rest' := by
  obtain ⟨quote, hquote, rfl, hinside⟩ := h
  refine ⟨quote :: (inside ++ [quote]), List.cons_ne_nil _ _, by simp, fun rest' => ?_⟩
  exact ⟨quote, hquote, by simp, hinside⟩

/-- What is read ends with the specifier, and does not depend on what follows. -/
theorem Reads.exists_front {body specifier rest : List Char} {clause : Option (List Char)}
    (h : Reads body specifier clause rest) :
    ∃ front, front ≠ [] ∧ body = front ++ rest ∧
      ∀ rest', Reads (front ++ rest') specifier clause rest' := by
  cases h with
  | bare quoted =>
      obtain ⟨front, hne, hbody, hfront⟩ := quoted.exists_front
      exact ⟨front, hne, hbody, fun rest' => .bare (hfront rest')⟩
  | bound starts runs nonempty binds quoted =>
      rename_i inside tail
      obtain ⟨front, hne, htail, hfront⟩ := quoted.exists_front
      obtain ⟨gap, rfl, hdrop⟩ := exists_dropWhile_append hne htail
      have hlead : inside ++ fromWord ≠ [] := by simp [fromWord]
      have hbehind : gap ++ front ≠ [] := by simp [hne]
      refine ⟨inside ++ fromWord ++ (gap ++ front), by simp [hne],
        by simp only [List.append_assoc], fun rest' => ?_⟩
      have hhead : (gap ++ front ++ rest).head? = (gap ++ front ++ rest').head? := by
        rw [List.head?_append_of_ne_nil _ hbehind, List.head?_append_of_ne_nil _ hbehind]
      rw [startsClause_append_congr hlead _ (gap ++ front ++ rest')] at starts
      have hquoted : Quoted specifier ((gap ++ front ++ rest').dropWhile isAsciiBlank) rest' := by
        rw [hdrop]
        exact hfront rest'
      rw [List.append_assoc (inside ++ fromWord)]
      exact .bound starts (runs.of_head? hhead) nonempty binds hquoted

theorem afterSemicolon_ending {ending : List Char} (h : Import.Ending ending) :
    afterSemicolon ending = [] := by
  rcases h with rfl | ⟨gap, rfl, hgap⟩
  · rfl
  · exact afterSemicolon_gap_append hgap

/-- A statement is read the same when nothing follows it. -/
theorem read?_upTo {after rest : List Char} {s : Statement} (h : read? after = some (s, rest)) :
    read? (upTo after rest) = some (s, []) := by
  obtain ⟨tail, hreads, hrest, htext⟩ := read?_eq_some_iff.1 h
  obtain ⟨front, hne, hbody, hfront⟩ := hreads.exists_front
  obtain ⟨ending, htail, hending⟩ := Import.exists_ending tail
  obtain ⟨gap, hafter, hdrop⟩ := exists_dropWhile_append hne hbody
  have hupTo : upTo after rest = gap ++ front ++ ending := by
    have hsplit : after = gap ++ front ++ ending ++ rest := by
      rw [hafter, hrest, List.append_assoc _ ending, ← htail]
    rw [hsplit, upTo_append_right]
  refine read?_eq_some_iff.2 ⟨ending, ?_, (afterSemicolon_ending hending).symm, ?_⟩
  · rw [hupTo, hdrop]
    exact hfront ending
  · have hwhole := upTo_append_right (upTo after rest) []
    rw [List.append_nil] at hwhole
    rw [htext, hwhole]

end Statement

open Statement Lexeme

/-! ## Imports on their own -/

/-- The text of an import, wherever it is found, is a script with this import alone. -/
theorem Import.scan_text_of_mem_scan {source : String} {i : Import} (h : i ∈ scan source) :
    scan i.text = [{ i with start := 0, stop := i.text.utf8ByteSize, line := 1 }] := by
  obtain ⟨before, after, s, rest, -, -, hends, hread, hi⟩ := exists_read_of_mem_scan h
  have htext : i.text.toList = keyword ++ upTo after rest := by
    rw [hi, ← read?_text hread]
    exact String.toList_ofList
  have hends : endsWord (upTo after rest) = true := by
    rw [← upTo_append (read?_suffix hread)] at hends
    exact endsWord_of_append hends
  have hnext : next none 'i' (keyword.tail ++ upTo after rest) = (statement s, []) :=
    next_of_read? rfl hends (read?_upTo hread)
  have hscan : Lexeme.scan none i.text.toList = [statement s] := by
    rw [htext]
    refine (scan_cons_of_next hnext).trans ?_
    rw [Lexeme.scan]
  have hplace : s.place 0 1 = { i with start := 0, stop := i.text.utf8ByteSize, line := 1 } := by
    rw [hi]
    simp [place]
  rw [scan, hscan, ← hplace]
  rfl

/-- An import in the middle of a line, behind what looks like one. -/
def Import.behindComment : Import where
  text := "import a, \x7b from \x7d from './x'\t;"
  start := 12
  stop := 43
  specifier := "./x"
  clause := some "a, \x7b from \x7d"
  line := 2

theorem Import.scan_text_of_mem_scan_behindComment :
    behindComment ∈ scan "/* import\n*/import a, \x7b from \x7d from './x'\t;from 'y'" ∧
      scan behindComment.text = [⟨behindComment.text, 0, 31, "./x", behindComment.clause, 1⟩] := by
  have hmem : behindComment ∈
      scan "/* import\n*/import a, \x7b from \x7d from './x'\t;from 'y'" := by
    decide +kernel
  exact ⟨hmem, scan_text_of_mem_scan hmem⟩

end ScopedStyles
