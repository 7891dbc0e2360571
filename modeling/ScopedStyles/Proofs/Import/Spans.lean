import ScopedStyles.Proofs.Import.ByteScan.Agreement
import ScopedStyles.Proofs.Text.Split
/-!
# Where imports stand

Every import that the scan finds is written in the script between its two offsets, as a statement
of the grammar, and no two of them overlap.
-/

namespace ScopedStyles.Import

open Text Statement Lexeme ByteScan

/-! ## How a statement is written -/

/-- What stands in front of the specifier's opening quote: the keyword and, if a clause is bound,
the clause with its `from`. -/
def Lead (clause : Option (List Char)) (lead : List Char) : Prop :=
  match clause with
  | none => ∃ gap, lead = keyword ++ gap ∧ ∀ c ∈ gap, isAsciiBlank c = true
  | some clause => ∃ inside gap, lead = keyword ++ inside ++ fromWord ++ gap ∧
      trim inside = clause ∧ ∀ c ∈ gap, isAsciiBlank c = true

/-- What stands behind the specifier's closing quote: nothing, or spaces and tabs and a `;`. -/
def Ending (ending : List Char) : Prop :=
  ending = [] ∨ ∃ gap, ending = gap ++ [';'] ∧ ∀ c ∈ gap, c = ' ' ∨ c = '\t'

/-- `text` imports `specifier` under `clause`. -/
def Written (text specifier : List Char) (clause : Option (List Char)) : Prop :=
  ∃ lead quote ending, text = lead ++ quote :: (specifier ++ quote :: ending) ∧
    Lead clause lead ∧ (quote = '"' ∨ quote = '\'') ∧ quote ∉ specifier ∧ '\n' ∉ specifier ∧
    Ending ending

/-- `i` stands in `source` between its offsets, as a word `import` and what it imports. -/
structure StandsIn (source : String) (i : Import) : Prop where
  start_lt_stop : i.start < i.stop
  stop_le : i.stop ≤ source.utf8ByteSize
  start_valid : (⟨i.start⟩ : String.Pos.Raw).IsValid source
  stop_valid : (⟨i.stop⟩ : String.Pos.Raw).IsValid source
  text_eq : slice source i.start i.stop = .ok i.text
  word : ∃ after, i.text.toList = keyword ++ after ∧ endsWord after = true
  before : ∀ b, 0 < i.start → (ByteScan.bytesOf source)[i.start - 1]? = some b →
    ByteScan.isIdentifierByte b = false ∧ b ≠ '.'.toUInt8
  written : Written i.text.toList i.specifier.toList (i.clause.map String.toList)
  binds : ∀ clause, i.clause = some clause → Binds clause.toList

theorem exists_ending (tail : List Char) :
    ∃ ending, tail = ending ++ afterSemicolon tail ∧ Ending ending := by
  unfold afterSemicolon
  split
  · next rest hrest =>
      have hsplit := List.takeWhile_append_dropWhile (p := fun c => c == ' ' || c == '\t')
        (l := tail)
      rw [hrest] at hsplit
      refine ⟨tail.takeWhile (fun c => c == ' ' || c == '\t') ++ [';'], ?_, .inr ⟨_, rfl, ?_⟩⟩
      · rw [List.append_assoc, List.singleton_append, hsplit]
      · intro c hc
        have hgap := List.mem_takeWhile_imp hc
        simpa using hgap
  · exact ⟨[], rfl, .inl rfl⟩

theorem written_of_read? {after rest : List Char} {s : Statement}
    (h : read? after = some (s, rest)) :
    Written s.text s.specifier s.clause := by
  obtain ⟨tail, hreads, hrest, htext⟩ := read?_eq_some_iff.1 h
  obtain ⟨ending, htail, hending⟩ := exists_ending tail
  rw [← hrest] at htail
  have hgap : ∀ cs : List Char, ∀ c ∈ cs.takeWhile isAsciiBlank, isAsciiBlank c = true :=
    fun _ _ => List.mem_takeWhile_imp
  have hbody := List.takeWhile_append_dropWhile (p := isAsciiBlank) (l := after)
  have happend := read?_append h
  rw [← hbody] at happend
  -- The cases of `Reads` fix the body and the clause, so neither may be tied to `after` or `s`.
  revert hreads happend
  generalize after.dropWhile isAsciiBlank = body
  generalize s.clause = clause
  intro hreads happend
  cases hreads with
  | bare quoted =>
      obtain ⟨quote, hquote, rfl, hinside⟩ := quoted
      refine ⟨keyword ++ after.takeWhile isAsciiBlank, quote, ending, ?_, ⟨_, rfl, hgap after⟩,
        hquote, hinside.1, hinside.2, hending⟩
      rw [htail] at happend
      refine List.append_cancel_right (happend.trans ?_)
      simp only [List.append_assoc, List.cons_append]
  | bound starts runs nonempty binds quoted =>
      rename_i inside behind
      obtain ⟨quote, hquote, hbehind, hinside⟩ := quoted
      have hsplit := List.takeWhile_append_dropWhile (p := isAsciiBlank) (l := behind)
      refine ⟨keyword ++ (after.takeWhile isAsciiBlank ++ inside) ++ fromWord ++
        behind.takeWhile isAsciiBlank, quote, ending, ?_, ⟨_, _, rfl, ?_, hgap behind⟩,
        hquote, hinside.1, hinside.2, hending⟩
      · rw [← hsplit, hbehind, htail] at happend
        refine List.append_cancel_right (happend.trans ?_)
        simp only [List.append_assoc, List.cons_append]
      · exact trim_blanks_append fun c hc => isBlank_of_isAsciiBlank (hgap after c hc)

theorem binds_of_read? {after rest clause : List Char} {s : Statement}
    (h : read? after = some (s, rest)) (hclause : s.clause = some clause) : Binds clause := by
  obtain ⟨tail, hreads, -⟩ := read?_eq_some_iff.1 h
  rw [hclause] at hreads
  revert hreads
  generalize after.dropWhile isAsciiBlank = body
  intro hreads
  cases hreads with
  | bound _ _ nonempty binds _ => exact ⟨nonempty, trim_trim _, binds⟩

/-! ## Statements at their places -/

/-- Where an import comes from: a statement read behind a keyword that stands in the script. -/
theorem exists_read_of_mem_scan {source : String} {i : Import} (h : i ∈ scan source) :
    ∃ before after s rest, Stands source.toList before (keyword ++ after) ∧
      startsWord before = true ∧ endsWord after = true ∧ read? after = some (s, rest) ∧
      i = s.place (offset source.toList (keyword ++ after)) i.line := by
  obtain ⟨front, s, back, hscan, hi⟩ := mem_imports_iff.1 h
  obtain ⟨c, cs, htext, hnext, -⟩ := scan_split hscan
  obtain ⟨after, hkeyword, hstarts, hend, hread⟩ := next_eq_statement hnext
  have hoffset : offset source.toList (keyword ++ after) = 0 + total byteLength front := by
    rw [← hkeyword, htext, offset_append, total_byteLength, Nat.zero_add]
  refine ⟨_, after, s, _, ⟨front.flatMap Lexeme.text, hkeyword ▸ htext, ?_⟩, hstarts, hend, hread,
    ?_⟩
  · exact Option.or_none
  · rw [hoffset]
    rw [hi]
    rfl

theorem standsIn_of_mem_scan {source : String} {i : Import} (h : i ∈ scan source) :
    StandsIn source i := by
  obtain ⟨before, after, s, rest, hstands, hstarts, hend, hread, hi⟩ := exists_read_of_mem_scan h
  have hsplit := read?_append hread
  have hsuffix : s.text ++ rest <:+ source.toList := hsplit.symm ▸ hstands.suffix
  have hrest : rest <:+ source.toList := (List.suffix_append _ _).trans hsuffix
  have hstart : i.start = offset source.toList (s.text ++ rest) := by
    rw [hi, hsplit]
    rfl
  have hstop : i.stop = offset source.toList rest := by
    rw [hi]
    exact place_stop hstands.suffix hread _
  have htext : i.text = String.ofList s.text := by rw [hi]; rfl
  have hspecifier : i.specifier.toList = s.specifier := by
    rw [hi]
    exact String.toList_ofList
  have hclause : i.clause.map String.toList = s.clause := by
    rw [hi]
    simp [place]
  have hpos : 0 < (Utf8.encode s.text).length := by
    rw [read?_text hread, Utf8.encode_append, List.length_append]
    exact Nat.add_pos_left (by decide) _
  have hbytes := offset_advance hsuffix
  constructor
  case start_lt_stop => omega
  case stop_le =>
      have hle := offset_le source.toList rest
      rw [← utf8ByteSize_ofList, String.ofList_toList] at hle
      omega
  case start_valid =>
      have hvalid := isValid_offset hsuffix
      rwa [String.ofList_toList, ← hstart] at hvalid
  case stop_valid =>
      have hvalid := isValid_offset hrest
      rwa [String.ofList_toList, ← hstop] at hvalid
  case text_eq =>
      have hslice := slice_offset hsuffix
      rwa [String.ofList_toList, ← hstart, ← hstop, ← htext] at hslice
  case word =>
      refine ⟨upTo after rest, ?_, ?_⟩
      · rw [htext, String.toList_ofList, read?_text hread]
      · rw [← upTo_append (read?_suffix hread)] at hend
        exact endsWord_of_append hend
  case before =>
      intro b hpos hget
      rw [hstart, hsplit] at hpos hget
      exact byte_before_of_startsWord hstands hstarts hpos hget
  case written =>
      rw [htext, String.toList_ofList, hspecifier, hclause]
      exact written_of_read? hread
  case binds =>
      intro clause hsome
      rw [hsome] at hclause
      exact binds_of_read? hread hclause.symm

theorem pairwise_imports (offset line : Nat) (lexemes : List Lexeme) :
    (imports offset line lexemes).Pairwise (fun i j => i.stop ≤ j.start) := by
  induction lexemes generalizing offset line with
  | nil => exact List.Pairwise.nil
  | cons lexeme lexemes ih =>
      cases lexeme with
      | comment _ | literal _ | other _ => exact ih _ _
      | statement s =>
          refine List.pairwise_cons.2 ⟨?_, ih _ _⟩
          intro j hj
          obtain ⟨front, s', back, -, rfl⟩ := mem_imports_iff.1 hj
          have hlength : (statement s).byteLength = (String.ofList s.text).utf8ByteSize := by
            rw [byteLength_eq, utf8ByteSize_ofList]
            rfl
          rw [hlength]
          exact Nat.le_add_right _ _

/-- The scan cuts texts only where characters start, whatever the script is, and what it finds are
statements that stand in the script one behind the other. -/
theorem scan_sound (source : String) :
    ByteScan.scan source = .ok (scan source) ∧ (∀ i ∈ scan source, StandsIn source i) ∧
      (scan source).Pairwise (fun i j => i.stop ≤ j.start) :=
  ⟨scan_eq source, fun _ => standsIn_of_mem_scan, pairwise_imports 0 1 _⟩

end ScopedStyles.Import
