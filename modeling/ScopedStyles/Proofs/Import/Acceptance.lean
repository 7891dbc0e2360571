import ScopedStyles.Proofs.Import.ByteScan.Statement
/-!
# Which statements are read

A whole word `import` starts a statement in two cases: a quoted specifier stands behind it, or a
clause, which runs up to the first whole word `from` outside braces, and a quoted specifier behind
that. `FirstFrom` says where this word is by comparing all the places where it could be, and the
reader, which goes through the text once, is shown to stop at the same place.
-/

namespace ScopedStyles.Statement

open Text

/-! ## The first `from` -/

/-- The first whole word `from` outside braces stands in `body` behind `inside` and in front of
`behind`. It is near, and what ends a clause does not stand outside braces in front of it. -/
structure FirstFrom (body inside behind : List Char) : Prop where
  split : body = inside ++ fromWord ++ behind
  starts : startsWord inside.getLast? = true
  ends : endsWord behind = true
  outside : braceDepth 0 inside = 0
  near : Utf8.size inside < 1000
  first : ∀ front back, body = front ++ fromWord ++ back → front.length < inside.length →
    startsWord front.getLast? = true → endsWord back = true → 0 < braceDepth 0 front
  plain : ∀ front c back, inside = front ++ c :: back → c ∈ [';', '"', '\'', '\x60', '('] →
    0 < braceDepth 0 front

variable {body inside behind : List Char}

theorem FirstFrom.goesOn (h : FirstFrom body inside behind) {front back : List Char} {c : Char}
    (hinside : inside = front ++ c :: back) :
    GoesOn front.getLast? (braceDepth 0 front) c (back ++ fromWord ++ behind) := by
  intro hdepth _ _
  constructor
  · refine Bool.eq_false_iff.2 fun hends => ?_
    have hpos := h.plain front c back hinside (endsClause_eq_true_iff.1 hends)
    omega
  · refine Option.eq_none_iff_forall_ne_some.2 fun rest hword => ?_
    obtain ⟨hsplit, hstarts, hends⟩ := wholeWord?_eq_some_iff.1 hword
    have hbody : body = front ++ fromWord ++ rest := by
      rw [h.split, hinside, List.append_assoc front fromWord, ← hsplit]
      simp only [List.append_assoc, List.cons_append]
    have hlength : front.length < inside.length := by
      rw [hinside, List.length_append, List.length_cons]
      omega
    have hpos := h.first front rest hbody hlength hstarts hends
    omega

theorem runsTo_iff_firstFrom :
    RunsTo none 0 0 inside behind ↔ FirstFrom (inside ++ fromWord ++ behind) inside behind := by
  constructor
  · intro h
    obtain ⟨-, hstarts, hends⟩ := wholeWord?_eq_some_iff.1 h.word
    rw [Option.or_none] at hstarts
    have hgoesOn : ∀ front c back, inside = front ++ c :: back →
        GoesOn front.getLast? (braceDepth 0 front) c (back ++ fromWord ++ behind) := by
      intro front c back hinside
      simpa only [Option.or_none] using h.goesOn front c back hinside
    refine ⟨rfl, hstarts, hends, h.closed, ?_, ?_, ?_⟩
    · have hshort := h.short
      rwa [Nat.zero_add, length_encode] at hshort
    · intro front back hsplit hlength hstarts' hends'
      -- An earlier word would start at a character of the clause, over which the reader goes on.
      have hlead : front <+: inside := by
        have hfront : front <+: inside ++ fromWord ++ behind :=
          ⟨fromWord ++ back, by rw [hsplit, List.append_assoc]⟩
        have hinside : inside <+: inside ++ fromWord ++ behind :=
          ⟨fromWord ++ behind, (List.append_assoc _ _ _).symm⟩
        exact List.prefix_of_prefix_length_le hfront hinside hlength.le
      obtain ⟨rest, rfl⟩ := hlead
      cases rest with
      | nil => simp at hlength
      | cons c rest =>
          refine Nat.pos_of_ne_zero fun hdepth => ?_
          rw [List.append_assoc front, List.append_assoc front, List.append_assoc front,
            List.append_cancel_left_eq] at hsplit
          have hc : c = 'f' := (List.cons.inj hsplit).1
          have hnone := (hgoesOn front c rest rfl hdepth (by rw [hc]; decide)
            (by rw [hc]; decide)).2
          have hsome : wholeWord? fromWord front.getLast? (c :: (rest ++ fromWord ++ behind)) =
              some back := wholeWord?_eq_some_iff.2 ⟨hsplit, hstarts', hends'⟩
          rw [hnone] at hsome
          cases hsome
    · intro front c back hinside hc
      refine Nat.pos_of_ne_zero fun hdepth => ?_
      have hne : c ≠ '{' ∧ c ≠ '}' := by
        constructor <;> rintro rfl <;> exact absurd hc (by decide)
      have hplain := (hgoesOn front c back hinside hdepth hne.1 hne.2).1
      rw [endsClause_eq_true_iff.2 hc] at hplain
      cases hplain
  · intro h
    refine ⟨?_, h.outside, ?_, fun front c back hinside => ?_⟩
    · rw [Nat.zero_add, length_encode]
      exact h.near
    · rw [Option.or_none]
      exact wholeWord?_eq_some_iff.2 ⟨rfl, h.starts, h.ends⟩
    · rw [Option.or_none]
      exact h.goesOn hinside

/-! ## Statements -/

/-- Clauses that bind only types: `type` in front of a blank or a brace. -/
def BindsTypes (clause : List Char) : Prop :=
  ∃ c rest, clause = ['t', 'y', 'p', 'e'] ++ c :: rest ∧ (isBlank c = true ∨ c = '{')

theorem isTypeOnly_eq_true_iff {clause : List Char} :
    isTypeOnly clause = true ↔ BindsTypes clause := by
  rw [isTypeOnly]
  constructor
  · intro h
    split at h
    · next c rest hlead =>
        exact ⟨c, rest, dropLead?_eq_some hlead, by simpa using h⟩
    · cases h
  · rintro ⟨c, rest, hclause, hc⟩
    rw [dropLead?_eq_some_iff.2 hclause]
    simpa using hc

/-- `body`, which stands behind a keyword and its blanks, imports `specifier` under `clause`, and
`tail` stands behind the specifier. -/
def Accepts (body specifier : List Char) (clause : Option (List Char)) (tail : List Char) : Prop :=
  clause = none ∧ Quoted specifier body tail ∨
    ∃ inside behind, clause = some (trim inside) ∧
      (∀ c ∈ body.head?, c ∉ ['(', '.', '"', '\'']) ∧ FirstFrom body inside behind ∧
      trim inside ≠ [] ∧ ¬ BindsTypes (trim inside) ∧
      Quoted specifier (behind.dropWhile isAsciiBlank) tail

/-- A statement whose specifier stands in front of `tail` ends in front of `rest`: behind a `;` that
follows spaces and tabs only, or else right behind the specifier. -/
def EndsBefore (tail rest : List Char) : Prop :=
  (∃ gap, (∀ c ∈ gap, c = ' ' ∨ c = '\t') ∧ tail = gap ++ ';' :: rest) ∨
    (∀ gap back, (∀ c ∈ gap, c = ' ' ∨ c = '\t') → tail ≠ gap ++ ';' :: back) ∧ rest = tail

theorem startsClause_eq_true_iff :
    startsClause body = true ↔ ∀ c ∈ body.head?, c ∉ ['(', '.', '"', '\''] := by
  simp [startsClause, Option.all_eq_true, and_assoc]

theorem reads_iff_accepts {specifier tail : List Char} {clause : Option (List Char)} :
    Reads body specifier clause tail ↔ Accepts body specifier clause tail := by
  constructor
  · intro h
    cases h with
    | bare quoted => exact .inl ⟨rfl, quoted⟩
    | bound starts runs nonempty binds quoted =>
        have htypes := mt isTypeOnly_eq_true_iff.2 (Bool.eq_false_iff.1 binds)
        exact .inr ⟨_, _, rfl, startsClause_eq_true_iff.1 starts, runsTo_iff_firstFrom.1 runs,
          nonempty, htypes, quoted⟩
  · rintro (⟨rfl, quoted⟩ | ⟨inside, behind, rfl, hstarts, hfrom, hnonempty, htypes, hquoted⟩)
    · exact .bare quoted
    · have hbody := hfrom.split
      subst hbody
      exact .bound (startsClause_eq_true_iff.2 hstarts) (runsTo_iff_firstFrom.2 hfrom) hnonempty
        (Bool.eq_false_iff.2 (mt isTypeOnly_eq_true_iff.1 htypes)) hquoted

theorem afterSemicolon_gap_append {gap rest : List Char} (hgap : ∀ c ∈ gap, c = ' ' ∨ c = '\t') :
    afterSemicolon (gap ++ ';' :: rest) = rest := by
  have hspan : (gap ++ ';' :: rest).dropWhile (fun c => c == ' ' || c == '\t') = ';' :: rest := by
    rw [List.dropWhile_append_of_pos fun c hc => by simpa using hgap c hc]
    rfl
  simp only [afterSemicolon, hspan]

theorem afterSemicolon_eq_self {tail : List Char}
    (h : ∀ gap back, (∀ c ∈ gap, c = ' ' ∨ c = '\t') → tail ≠ gap ++ ';' :: back) :
    afterSemicolon tail = tail := by
  rw [afterSemicolon]
  split
  · next back hback =>
      have hsplit := List.takeWhile_append_dropWhile (p := fun c => c == ' ' || c == '\t')
        (l := tail)
      rw [hback] at hsplit
      refine absurd hsplit.symm (h _ back fun c hc => ?_)
      simpa using List.mem_takeWhile_imp hc
  · rfl

theorem endsBefore_iff {tail rest : List Char} :
    EndsBefore tail rest ↔ rest = afterSemicolon tail := by
  constructor
  · rintro (⟨gap, hgap, rfl⟩ | ⟨hnone, rfl⟩)
    · exact (afterSemicolon_gap_append hgap).symm
    · exact (afterSemicolon_eq_self hnone).symm
  · rintro rfl
    by_cases hclosed : ∃ gap back, (∀ c ∈ gap, c = ' ' ∨ c = '\t') ∧ tail = gap ++ ';' :: back
    · obtain ⟨gap, back, hgap, rfl⟩ := hclosed
      exact .inl ⟨gap, hgap, by rw [afterSemicolon_gap_append hgap]⟩
    · have hnone : ∀ gap back, (∀ c ∈ gap, c = ' ' ∨ c = '\t') → tail ≠ gap ++ ';' :: back :=
        fun gap back hgap htail => hclosed ⟨gap, back, hgap, htail⟩
      exact .inr ⟨hnone, afterSemicolon_eq_self hnone⟩

/-- What is read behind a keyword is what the grammar says, with the place it is read at. -/
theorem map_place_read?_eq_some_iff {after : List Char} {start line : Nat} {i : Import} :
    (read? after).map (fun (s, _) => s.place start line) = some i ↔
      ∃ specifier clause tail text rest,
        Accepts (after.dropWhile isAsciiBlank) specifier clause tail ∧ EndsBefore tail rest ∧
        keyword ++ after = text ++ rest ∧
        i = { text := String.ofList text, start, stop := start + Utf8.size text,
              specifier := String.ofList specifier, clause := clause.map String.ofList, line } := by
  rw [Option.map_eq_some_iff]
  constructor
  · rintro ⟨⟨s, rest⟩, hread, rfl⟩
    obtain ⟨tail, hreads, hrest, -⟩ := read?_eq_some_iff.1 hread
    refine ⟨s.specifier, s.clause, tail, s.text, rest, reads_iff_accepts.1 hreads,
      endsBefore_iff.2 hrest, (read?_append hread).symm, ?_⟩
    simp only [place, utf8ByteSize_ofList, length_encode]
  · rintro ⟨specifier, clause, tail, text, rest, haccepts, hends, htext, rfl⟩
    have hreads := reads_iff_accepts.2 haccepts
    have hrest := endsBefore_iff.1 hends
    have hsuffix : rest <:+ after := by
      rw [hrest]
      exact ((afterSemicolon_suffix tail).trans
        (parts?_suffix (parts?_of_reads hreads))).trans (List.dropWhile_suffix _)
    have hupTo : text = keyword ++ upTo after rest := by
      have hwhole : text ++ rest = keyword ++ upTo after rest ++ rest := by
        rw [List.append_assoc, upTo_append hsuffix, htext]
      exact List.append_cancel_right hwhole
    refine ⟨(⟨text, specifier, clause⟩, rest),
      read?_eq_some_iff.2 ⟨tail, hreads, hrest, hupTo⟩, ?_⟩
    simp only [place, utf8ByteSize_ofList, length_encode]

/-- Wherever `import` stands with no word going on behind it, whatever is in front of it, the bytes
are cut only where characters start, and what is read is exactly what the grammar accepts. -/
theorem read_at_word_iff (front : List Char) {after : List Char} (hends : endsWord after = true)
    (line : Nat) :
    ByteScan.statementAt (String.ofList (front ++ (keyword ++ after))) (Utf8.size front) line =
        .ok ((read? after).map fun (s, _) => s.place (Utf8.size front) line) ∧
      ∀ i, (read? after).map (fun (s, _) => s.place (Utf8.size front) line) = some i ↔
        ∃ specifier clause tail text rest,
          Accepts (after.dropWhile isAsciiBlank) specifier clause tail ∧ EndsBefore tail rest ∧
          keyword ++ after = text ++ rest ∧
          i = { text := String.ofList text, start := Utf8.size front,
                stop := Utf8.size front + Utf8.size text, specifier := String.ofList specifier,
                clause := clause.map String.ofList, line } := by
  refine ⟨?_, fun i => map_place_read?_eq_some_iff⟩
  have hstands : Stands (front ++ (keyword ++ after)) front.getLast? (keyword ++ after) :=
    ⟨front, rfl, rfl⟩
  have hread := ByteScan.statementAt_offset hstands hends line
  rwa [offset_append, length_encode] at hread

/-- A brace too many and a `from` in braces stand in front of the word that ends the clause. -/
def braces : Import where
  text := "import d\x7d,\x7bfrom\x7dfrom'x' ;"
  start := 2
  stop := 27
  specifier := "x"
  clause := some "d\x7d,\x7bfrom\x7d"
  line := 1

theorem read_at_word_braces :
    endsWord " d\x7d,\x7bfrom\x7dfrom'x' ;y".toList = true ∧
      ByteScan.statementAt "x;import d\x7d,\x7bfrom\x7dfrom'x' ;y" 2 1 = .ok (some braces) ∧
      ∃ specifier clause tail text rest,
        Accepts "d\x7d,\x7bfrom\x7dfrom'x' ;y".toList specifier clause tail ∧ EndsBefore tail rest ∧
        keyword ++ " d\x7d,\x7bfrom\x7dfrom'x' ;y".toList = text ++ rest ∧
        braces = { text := String.ofList text, start := 2, stop := 2 + Utf8.size text,
                   specifier := String.ofList specifier, clause := clause.map String.ofList,
                   line := 1 } := by
  have hends : endsWord " d\x7d,\x7bfrom\x7dfrom'x' ;y".toList = true := by decide
  have hread := read_at_word_iff "x;".toList hends 1
  have hbraces : (read? " d\x7d,\x7bfrom\x7dfrom'x' ;y".toList).map
      (fun (s, _) => s.place (Utf8.size "x;".toList) 1) = some braces := by decide +kernel
  refine ⟨hends, ?_, (hread.2 braces).1 hbraces⟩
  rw [← hbraces]
  exact hread.1

end ScopedStyles.Statement
