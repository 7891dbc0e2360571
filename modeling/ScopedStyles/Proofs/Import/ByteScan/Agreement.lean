import ScopedStyles.Proofs.Import.ByteScan.Statement
import ScopedStyles.Proofs.Import.Lexemes
/-!
# The scan by bytes is the scan by lexemes

A step of the byte machine reads the next lexeme, and the whole scan finds the imports that stand
among the lexemes. So the machine never cuts a text inside a character or out of range, whatever
text it is given.
-/

namespace ScopedStyles.ByteScan

open Text Statement Lexeme

/-! ## Literals -/

theorem toNat_lt_of_isQuote {quote : Char} (h : isQuote quote = true) : quote.toNat < 0x80 := by
  rcases isQuote_iff.1 h with rfl | rfl | rfl <;> decide

theorem skipLiteral_of_high {quote : Char} (hquote : isQuote quote = true) {bytes : List UInt8}
    {line i : Nat} {b : UInt8} (hi : bytes[i]? = some b) (hb : 0x80 ≤ b) :
    skipLiteral quote.toUInt8 bytes (i + 1) line = skipLiteral quote.toUInt8 bytes i line := by
  have hascii := toNat_lt_of_isQuote hquote
  obtain ⟨hlt, hget⟩ := List.getElem?_eq_some_iff.1 hi
  rw [skipLiteral.eq_def _ bytes i line, dif_pos hlt, hget, if_neg (ne_toUInt8_of_le hascii hb),
    if_neg (ne_toUInt8_of_le (by decide) hb), if_neg (ne_toUInt8_of_le (by decide) hb)]

theorem skipLiteral_end (quote : UInt8) (bytes : List UInt8) {i : Nat} (hi : bytes.length ≤ i)
    (line : Nat) : skipLiteral quote bytes i line = (bytes.length, line) := by
  rw [skipLiteral, dif_neg (Nat.not_lt.2 hi)]

/-- The machine inside a literal, by the character at which it stands. -/
theorem skipLiteral_cons {text cs : List Char} {c : Char} (h : c :: cs <:+ text) {quote : Char}
    (hquote : isQuote quote = true) (line : Nat) :
    skipLiteral quote.toUInt8 (Utf8.encode text) (offset text (c :: cs)) line =
      if c = quote then (offset text cs, line)
      else if c = '\\' then
        skipLiteral quote.toUInt8 (Utf8.encode text) (offset text cs + 1) line
      else if c = '\n' then
        if quote != '\x60' then (offset text (c :: cs), line)
        else skipLiteral quote.toUInt8 (Utf8.encode text) (offset text cs) (line + 1)
      else skipLiteral quote.toUInt8 (Utf8.encode text) (offset text cs) line := by
  have hascii := toNat_lt_of_isQuote hquote
  obtain ⟨hlt, hget⟩ := List.getElem?_eq_some_iff.1 (getElem?_offset_cons h)
  have hback : (quote.toUInt8 != '\x60'.toUInt8) = (quote != '\x60') := by
    rcases isQuote_iff.1 hquote with rfl | rfl | rfl <;> decide
  have hgo := stutter_tail (F := fun i => skipLiteral quote.toUInt8 (Utf8.encode text) i line)
    (fun i b => skipLiteral_of_high hquote) h
  rw [skipLiteral, dif_pos hlt, hget, hback]
  simp only [firstByte_eq_iff hascii, firstByte_eq_iff (a := '\\') (by decide),
    firstByte_eq_iff (a := '\n') (by decide)]
  by_cases hc : c = quote
  · rw [if_pos hc, if_pos hc, offset_cons_of_lt h (hc ▸ hascii)]
  · rw [if_neg hc, if_neg hc]
    by_cases hescape : c = '\\'
    · have hnext := offset_cons_of_lt h (by rw [hescape]; decide)
      rw [if_pos hescape, if_pos hescape, hnext]
    · rw [if_neg hescape, if_neg hescape]
      by_cases hline : c = '\n'
      · have hnext := offset_cons_of_lt h (by rw [hline]; decide)
        rw [if_pos hline, if_pos hline, hnext]
      · rw [if_neg hline, if_neg hline, hgo]

theorem literalLineFeeds_cons {c : Char} (hc : c ≠ '\\') (cs : List Char) :
    literalLineFeeds (c :: cs) = (if c = '\n' then 1 else 0) + literalLineFeeds cs := by
  rw [literalLineFeeds.eq_def]
  split <;> simp_all

theorem skipLiteral_offset {text rest : List Char} (h : rest <:+ text) {quote : Char}
    (hquote : isQuote quote = true) (line : Nat) :
    skipLiteral quote.toUInt8 (Utf8.encode text) (offset text rest) line =
      (offset text (untilLiteralEnd quote rest).2,
        line + literalLineFeeds (untilLiteralEnd quote rest).1) := by
  have hescape : ¬ '\\' = quote := (ne_of_isQuote hquote (by decide)).symm
  fun_induction untilLiteralEnd quote rest generalizing line with
  | case1 => exact skipLiteral_end _ _ (Nat.le_refl _) line
  | case2 =>
      rw [skipLiteral_cons h hquote, if_neg hescape, if_pos rfl]
      exact skipLiteral_end _ _ (Nat.le_succ _) line
  | case3 c cs body rest hbody ih =>
      -- The jump of two bytes can end inside the escaped character, whose other bytes pass by.
      have hc := (List.suffix_cons '\\' (c :: cs)).trans h
      have hcs := (List.suffix_cons c cs).trans hc
      have hgo := stutter_tail
        (F := fun i => skipLiteral quote.toUInt8 (Utf8.encode text) i line)
        (fun i b => skipLiteral_of_high hquote) hc
      rw [skipLiteral_cons h hquote, if_neg hescape, if_pos rfl, ← hgo, ih hcs, hbody]
      rfl
  | case4 =>
      have hfeeds : literalLineFeeds [quote] = 0 := by
        rcases isQuote_iff.1 hquote with rfl | rfl | rfl <;> rfl
      rw [skipLiteral_cons h hquote, if_pos rfl, hfeeds]
      rfl
  | case5 c cs hlast hmore hc hline =>
      have hplain := ne_backslash hlast hmore
      rw [Bool.and_eq_true, decide_eq_true_eq] at hline
      rw [skipLiteral_cons h hquote, if_neg hc, if_neg hplain, if_pos hline.1, if_pos hline.2]
      rfl
  | case6 c cs hlast hmore hc hline body rest hbody ih =>
      have hplain := ne_backslash hlast hmore
      have hcs := (List.suffix_cons c cs).trans h
      rw [Bool.and_eq_true, decide_eq_true_eq, not_and] at hline
      rw [skipLiteral_cons h hquote, if_neg hc, if_neg hplain, literalLineFeeds_cons hplain]
      by_cases hfeed : c = '\n'
      · rw [if_pos hfeed, if_neg (hline hfeed), ih hcs, hbody, if_pos hfeed, Nat.add_assoc]
      · rw [if_neg hfeed, ih hcs, hbody, if_neg hfeed, Nat.zero_add]

/-! ## Comments -/

theorem skipBlockComment_of_high {bytes : List UInt8} {line i : Nat} {b : UInt8}
    (hi : bytes[i]? = some b) (hb : 0x80 ≤ b) :
    skipBlockComment bytes (i + 1) line = skipBlockComment bytes i line := by
  obtain ⟨hlt, hget⟩ := List.getElem?_eq_some_iff.1 hi
  have hstar : ¬ b = '*'.toUInt8 := ne_toUInt8_of_le (by decide) hb
  have hfeed : ¬ b = '\n'.toUInt8 := ne_toUInt8_of_le (by decide) hb
  rw [skipBlockComment.eq_def bytes i line]
  split
  · rw [hget, decide_eq_false hstar, lineFeedsAt, if_neg hfeed]
    rfl
  · next hend =>
      rw [skipBlockComment, dif_neg (by omega)]

theorem skipBlockComment_end (bytes : List UInt8) {i : Nat} (hi : bytes.length ≤ i + 1)
    (line : Nat) : skipBlockComment bytes i line = (bytes.length, line) := by
  rw [skipBlockComment, dif_neg (Nat.not_lt.2 hi)]

theorem skipBlockComment_singleton {text : List Char} {c : Char} (h : [c] <:+ text) (line : Nat) :
    skipBlockComment (Utf8.encode text) (offset text [c]) line =
      ((Utf8.encode text).length, line) := by
  by_cases hc : c.toNat < 0x80
  · have hnext := offset_cons_of_lt h hc
    rw [offset_nil] at hnext
    exact skipBlockComment_end _ (Nat.le_of_eq hnext) line
  · have hgo := stutter_char (F := fun i => skipBlockComment (Utf8.encode text) i line)
      (fun i b => skipBlockComment_of_high) h (Nat.not_lt.1 hc)
    rw [← hgo]
    exact skipBlockComment_end _ (Nat.le_succ _) line

/-- The machine inside a block comment, by the two characters at which it stands. -/
theorem skipBlockComment_cons_cons {text cs : List Char} {c d : Char} (h : c :: d :: cs <:+ text)
    (line : Nat) :
    skipBlockComment (Utf8.encode text) (offset text (c :: d :: cs)) line =
      if c = '*' ∧ d = '/' then (offset text cs, line)
      else skipBlockComment (Utf8.encode text) (offset text (d :: cs))
        (line + if c = '\n' then 1 else 0) := by
  have hd : d :: cs <:+ text := (List.suffix_cons c (d :: cs)).trans h
  by_cases hc : c.toNat < 0x80
  · have hnext := offset_cons_of_lt h hc
    obtain ⟨hlt, hbyte⟩ := List.getElem?_eq_some_iff.1 (getElem?_offset_cons h)
    obtain ⟨hlt', hbyte'⟩ := List.getElem?_eq_some_iff.1 (getElem?_offset_cons hd)
    simp only [hnext] at hlt' hbyte'
    rw [skipBlockComment, dif_pos hlt', hbyte, hbyte', lineFeedsAt, ← hnext]
    simp only [Bool.and_eq_true, decide_eq_true_eq, firstByte_eq_iff (a := '*') (by decide),
      firstByte_eq_iff (a := '/') (by decide), firstByte_eq_iff (a := '\n') (by decide)]
    by_cases hclose : c = '*' ∧ d = '/'
    · have hbehind := offset_cons_of_lt hd (by rw [hclose.2]; decide)
      rw [hnext] at hbehind
      rw [if_pos hclose, if_pos hclose, hbehind]
    · rw [if_neg hclose, if_neg hclose]
  · have hhigh := Nat.not_lt.1 hc
    have hgo := stutter_char (F := fun i => skipBlockComment (Utf8.encode text) i line)
      (fun i b => skipBlockComment_of_high) h hhigh
    rw [if_neg (not_and_of_not_left _ (ne_of_ascii_of_high (by decide) hhigh)),
      if_neg (ne_of_ascii_of_high (by decide) hhigh)]
    exact hgo.symm

/-- The line number is right behind a block comment unless the text ends there. -/
theorem skipBlockComment_offset {text rest : List Char} (h : rest <:+ text) (line : Nat) :
    ∃ line', skipBlockComment (Utf8.encode text) (offset text rest) line =
        (offset text (untilBlockEnd rest).2, line') ∧
      ((untilBlockEnd rest).2 ≠ [] → line' = line + (untilBlockEnd rest).1.count '\n') := by
  fun_induction untilBlockEnd rest generalizing line with
  | case1 => exact ⟨line, skipBlockComment_end _ (Nat.le_succ _) line, fun hne => absurd rfl hne⟩
  | case2 rest =>
      refine ⟨line, ?_, fun _ => rfl⟩
      rw [skipBlockComment_cons_cons h, if_pos ⟨rfl, rfl⟩]
  | case3 c cs hopen body rest hbody ih =>
      cases cs with
      | nil =>
          obtain ⟨rfl, rfl⟩ := Prod.mk.inj hbody
          exact ⟨line, skipBlockComment_singleton h line, fun hne => absurd rfl hne⟩
      | cons d ds =>
          have hclose : ¬ (c = '*' ∧ d = '/') := by
            rintro ⟨rfl, rfl⟩
            exact hopen ds rfl rfl
          obtain ⟨line', hskip, hline⟩ :=
            ih ((List.suffix_cons c (d :: ds)).trans h) (line + if c = '\n' then 1 else 0)
          rw [hbody] at hskip hline
          refine ⟨line', ?_, ?_⟩
          · rw [skipBlockComment_cons_cons h, if_neg hclose, hskip]
          · intro hne
            rw [hline hne, List.count_cons, Nat.add_assoc, Nat.add_comm (List.count _ _)]
            simp only [beq_iff_eq]

/-! ## Steps -/

/-- `s` is the step of the machine over `lexeme`, in front of `rest`. -/
structure StepsOver (text : List Char) (line : Nat) (lexeme : Lexeme) (rest : List Char)
    (s : Step) : Prop where
  found : s.found.toList = imports (offset text (lexeme.text ++ rest)) line [lexeme]
  next : s.next = offset text rest
  line : rest ≠ [] → s.line = line + lexeme.lineFeeds

theorem sliceBytes_offset {text mid rest : List Char} (h : mid ++ rest <:+ text) :
    sliceBytes (Utf8.encode text) (offset text (mid ++ rest)) (offset text rest) =
      .ok (Utf8.encode mid) := by
  have hadvance := offset_advance h
  have hstop := offset_le text rest
  rw [sliceBytes, if_pos ⟨by omega, hstop⟩, drop_offset h, hadvance, Nat.add_sub_cancel_left,
    Utf8.encode_append, List.take_left]

theorem stepKeyword_offset {text after : List Char} {before : Option Char}
    (h : Stands text before (keyword ++ after)) (hend : endsWord after = true) (line : Nat) :
    ∃ s, stepKeyword (String.ofList text) (offset text (keyword ++ after)) line = .ok s ∧
      match read? after with
      | none => StepsOver text line (other keyword) after s
      | some (read, rest) => StepsOver text line (statement read) rest s := by
  have hbehind := offset_keyword h.suffix
  rw [stepKeyword, statementAt_offset h hend]
  cases hread : read? after with
  | none => exact ⟨_, rfl, rfl, hbehind.symm, fun _ => rfl⟩
  | some found =>
      obtain ⟨read, rest⟩ := found
      have hsplit := read?_append hread
      have hsuffix : read.text ++ rest <:+ text := hsplit.symm ▸ h.suffix
      have hstop := place_stop h.suffix hread line
      have hslice := sliceBytes_offset hsuffix
      rw [hsplit] at hslice
      refine ⟨⟨some (read.place (offset text (keyword ++ after)) line), offset text rest,
        line + read.text.count '\n'⟩, ?_, ?_, rfl, fun _ => rfl⟩
      · rw [← count_encode (by decide), bytesOf_ofList]
        simp only [bind, Except.bind, Option.map_some]
        rw [hstop, show (read.place (offset text (keyword ++ after)) line).start =
          offset text (keyword ++ after) from rfl, hslice]
        rfl
      · rw [show (statement read).text = read.text from rfl, hsplit]
        rfl

theorem lineFeeds_other {c : Char} (hc : c ≠ '\n') : (other [c]).lineFeeds = 0 := by
  have hcount : [c].count '\n' = 0 := by
    rw [List.count_eq_zero, List.mem_singleton]
    exact hc.symm
  exact hcount

theorem other_stepsOver {text cs : List Char} {c : Char} (h : c :: cs <:+ text)
    (hc : c.toNat < 0x80) (line : Nat) :
    StepsOver text line (other [c]) cs
      ⟨none, offset text (c :: cs) + 1, line + (other [c]).lineFeeds⟩ :=
  ⟨rfl, (offset_cons_of_lt h hc).symm, fun _ => rfl⟩

theorem lineComment_stepsOver {text cs : List Char} {before : Option Char}
    (h : '/' :: cs <:+ text) (hcs : cs.head? = some '/') (line : Nat) :
    StepsOver text line (next before '/' cs).1 (next before '/' cs).2
      ⟨none, skipWhile (· != '\n'.toUInt8) (Utf8.encode text) (offset text ('/' :: cs)), line⟩ := by
  have hfeeds : ('/' :: cs.takeWhile (· != '\n')).count '\n' = 0 := by
    rw [List.count_eq_zero]
    intro hmem
    rcases List.mem_cons.1 hmem with hfirst | hmem
    · exact absurd hfirst (by decide)
    · exact absurd (List.mem_takeWhile_imp hmem) (by decide)
  rw [next_lineComment before hcs]
  refine ⟨rfl, ?_, fun _ => ?_⟩
  · rw [skipWhile_offset h (TestsAs.bne (by decide))]
    rfl
  · exact (congrArg (line + ·) hfeeds).symm

theorem blockComment_stepsOver {text cs : List Char} {before : Option Char}
    (h : '/' :: '*' :: cs <:+ text) (line : Nat) :
    StepsOver text line (next before '/' ('*' :: cs)).1 (next before '/' ('*' :: cs)).2
      ⟨none, (skipBlockComment (Utf8.encode text) (offset text ('/' :: '*' :: cs) + 2) line).1,
        (skipBlockComment (Utf8.encode text) (offset text ('/' :: '*' :: cs) + 2) line).2⟩ := by
  have hopen : '*' :: cs <:+ text := (List.suffix_cons _ _).trans h
  have hinside : offset text ('/' :: '*' :: cs) + 2 = offset text cs := by
    rw [offset_cons_of_lt hopen (by decide), offset_cons_of_lt h (by decide)]
  obtain ⟨line', hskip, hline⟩ := skipBlockComment_offset ((List.suffix_cons _ _).trans hopen) line
  rw [next_blockComment, hinside, hskip]
  refine ⟨rfl, rfl, fun hne => ?_⟩
  rw [hline hne]
  rfl

theorem literal_stepsOver {text cs : List Char} {before : Option Char} {quote : Char}
    (h : quote :: cs <:+ text) (hquote : isQuote quote = true) (line : Nat) :
    StepsOver text line (next before quote cs).1 (next before quote cs).2
      ⟨none, (skipLiteral quote.toUInt8 (Utf8.encode text) (offset text (quote :: cs) + 1) line).1,
        (skipLiteral quote.toUInt8 (Utf8.encode text) (offset text (quote :: cs) + 1) line).2⟩ := by
  have hplain : quote ≠ '\\' := ne_of_isQuote hquote (by decide)
  have hfeed : quote ≠ '\n' := ne_of_isQuote hquote (by decide)
  have hnext := offset_cons_of_lt h (toNat_lt_of_isQuote hquote)
  rw [next_literal before hquote, ← hnext,
    skipLiteral_offset ((List.suffix_cons _ _).trans h) hquote]
  refine ⟨rfl, rfl, fun _ => ?_⟩
  rw [lineFeeds, literalLineFeeds_cons hplain, if_neg hfeed, Nat.zero_add]

/-- The machine steps over lexemes. A character of more than one byte takes it several steps. -/
theorem stepByte_offset {text cs : List Char} {before : Option Char} {c : Char}
    (h : Stands text before (c :: cs)) (hc : c.toNat < 0x80) (line : Nat) :
    ∃ s, stepByte (String.ofList text) (offset text (c :: cs)) line (firstByte c) = .ok s ∧
      StepsOver text line (next before c cs).1 (next before c cs).2 s := by
  have hcs : cs <:+ text := h.next.suffix
  have hnext := offset_cons_of_lt h.suffix hc
  have hbehind {a : Char} (ha : a.toNat < 0x80) :
      (Utf8.encode text)[offset text (c :: cs) + 1]? = some a.toUInt8 ↔ cs.head? = some a := by
    rw [← hnext]
    exact getElem?_offset_eq_iff hcs ha
  unfold stepByte
  rw [bytesOf_ofList, isWordAt_offset h keyword]
  simp only [Bool.and_eq_true, Bool.or_eq_true, decide_eq_true_eq, hbehind (a := '/') (by decide),
    hbehind (a := '*') (by decide), firstByte_eq_iff (a := '\n') (by decide),
    firstByte_eq_iff (a := '/') (by decide), firstByte_eq_iff (a := '"') (by decide),
    firstByte_eq_iff (a := '\'') (by decide), firstByte_eq_iff (a := '\x60') (by decide)]
  by_cases hfeed : c = '\n'
  · rw [if_pos hfeed, next_other (by rw [hfeed]; decide) (by rw [hfeed]; decide)
      (wholeWord?_cons_eq_none (by rw [hfeed]; decide) keyword.tail before cs)]
    subst hfeed
    exact ⟨_, rfl, other_stepsOver h.suffix hc line⟩
  rw [if_neg hfeed]
  by_cases hline : c = '/' ∧ cs.head? = some '/'
  · obtain ⟨rfl, hslash⟩ := hline
    rw [if_pos ⟨rfl, hslash⟩]
    exact ⟨_, rfl, lineComment_stepsOver h.suffix hslash line⟩
  rw [if_neg hline]
  by_cases hblock : c = '/' ∧ cs.head? = some '*'
  · obtain ⟨rfl, hstar⟩ := hblock
    obtain ⟨inside, rfl⟩ := List.head?_eq_some_iff.1 hstar
    rw [if_pos ⟨rfl, hstar⟩]
    exact ⟨_, rfl, blockComment_stepsOver h.suffix line⟩
  rw [if_neg hblock]
  by_cases hquote : isQuote c = true
  · have hquotes := isQuote_iff.1 hquote
    rw [← or_assoc] at hquotes
    rw [if_pos hquotes, (firstByte_eq_iff hc).2 rfl]
    exact ⟨_, rfl, literal_stepsOver h.suffix hquote line⟩
  have hquotes := mt isQuote_iff.2 hquote
  rw [← or_assoc] at hquotes
  rw [if_neg hquotes, next_of_word hline hblock hquote]
  cases hword : wholeWord? keyword before (c :: cs) with
  | none =>
      have hother := other_stepsOver h.suffix hc line
      rw [lineFeeds_other hfeed] at hother
      exact ⟨_, rfl, hother⟩
  | some after =>
      obtain ⟨htext, -, hend⟩ := wholeWord?_eq_some_iff.1 hword
      rw [htext] at h ⊢
      obtain ⟨s, hs, hover⟩ := stepKeyword_offset h hend line
      refine ⟨s, hs, ?_⟩
      simp only
      cases hread : read? after with
      | none => rwa [hread] at hover
      | some found => rwa [hread] at hover

/-! ## The scan -/

theorem scanFrom_of_step {source : String} {line i : Nat} {b : UInt8} {s : Step}
    (hi : (bytesOf source)[i]? = some b) (hs : stepByte source i line b = .ok s) :
    scanFrom source i line = (scanFrom source s.next s.line).map (s.found.toList ++ ·) := by
  rw [scanFrom]
  split
  · next hnone => rw [hi] at hnone; cases hnone
  · next b' hsome =>
      obtain rfl : b = b' := Option.some.inj (hi.symm.trans hsome)
      split
      · next hs' => rw [hs] at hs'; cases hs'
      · next s' hs' =>
          obtain rfl : s = s' := Except.ok.inj (hs.symm.trans hs')
          rfl

theorem scanFrom_end {source : String} {i : Nat} (hi : (bytesOf source)[i]? = none) (line : Nat) :
    scanFrom source i line = .ok [] := by
  rw [scanFrom]
  split
  · rfl
  · next hsome => rw [hi] at hsome; cases hsome

theorem scanFrom_of_high {source : String} {line i : Nat} {b : UInt8}
    (hi : (bytesOf source)[i]? = some b) (hb : 0x80 ≤ b) :
    scanFrom source (i + 1) line = scanFrom source i line := by
  have hkeyword : Utf8.encode keyword = 'i'.toUInt8 :: Utf8.encode keyword.tail := by decide
  have hword := isWordAt_eq_false hkeyword hi (ne_toUInt8_of_le (by decide) hb)
  have hne {a : Char} (ha : a.toNat < 0x80) : (b = a.toUInt8) = False :=
    eq_false (ne_toUInt8_of_le ha hb)
  have hstep : stepByte source i line b = .ok ⟨none, i + 1, line⟩ := by
    rw [stepByte, hword]
    simp only [hne (a := '\n') (by decide), hne (a := '/') (by decide),
      hne (a := '"') (by decide), hne (a := '\'') (by decide), hne (a := '\x60') (by decide)]
    rfl
  rw [scanFrom_of_step hi hstep]
  cases scanFrom source (i + 1) line <;> rfl

theorem next_of_high {before : Option Char} {c : Char} (hc : 0x80 ≤ c.toNat) (cs : List Char) :
    next before c cs = (other [c], cs) := by
  have hne {a : Char} (ha : a.toNat < 0x80) : c ≠ a := ne_of_ascii_of_high ha hc
  have hquote : ¬ isQuote c = true := by
    rw [isQuote_iff]
    rintro (rfl | rfl | rfl) <;> exact hne (by decide) rfl
  exact next_other (hne (by decide)) hquote (wholeWord?_cons_eq_none (hne (by decide)) _ before cs)

/-- Over a lexeme, the machine's scan is what the lexeme imports and the scan behind it. -/
theorem scanFrom_cons {text cs : List Char} {before : Option Char} {c : Char}
    (h : Stands text before (c :: cs)) (line : Nat) :
    ∃ line', scanFrom (String.ofList text) (offset text (c :: cs)) line =
        (scanFrom (String.ofList text) (offset text (next before c cs).2) line').map
          (imports (offset text (c :: cs)) line [(next before c cs).1] ++ ·) ∧
      ((next before c cs).2 ≠ [] → line' = line + (next before c cs).1.lineFeeds) := by
  by_cases hc : c.toNat < 0x80
  · obtain ⟨s, hs, hover⟩ := stepByte_offset h hc line
    have hbyte : (bytesOf (String.ofList text))[offset text (c :: cs)]? = some (firstByte c) := by
      rw [bytesOf_ofList, getElem?_offset_cons h.suffix]
    have hfound := hover.found
    rw [next_append] at hfound
    refine ⟨s.line, ?_, hover.line⟩
    rw [scanFrom_of_step hbyte hs, hover.next, hfound]
  · have hhigh := Nat.not_lt.1 hc
    have hgo := stutter_char (F := fun i => scanFrom (String.ofList text) i line)
      (fun i b hi hb => scanFrom_of_high (by rwa [bytesOf_ofList]) hb) h.suffix hhigh
    have hfeeds := lineFeeds_other (ne_of_ascii_of_high (a := '\n') (by decide) hhigh)
    rw [next_of_high hhigh]
    refine ⟨line, ?_, fun _ => ?_⟩
    · rw [← hgo]
      cases scanFrom (String.ofList text) (offset text cs) line <;> rfl
    · rw [hfeeds]
      rfl

theorem scanFrom_offset {text rest : List Char} {before : Option Char}
    (h : Stands text before rest) (line : Nat) :
    scanFrom (String.ofList text) (offset text rest) line =
      .ok (imports (offset text rest) line (Lexeme.scan before rest)) := by
  fun_induction Lexeme.scan before rest generalizing line with
  | case1 before =>
      refine scanFrom_end ?_ line
      rw [bytesOf_ofList, getElem?_offset h.suffix]
      rfl
  | case2 before c cs step ih =>
      have happend := next_append before c cs
      have hsplit : Stands text before (step.1.text ++ step.2) := happend.symm ▸ h
      have hlast : step.1.text.getLast?.or before = step.1.text.getLast? :=
        getLast?_next_or before before c cs
      have hadvance := hsplit.advance
      rw [hlast] at hadvance
      have hoffset : offset text step.2 = offset text (c :: cs) + step.1.byteLength := by
        rw [byteLength_eq, ← happend]
        exact offset_advance hsplit.suffix
      obtain ⟨line', hscan, hline⟩ := scanFrom_cons h line
      have himports := imports_append (offset text (c :: cs)) line [step.1]
        (Lexeme.scan step.1.text.getLast? step.2)
      rw [List.singleton_append] at himports
      have hlater : imports (offset text step.2) line' (Lexeme.scan step.1.text.getLast? step.2) =
          imports (offset text (c :: cs) + total byteLength [step.1])
            (line + total lineFeeds [step.1]) (Lexeme.scan step.1.text.getLast? step.2) := by
        -- The line number can be wrong only at the end of the text, where no import follows.
        by_cases hend : step.2 = []
        · rw [hend, Lexeme.scan]
          rfl
        · rw [hline hend, hoffset]
          rfl
      rw [hscan, himports, ← hlater]
      exact congrArg (Except.map _) (ih hadvance line')

/-- The machine finds every import of a script and never fails to cut a text. -/
theorem scan_eq (source : String) : scan source = .ok (Import.scan source) := by
  have h := scanFrom_offset (Stands.start source.toList) 1
  have hstart : offset source.toList source.toList = 0 := Nat.sub_self _
  rwa [String.ofList_toList, hstart] at h

end ScopedStyles.ByteScan
