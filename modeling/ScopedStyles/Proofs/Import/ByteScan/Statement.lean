import ScopedStyles.Import.ByteScan
import ScopedStyles.Proofs.Import.Grammar
import ScopedStyles.Proofs.Text.Bytes
import ScopedStyles.Proofs.Text.Split
/-!
# Reading statements by bytes

Each reader of the byte machine, started where an end of the text starts, finds what the reader of
characters finds there, and none of its cuts is a fault. A loop over bytes passes over the bytes
that continue a character without changing what it finds.
-/

namespace ScopedStyles.ByteScan

open Text Statement

theorem bytesOf_ofList (text : List Char) : bytesOf (String.ofList text) = Utf8.encode text := by
  rw [bytesOf, String.toList_ofList]

theorem offset_keyword {text after : List Char} (h : keyword ++ after <:+ text) :
    offset text after = offset text (keyword ++ after) + 6 := by
  have hword : (Utf8.encode keyword).length = 6 := by decide
  rw [offset_advance h, hword]

/-! ## Tests of bytes -/

theorem isBlankByte_testsAs : TestsAs isBlankByte isAsciiBlank := by
  have hspace := TestsAs.beq (a := ' ') (by decide)
  have htab := TestsAs.beq (a := '\t') (by decide)
  have hline := TestsAs.beq (a := '\n') (by decide)
  have hfeed := TestsAs.beq (a := '\x0c') (by decide)
  have hreturn := TestsAs.beq (a := '\r') (by decide)
  exact (((hspace.or htab).or hline).or hfeed).or hreturn

theorem isGapByte_testsAs : TestsAs isGapByte fun c => c == ' ' || c == '\t' := by
  have hspace := TestsAs.beq (a := ' ') (by decide)
  have htab := TestsAs.beq (a := '\t') (by decide)
  exact hspace.or htab

theorem endsClauseByte_testsAs : TestsAs endsClauseByte endsClause := by
  have hsemicolon := TestsAs.beq (a := ';') (by decide)
  have hdouble := TestsAs.beq (a := '"') (by decide)
  have hsingle := TestsAs.beq (a := '\'') (by decide)
  have hback := TestsAs.beq (a := '\x60') (by decide)
  have hparen := TestsAs.beq (a := '(') (by decide)
  exact (((hsemicolon.or hdouble).or hsingle).or hback).or hparen

theorem isIdentifierByte_testsAs : TestsAs isIdentifierByte isIdentifierChar := by
  refine TestsAs.of_ascii true (by decide +kernel) ?_ ?_
  · intro b hb
    simp [isIdentifierByte, hb]
  · intro c hc
    simp [isIdentifierChar, hc]

theorem skipWhile_offset {text rest : List Char} (h : rest <:+ text) {test : UInt8 → Bool}
    {p : Char → Bool} (htest : TestsAs test p) :
    skipWhile test (Utf8.encode text) (offset text rest) = offset text (rest.dropWhile p) := by
  have hsplit : rest.takeWhile p ++ rest.dropWhile p <:+ text := by
    rwa [List.takeWhile_append_dropWhile]
  rw [skipWhile, drop_offset h, htest.takeWhile_encode, offset_advance hsplit,
    List.takeWhile_append_dropWhile]

theorem isWordAt_offset {text rest : List Char} {before : Option Char} (h : Stands text before rest)
    (word : List Char) :
    isWordAt word (Utf8.encode text) (offset text rest) = (wholeWord? word before rest).isSome := by
  have hword := isIdentifierByte_testsAs.not.and (TestsAs.bne (a := '.') (by decide))
  rw [isWordAt, drop_offset h.suffix]
  by_cases hlead : word <+: rest
  · obtain ⟨behind, rfl⟩ := hlead
    have hstands : (Utf8.encode word).isPrefixOf (Utf8.encode (word ++ behind)) = true :=
      List.isPrefixOf_iff_prefix.2 (encode_prefix_iff.2 (List.prefix_append word behind))
    have hbehind := (List.suffix_append word behind).trans h.suffix
    rw [hstands, Bool.true_and, h.all_getElem?_pred hword, ← offset_advance h.suffix,
      all_getElem?_offset hbehind isIdentifierByte_testsAs.not, wholeWord?,
      dropLead?_eq_some_iff.2 rfl, Option.filter_some]
    split
    · next hb => exact hb
    · next hb => exact Bool.eq_false_iff.2 hb
  · have hstands : (Utf8.encode word).isPrefixOf (Utf8.encode rest) = false :=
      Bool.eq_false_iff.2 (mt List.isPrefixOf_iff_prefix.1 (mt encode_prefix_iff.1 hlead))
    rw [hstands, wholeWord?, dropLead?, if_neg (mt List.isPrefixOf_iff_prefix.1 hlead)]
    rfl

/-- No byte that continues a word stands in front of a place where a word can start. -/
theorem byte_before_of_startsWord {text rest : List Char} {before : Option Char}
    (h : Stands text before rest) (hstarts : startsWord before = true)
    (hpos : 0 < offset text rest) {b : UInt8}
    (hget : (Utf8.encode text)[offset text rest - 1]? = some b) :
    isIdentifierByte b = false ∧ b ≠ '.'.toUInt8 := by
  have hword := isIdentifierByte_testsAs.not.and (TestsAs.bne (a := '.') (by decide))
  have hbefore := h.all_getElem?_pred hword
  have hzero : (offset text rest == 0) = false := beq_false_of_ne (Nat.ne_of_gt hpos)
  rw [hzero, Bool.false_or, hget, Option.all_some] at hbefore
  have hplain := hbefore.trans hstarts
  simpa using hplain

/-! ## Specifiers -/

/-- Characters that neither close a quoted text nor end its line. -/
def staysQuoted (quote c : Char) : Bool :=
  c != quote && c != '\n'

theorem quoteEnd_offset {text rest : List Char} (h : rest <:+ text) {quote : Char}
    (hquote : quote.toNat < 0x80) :
    quoteEnd quote.toUInt8 (Utf8.encode text) (offset text rest) =
      offset text (rest.dropWhile (staysQuoted quote)) := by
  have hline := TestsAs.bne (a := '\n') (by decide)
  exact skipWhile_offset h ((TestsAs.bne hquote).and hline)

theorem untilQuote?_eq (quote : Char) (cs : List Char) :
    untilQuote? quote cs =
      if (cs.dropWhile (staysQuoted quote)).head? = some quote then
        some (cs.takeWhile (staysQuoted quote), (cs.dropWhile (staysQuoted quote)).tail)
      else none := by
  induction cs with
  | nil => rfl
  | cons c cs ih =>
      simp only [untilQuote?]
      by_cases hc : c = quote
      · have hstop : ¬ staysQuoted quote c = true := by simp [staysQuoted, hc]
        have hhead : (c :: cs).head? = some quote := congrArg some hc
        rw [if_pos hc, List.dropWhile_cons_of_neg hstop, List.takeWhile_cons_of_neg hstop,
          if_pos hhead]
        rfl
      · rw [if_neg hc]
        by_cases hline : c = '\n'
        · have hstop : ¬ staysQuoted quote c = true := by simp [staysQuoted, hline]
          have hhead : ¬ (c :: cs).head? = some quote := mt Option.some.inj hc
          rw [if_pos hline, List.dropWhile_cons_of_neg hstop, if_neg hhead]
        · have hgo : staysQuoted quote c = true := by simp [staysQuoted, hc, hline]
          rw [if_neg hline, List.dropWhile_cons_of_pos hgo, List.takeWhile_cons_of_pos hgo, ih]
          split <;> rfl

theorem quoted?_cons_of_quote {c : Char} (hc : c = '"' ∨ c = '\'') (cs : List Char) :
    quoted? (c :: cs) = untilQuote? c cs := by
  simp [quoted?, hc]

theorem quoted?_cons_of_other {c : Char} (hc : ¬ (c = '"' ∨ c = '\'')) (cs : List Char) :
    quoted? (c :: cs) = none := by
  simp [quoted?, hc]

theorem readQuoted_offset {text rest : List Char} (h : rest <:+ text) :
    readQuoted (String.ofList text) (offset text rest) =
      .ok ((quoted? rest).map fun (inside, behind) =>
        (String.ofList inside, offset text behind)) := by
  unfold readQuoted
  rw [bytesOf_ofList, getElem?_offset h]
  cases rest with
  | nil => rfl
  | cons c cs =>
      have hcs : cs <:+ text := (List.suffix_cons c cs).trans h
      have hdouble := TestsAs.bne (a := '"') (by decide) c (firstByte c) (firstByte_mem c)
      have hsingle := TestsAs.bne (a := '\'') (by decide) c (firstByte c) (firstByte_mem c)
      rw [head?_encode_cons]
      simp only at hdouble hsingle ⊢
      rw [hdouble, hsingle]
      by_cases hc : c = '"' ∨ c = '\''
      · have hascii : c.toNat < 0x80 := by rcases hc with rfl | rfl <;> decide
        have hother : ¬ (c != '"' && c != '\'') = true := by
          rcases hc with rfl | rfl <;> decide
        have hnext := offset_cons_of_lt h hascii
        have hbyte : firstByte c = c.toUInt8 := (firstByte_eq_iff hascii).2 rfl
        have hbehind : cs.dropWhile (staysQuoted c) <:+ text :=
          (List.dropWhile_suffix _).trans hcs
        rw [if_neg hother, hbyte, ← hnext, quoteEnd_offset hcs hascii, quoted?_cons_of_quote hc,
          untilQuote?_eq]
        by_cases hclose : (cs.dropWhile (staysQuoted c)).head? = some c
        · obtain ⟨tail, htail⟩ := List.head?_eq_some_iff.1 hclose
          have hsplit : cs.takeWhile (staysQuoted c) ++ c :: tail = cs := by
            rw [← htail, List.takeWhile_append_dropWhile]
          have hslice := slice_offset (hsplit.symm ▸ hcs)
          rw [hsplit] at hslice
          rw [if_pos ((getElem?_offset_eq_iff hbehind hascii).2 hclose), if_pos hclose]
          rw [htail] at hbehind ⊢
          have hafter := offset_cons_of_lt hbehind hascii
          rw [hslice, List.tail_cons, Option.map_some, hafter]
          rfl
        · rw [if_neg (mt (getElem?_offset_eq_iff hbehind hascii).1 hclose), if_neg hclose]
          rfl
      · have hother : (c != '"' && c != '\'') = true := by simpa using hc
        rw [if_pos hother, quoted?_cons_of_other hc]
        rfl

theorem finish_offset {text rest : List Char} (h : rest <:+ text) :
    finish (Utf8.encode text) (offset text rest) = offset text (afterSemicolon rest) := by
  have hgap := skipWhile_offset h isGapByte_testsAs
  have hbehind : rest.dropWhile (fun c => c == ' ' || c == '\t') <:+ text :=
    (List.dropWhile_suffix _).trans h
  rw [finish, hgap, afterSemicolon]
  split
  · next hfound =>
      obtain ⟨tail, htail⟩ := List.head?_eq_some_iff.1
        ((getElem?_offset_eq_iff hbehind (by decide)).1 hfound)
      rw [htail] at hbehind ⊢
      exact (offset_cons_of_lt hbehind (by decide)).symm
  · next hfound =>
      split
      · next tail htail =>
          refine absurd ((getElem?_offset_eq_iff hbehind (by decide)).2 ?_) hfound
          rw [htail, List.head?_cons]
      · rfl

/-! ## Clauses -/

theorem untilFrom?_congr_before {before before' : Option Char} {cs : List Char}
    (h : wholeWord? fromWord before cs = wholeWord? fromWord before' cs) (depth used : Nat) :
    untilFrom? before depth used cs = untilFrom? before' depth used cs := by
  cases cs with
  | nil => rfl
  | cons c cs =>
      have h : wholeWord? ['f', 'r', 'o', 'm'] before (c :: cs) =
        wholeWord? ['f', 'r', 'o', 'm'] before' (c :: cs) := h
      simp only [untilFrom?, h]

theorem isWordAt_eq_false {word : List Char} {first : UInt8} {more : List UInt8}
    (hword : Utf8.encode word = first :: more) {bytes : List UInt8} {i : Nat} {b : UInt8}
    (hi : bytes[i]? = some b) (hne : b ≠ first) : isWordAt word bytes i = false := by
  obtain ⟨hlt, hget⟩ := List.getElem?_eq_some_iff.1 hi
  have hfirst : (first == b) = false := beq_false_of_ne (Ne.symm hne)
  rw [isWordAt, hword, List.drop_eq_getElem_cons hlt, hget, List.isPrefixOf_cons_cons, hfirst]
  simp

theorem fromOffset?_of_high {bytes : List UInt8} {limit depth i : Nat} {b : UInt8}
    (hi : bytes[i]? = some b) (hb : 0x80 ≤ b) :
    fromOffset? bytes limit depth (i + 1) = fromOffset? bytes limit depth i := by
  obtain ⟨hlt, hget⟩ := List.getElem?_eq_some_iff.1 hi
  have hends : endsClauseByte b = false := by
    simp only [endsClauseByte, Bool.or_eq_false_iff, beq_eq_false_iff_ne]
    refine ⟨⟨⟨⟨?_, ?_⟩, ?_⟩, ?_⟩, ?_⟩ <;> exact ne_toUInt8_of_le (by decide) hb
  have hfrom : Utf8.encode ['f', 'r', 'o', 'm'] = 'f'.toUInt8 :: Utf8.encode ['r', 'o', 'm'] := by
    decide
  have hword := isWordAt_eq_false hfrom hi (ne_toUInt8_of_le (by decide) hb)
  rw [fromOffset?.eq_def bytes limit depth i, dif_pos hlt, hget,
    if_neg (ne_toUInt8_of_le (by decide) hb), if_neg (ne_toUInt8_of_le (by decide) hb), hends,
    hword, Bool.and_false, if_neg Bool.false_ne_true, if_neg Bool.false_ne_true]
  by_cases hlimit : limit ≤ i
  · have hnext : limit ≤ i + 1 := Nat.le_succ_of_le hlimit
    rw [if_pos hlimit, fromOffset?.eq_def]
    split <;> rfl
  · rw [if_neg hlimit]

theorem fromOffset?_offset {text rest : List Char} {before : Option Char}
    (h : Stands text before rest) {limit used : Nat}
    (hlimit : limit + used = offset text rest + clauseLimit) (depth : Nat) :
    fromOffset? (Utf8.encode text) limit depth (offset text rest) =
      (untilFrom? before depth used rest).map fun (_, tail) => offset text (fromWord ++ tail) := by
  induction rest generalizing before depth used with
  | nil =>
      rw [fromOffset?, dif_neg (by rw [offset_nil]; exact Nat.lt_irrefl _)]
      rfl
  | cons c cs ih =>
      obtain ⟨hlt, hget⟩ := List.getElem?_eq_some_iff.1 (getElem?_offset_cons h.suffix)
      have hnext := offset_cons h.suffix
      -- All branches that go on do so behind the character's other bytes, at some depth `d`.
      have go (d : Nat) : fromOffset? (Utf8.encode text) limit d (offset text (c :: cs) + 1) =
          ((untilFrom? (some c) d (used + c.utf8Size) cs).map
            fun (clause, rest) => (c :: clause, rest)).map
              fun (_, tail) => offset text (fromWord ++ tail) := by
        rw [← stutter_tail (fun i b => fromOffset?_of_high) h.suffix, Option.map_map]
        exact ih h.next (by omega) d
      have hends := endsClauseByte_testsAs c (firstByte c) (firstByte_mem c)
      have hword := isWordAt_offset h ['f', 'r', 'o', 'm']
      simp only [untilFrom?]
      rw [fromOffset?, dif_pos hlt, hget, hends, hword]
      by_cases hused : clauseLimit ≤ used
      · have hpast : limit ≤ offset text (c :: cs) := by omega
        rw [if_pos hused, if_pos hpast]
        rfl
      · have hpast : ¬ limit ≤ offset text (c :: cs) := by omega
        rw [if_neg hused, if_neg hpast]
        by_cases hopen : c = '{'
        · rw [if_pos hopen, if_pos ((firstByte_eq_iff (by decide)).2 hopen)]
          exact go (depth + 1)
        · rw [if_neg hopen, if_neg (mt (firstByte_eq_iff (by decide)).1 hopen)]
          by_cases hclose : c = '}'
          · rw [if_pos hclose, if_pos ((firstByte_eq_iff (by decide)).2 hclose)]
            exact go (depth - 1)
          · rw [if_neg hclose, if_neg (mt (firstByte_eq_iff (by decide)).1 hclose)]
            by_cases hdepth : depth = 0
            · rw [if_pos hdepth, decide_eq_true hdepth, Bool.true_and, Bool.true_and]
              cases endsClause c with
              | true => rfl
              | false =>
                  cases hw : wholeWord? ['f', 'r', 'o', 'm'] before (c :: cs) with
                  | none => exact go depth
                  | some tail =>
                      have htext := wholeWord?_eq_some hw
                      rw [htext]
                      rfl
            · rw [if_neg hdepth, decide_eq_false hdepth]
              exact go depth

/-! ## Statements -/

/-- The import of `specifier` from `first` on, of which `behind` is left behind the quotes. -/
def closed (text first : List Char) (line : Nat) (clause : Option (List Char))
    (specifier behind : List Char) : Import where
  text := String.ofList (upTo first (afterSemicolon behind))
  start := offset text first
  stop := offset text (afterSemicolon behind)
  specifier := String.ofList specifier
  clause := clause.map String.ofList
  line := line

theorem slice_upTo {text first rest : List Char} (hfirst : first <:+ text)
    (hrest : rest <:+ first) :
    slice (String.ofList text) (offset text first) (offset text rest) =
      .ok (String.ofList (upTo first rest)) := by
  have hsplit := upTo_append hrest
  have hslice := slice_offset ((congrArg (· <:+ text) hsplit).mpr hfirst)
  rwa [hsplit] at hslice

theorem closeAt_offset {text first rest : List Char} (hfirst : first <:+ text)
    (hrest : rest <:+ first) (line : Nat) (clause : Option (List Char)) :
    closeAt (String.ofList text) (offset text first) line (clause.map String.ofList)
        (offset text rest) =
      .ok ((quoted? rest).map fun (specifier, behind) =>
        closed text first line clause specifier behind) := by
  rw [closeAt, readQuoted_offset (hrest.trans hfirst), bytesOf_ofList]
  cases hq : quoted? rest with
  | none => rfl
  | some read =>
      obtain ⟨specifier, behind⟩ := read
      have hbehind : behind <:+ first := (quoted?_suffix hq).trans hrest
      have hstop := finish_offset (hbehind.trans hfirst)
      have hslice := slice_upTo hfirst ((afterSemicolon_suffix behind).trans hbehind)
      simp only [Option.map_some, bind, Except.bind]
      rw [hstop, hslice]
      rfl

theorem bindAt_offset {text first clause tail : List Char} (hfirst : first <:+ text)
    (hbody : clause ++ fromWord ++ tail <:+ first) (line : Nat) :
    bindAt (String.ofList text) (offset text first) line
        (offset text (clause ++ fromWord ++ tail)) (offset text (fromWord ++ tail)) =
      .ok (if (trim clause).isEmpty = true ∨ isTypeOnly (trim clause) = true then none
        else (quoted? (tail.dropWhile isAsciiBlank)).map fun (specifier, behind) =>
          closed text first line (some (trim clause)) specifier behind) := by
  rw [List.append_assoc] at hbody ⊢
  have hfrom : fromWord ++ tail <:+ first := (List.suffix_append _ _).trans hbody
  have htail : tail <:+ first := (List.suffix_append _ _).trans hfrom
  have hquote : tail.dropWhile isAsciiBlank <:+ first := (List.dropWhile_suffix _).trans htail
  have hword : (Utf8.encode fromWord).length = 4 := by decide
  have hbehind := offset_advance (hfrom.trans hfirst)
  rw [hword] at hbehind
  rw [bindAt, slice_offset (hbody.trans hfirst), bytesOf_ofList, ← hbehind,
    skipWhile_offset (htail.trans hfirst) isBlankByte_testsAs]
  simp only [bind, Except.bind, String.toList_ofList, Bool.or_eq_true]
  by_cases hnone : (trim clause).isEmpty = true ∨ isTypeOnly (trim clause) = true
  · rw [if_pos hnone, if_pos hnone]
    rfl
  · rw [if_neg hnone, if_neg hnone]
    exact closeAt_offset hfirst hquote line (some (trim clause))

/-- Behind the keyword it makes no difference to a word `from` what stands in front of it. -/
theorem wholeWord?_fromWord_body {after : List Char} (hend : endsWord after = true) :
    wholeWord? fromWord ((after.takeWhile isAsciiBlank).getLast?.or (some 't'))
        (after.dropWhile isAsciiBlank) =
      wholeWord? fromWord none (after.dropWhile isAsciiBlank) := by
  cases hlast : (after.takeWhile isAsciiBlank).getLast? with
  | none =>
      have hall : after.dropWhile isAsciiBlank = after := by
        have hsplit := List.takeWhile_append_dropWhile (p := isAsciiBlank) (l := after)
        rwa [List.getLast?_eq_none_iff.1 hlast, List.nil_append] at hsplit
      rw [hall, wholeWord?, wholeWord?, dropLead?]
      by_cases hlead : fromWord.isPrefixOf after
      · obtain ⟨behind, rfl⟩ := List.isPrefixOf_iff_prefix.1 hlead
        have hgoesOn : endsWord (fromWord ++ behind) = false := rfl
        rw [hgoesOn] at hend
        exact absurd hend Bool.false_ne_true
      · rw [if_neg hlead]
        rfl
  | some c =>
      have hblank : isAsciiBlank c = true :=
        List.mem_takeWhile_imp (List.mem_of_getLast? hlast)
      have hstarts : startsWord (some c) = startsWord none := by
        simp only [isAsciiBlank, Bool.or_eq_true, beq_iff_eq] at hblank
        rcases hblank with (((rfl | rfl) | rfl) | rfl) | rfl <;> decide
      rw [Option.some_or, wholeWord?, wholeWord?]
      unfold startsWord at hstarts
      rw [hstarts]

theorem readAt_offset {text after : List Char} {before : Option Char}
    (h : Stands text before (keyword ++ after)) (hend : endsWord after = true) (line : Nat) :
    readAt (String.ofList text) (offset text (keyword ++ after)) line
        (offset text (after.dropWhile isAsciiBlank)) =
      .ok ((parts? (after.dropWhile isAsciiBlank)).map fun ((specifier, clause), behind) =>
        closed text (keyword ++ after) line clause specifier behind) := by
  have hword := wholeWord?_fromWord_body hend
  have hbody : Stands text ((after.takeWhile isAsciiBlank).getLast?.or (some 't'))
      (after.dropWhile isAsciiBlank) := by
    have hafter : Stands text (some 't') after := h.advance
    rw [← List.takeWhile_append_dropWhile (p := isAsciiBlank) (l := after)] at hafter
    exact hafter.advance
  have hsuffix : after.dropWhile isAsciiBlank <:+ keyword ++ after :=
    (List.dropWhile_suffix _).trans (List.suffix_append _ _)
  -- From here on all that matters of the blanks is the character in front of the body.
  revert hword hbody hsuffix
  generalize after.dropWhile isAsciiBlank = body
  generalize (after.takeWhile isAsciiBlank).getLast?.or (some 't') = behindKeyword
  intro hword hbody hsuffix
  unfold readAt parts?
  rw [bytesOf_ofList, getElem?_offset hbody.suffix]
  cases body with
  | nil => rfl
  | cons c cs =>
      rw [head?_encode_cons]
      simp only [Bool.or_eq_true, decide_eq_true_eq, firstByte_eq_iff (a := '(') (by decide),
        firstByte_eq_iff (a := '.') (by decide), firstByte_eq_iff (a := '"') (by decide),
        firstByte_eq_iff (a := '\'') (by decide)]
      by_cases hskip : c = '(' ∨ c = '.'
      · rw [if_pos hskip, if_pos hskip]
        rfl
      · rw [if_neg hskip, if_neg hskip]
        by_cases hquote : c = '"' ∨ c = '\''
        · rw [if_pos hquote, if_pos hquote, Option.map_map]
          exact closeAt_offset h.suffix hsuffix line none
        · have hlimit : offset text (c :: cs) + clauseLimit + 0 =
            offset text (c :: cs) + clauseLimit := rfl
          rw [if_neg hquote, if_neg hquote, fromOffset?_offset hbody hlimit 0,
            untilFrom?_congr_before hword]
          cases hfrom : untilFrom? none 0 0 (c :: cs) with
          | none => rfl
          | some found =>
              obtain ⟨clause, tail⟩ := found
              obtain ⟨htext, -⟩ := untilFrom?_eq_some_iff.1 hfrom
              rw [htext] at hsuffix ⊢
              simp only [Option.map_some]
              rw [bindAt_offset h.suffix hsuffix line]
              by_cases hnone : (trim clause).isEmpty = true ∨ isTypeOnly (trim clause) = true
              · rw [if_pos hnone, if_pos hnone]
                rfl
              · rw [if_neg hnone, if_neg hnone, Option.map_map]
                rfl

theorem place_stop {text after rest : List Char} {s : Statement} (h : keyword ++ after <:+ text)
    (hread : read? after = some (s, rest)) (line : Nat) :
    (s.place (offset text (keyword ++ after)) line).stop = offset text rest := by
  have hsplit := read?_append hread
  have hsuffix : s.text ++ rest <:+ text := hsplit.symm ▸ h
  rw [← hsplit, offset_advance hsuffix, ← utf8ByteSize_ofList]
  rfl

theorem closed_eq_place {text after behind : List Char} (h : keyword ++ after <:+ text)
    (hbehind : afterSemicolon behind <:+ after) (line : Nat) (specifier : List Char)
    (clause : Option (List Char)) :
    closed text (keyword ++ after) line clause specifier behind =
      place ⟨keyword ++ upTo after (afterSemicolon behind), specifier, clause⟩
        (offset text (keyword ++ after)) line := by
  have hsplit : keyword ++ upTo after (afterSemicolon behind) ++ afterSemicolon behind =
      keyword ++ after := by
    rw [List.append_assoc, upTo_append hbehind]
  have hstop := offset_advance (hsplit.symm ▸ h)
  rw [hsplit] at hstop
  simp only [closed, place, utf8ByteSize_ofList]
  rw [upTo_append_left hbehind, hstop]

/-- The bytes of a statement are read as its characters are. -/
theorem statementAt_offset {text after : List Char} {before : Option Char}
    (h : Stands text before (keyword ++ after)) (hend : endsWord after = true) (line : Nat) :
    statementAt (String.ofList text) (offset text (keyword ++ after)) line =
      .ok ((read? after).map fun (s, _) => s.place (offset text (keyword ++ after)) line) := by
  have hafter : after <:+ text := (List.suffix_append _ _).trans h.suffix
  have hbehind := offset_keyword h.suffix
  rw [statementAt, bytesOf_ofList, ← hbehind, skipWhile_offset hafter isBlankByte_testsAs,
    readAt_offset h hend, read?]
  cases hparts : parts? (after.dropWhile isAsciiBlank) with
  | none => rfl
  | some found =>
      obtain ⟨⟨specifier, clause⟩, behind⟩ := found
      have hrest : afterSemicolon behind <:+ after :=
        ((afterSemicolon_suffix behind).trans (parts?_suffix hparts)).trans
          (List.dropWhile_suffix _)
      have hplace := closed_eq_place h.suffix hrest line specifier clause
      exact congrArg (fun i => Except.ok (some i)) hplace

end ScopedStyles.ByteScan
