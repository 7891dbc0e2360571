import ScopedStyles.Proofs.Text.Split
import ScopedStyles.Text.Alphabetic
/-!
# Parts between separators

What the ways of splitting a text give when the text is put together from its parts, and that blanks
at the ends of a text change none of them.
-/

namespace ScopedStyles.Text

/-! ## Blanks and words -/

theorem isBlank_of_all_ascii {gap : List Char} (hgap : ∀ c ∈ gap, isAsciiBlank c = true) :
    ∀ c ∈ gap, isBlank c = true :=
  fun c hc => isBlank_of_isAsciiBlank (hgap c hc)

theorem isAlphanumeric_eq_false_of_isBlank {c : Char} (h : isBlank c = true) :
    isAlphanumeric c = false := by
  have hvalue : ∀ n ∈ [0x09, 0x0A, 0x0B, 0x0C, 0x0D, 0x20, 0x85, 0xA0, 0x1680, 0x2000, 0x2001,
      0x2002, 0x2003, 0x2004, 0x2005, 0x2006, 0x2007, 0x2008, 0x2009, 0x200A, 0x2028, 0x2029,
      0x202F, 0x205F, 0x3000], isAlphanumeric (Char.ofNat n) = false := by
    decide +kernel
  rw [← Char.ofNat_toNat c]
  refine hvalue c.toNat ?_
  simp only [isBlank, Bool.or_eq_true, Bool.and_eq_true, decide_eq_true_eq, beq_iff_eq] at h
  simp only [List.mem_cons, List.not_mem_nil, or_false]
  omega

theorem exists_trim_append (cs : List Char) :
    ∃ front back, cs = front ++ trim cs ++ back ∧ (∀ c ∈ front, isBlank c = true) ∧
      ∀ c ∈ back, isBlank c = true := by
  have hfront := List.takeWhile_append_dropWhile (p := isBlank) (l := cs)
  have hback := congrArg List.reverse
    (List.takeWhile_append_dropWhile (p := isBlank) (l := (trimStart cs).reverse))
  rw [List.reverse_append, List.reverse_reverse] at hback
  refine ⟨cs.takeWhile isBlank, ((trimStart cs).reverse.takeWhile isBlank).reverse, ?_,
    fun _ => List.mem_takeWhile_imp, fun c hc => List.mem_takeWhile_imp (List.mem_reverse.1 hc)⟩
  rw [List.append_assoc]
  exact hfront.symm.trans (congrArg (cs.takeWhile isBlank ++ ·) hback.symm)

theorem trim_subset (cs : List Char) : trim cs ⊆ cs := by
  obtain ⟨front, back, hcs, -, -⟩ := exists_trim_append cs
  intro c hc
  rw [hcs]
  exact List.mem_append_left _ (List.mem_append_right _ hc)

/-- Blanks behind a text do not matter. -/
theorem trim_append_gap (cs : List Char) {gap : List Char} (hgap : ∀ c ∈ gap, isBlank c = true) :
    trim (cs ++ gap) = trim cs := by
  obtain ⟨front, back, hcs, hfront, hback⟩ := exists_trim_append cs
  have hgaps : ∀ c ∈ back ++ gap, isBlank c = true := by
    intro c hc
    exact (List.mem_append.1 hc).elim (hback c) (hgap c)
  have htext : cs ++ gap = front ++ (trim cs ++ (back ++ gap)) := by
    rw [← List.append_assoc, ← List.append_assoc, ← hcs]
  rw [htext, trim_blanks_append hfront, trim_append_blanks (trim_trim cs) hgaps]

theorem trim_eq_nil {gap : List Char} (hgap : ∀ c ∈ gap, isBlank c = true) : trim gap = [] :=
  trim_append_gap [] hgap

/-- A text between characters that are not blank is trimmed. -/
theorem trim_eq_self {cs : List Char} (hhead : ∀ c ∈ cs.head?, isBlank c = false)
    (hlast : ∀ c ∈ cs.getLast?, isBlank c = false) : trim cs = cs := by
  obtain ⟨front, back, hcs, hfront, hback⟩ := exists_trim_append cs
  have hfront : front = [] := by
    cases front with
    | nil => rfl
    | cons c front =>
        have hc := hhead c (by rw [hcs]; rfl)
        rw [hfront c List.mem_cons_self] at hc
        cases hc
  have hback : back = [] := by
    cases hend : back.getLast? with
    | none => exact List.getLast?_eq_none_iff.1 hend
    | some c =>
        have hc := hlast c (by rw [hcs, List.getLast?_append, hend]; rfl)
        rw [hback c (List.mem_of_getLast? hend)] at hc
        cases hc
  rw [hfront, hback, List.append_nil, List.nil_append] at hcs
  exact hcs.symm

/-- What a text looks like that starts with no blank: its first word, and the words behind it. -/
theorem words_append {word : List Char} (hne : word ≠ []) (hword : ∀ c ∈ word, isBlank c = false)
    (cs : List Char) :
    words (word ++ cs) =
      (word ++ cs.takeWhile (!isBlank ·)) :: words (cs.dropWhile (!isBlank ·)) := by
  -- `words.go` keeps the characters of the word so far, last one first.
  have hgo (cs : List Char) : ∀ front, front ≠ [] →
      words.go front cs =
        (front.reverse ++ cs.takeWhile (!isBlank ·)) :: words (cs.dropWhile (!isBlank ·)) := by
    induction cs with
    | nil =>
        intro front hfront
        rw [words.go, if_neg (by simpa using hfront)]
        simp [words, words.go]
    | cons c cs ih =>
        intro front hfront
        rw [words.go]
        cases hc : isBlank c with
        | true =>
            rw [if_pos rfl, if_neg (by simpa using hfront)]
            simp [hc, words, words.go]
        | false =>
            rw [if_neg (by simp), ih _ (List.cons_ne_nil _ _)]
            simp [hc]
  have hpass (word : List Char) (hword : ∀ c ∈ word, isBlank c = false) : ∀ front,
      words.go front (word ++ cs) = words.go (word.reverse ++ front) cs := by
    induction word with
    | nil => exact fun front => rfl
    | cons c word ih =>
        intro front
        rw [List.cons_append, words.go, hword c List.mem_cons_self, if_neg (by simp),
          ih fun d hd => hword d (List.mem_cons_of_mem c hd)]
        simp
  rw [words, hpass word hword, hgo cs _ (by simpa using hne)]
  simp

theorem words_blanks_append {gap : List Char} (hgap : ∀ c ∈ gap, isBlank c = true)
    (cs : List Char) : words (gap ++ cs) = words cs := by
  induction gap with
  | nil => rfl
  | cons c gap ih =>
      rw [← ih fun d hd => hgap d (List.mem_cons_of_mem c hd)]
      rw [List.cons_append, words, words.go, hgap c List.mem_cons_self]
      rfl

theorem words_trimStart (cs : List Char) : words (trimStart cs) = words cs := by
  have hblanks : ∀ c ∈ cs.takeWhile isBlank, isBlank c = true := fun _ => List.mem_takeWhile_imp
  rw [← words_blanks_append hblanks, trimStart, List.takeWhile_append_dropWhile]

theorem words_append_blanks {gap : List Char} (hgap : ∀ c ∈ gap, isBlank c = true)
    (cs : List Char) : words (cs ++ gap) = words cs := by
  have hnone (gap : List Char) (hgap : ∀ c ∈ gap, isBlank c = true) : words gap = [] := by
    rw [← List.append_nil gap, words_blanks_append hgap]
    rfl
  have hgo (cs : List Char) : ∀ front, words.go front (cs ++ gap) = words.go front cs := by
    induction cs with
    | nil =>
        intro front
        cases gap with
        | nil => rfl
        | cons c gap =>
            have hrest : words.go [] gap = [] :=
              hnone gap fun d hd => hgap d (List.mem_cons_of_mem c hd)
            have hc := hgap c List.mem_cons_self
            simp only [List.nil_append, words.go, hc, if_true, hrest]
    | cons c cs ih =>
        intro front
        rw [List.cons_append, words.go, words.go, ih, ih]
  exact hgo cs []

/-- A word in front of a blank is a word of its own. -/
theorem words_append_cons {word : List Char} (hne : word ≠ [])
    (hword : ∀ c ∈ word, isBlank c = false) {c : Char} (hc : isBlank c = true) (cs : List Char) :
    words (word ++ c :: cs) = word :: words (c :: cs) := by
  rw [words_append hne hword]
  simp [hc]

/-- The words of a text are those on either side of a blank. -/
theorem words_append_blank (front : List Char) {c : Char} (hc : isBlank c = true)
    (back : List Char) : words (front ++ c :: back) = words front ++ words back := by
  have hgo (front : List Char) : ∀ word,
      words.go word (front ++ c :: back) = words.go word front ++ words.go [] back := by
    induction front with
    | nil =>
        intro word
        simp only [List.nil_append, words.go, hc, if_true]
        split <;> rfl
    | cons d front ih =>
        intro word
        rw [List.cons_append, words.go, words.go]
        split
        · split <;> rw [ih]
          rfl
        · exact ih _
  exact hgo front []

/-! ## Separators -/

section

variable {α : Type} [DecidableEq α] {sep : α}

theorem splitOn_of_not_mem {cs : List α} (h : sep ∉ cs) : splitOn sep cs = [cs] := by
  induction cs with
  | nil => rfl
  | cons c cs ih =>
      rw [splitOn, if_neg (List.ne_of_not_mem_cons h).symm, ih (List.not_mem_of_not_mem_cons h)]

theorem splitOn_ne_nil (sep : α) (cs : List α) : splitOn sep cs ≠ [] := by
  cases cs with
  | nil => exact List.cons_ne_nil _ _
  | cons c cs =>
      rw [splitOn]
      split
      · exact List.cons_ne_nil _ _
      · split <;> exact List.cons_ne_nil _ _

theorem splitOn_append_sep (front back : List α) :
    splitOn sep (front ++ sep :: back) = splitOn sep front ++ splitOn sep back := by
  induction front with
  | nil => simp [splitOn]
  | cons c front ih =>
      rw [List.cons_append, splitOn, splitOn, ih]
      split
      · rfl
      · cases hfront : splitOn sep front with
        | nil => exact absurd hfront (splitOn_ne_nil sep front)
        | cons part parts => rfl

theorem splitOn_append_cons {front : List α} (h : sep ∉ front) (back : List α) :
    splitOn sep (front ++ sep :: back) = front :: splitOn sep back := by
  rw [splitOn_append_sep, splitOn_of_not_mem h, List.singleton_append]

/-- Every part of a text but the last one stands in front of a separator. -/
theorem exists_splitOn_of_mem {cs : List α} (h : sep ∈ cs) :
    ∃ front back, cs = front ++ sep :: back ∧ sep ∉ front ∧
      splitOn sep cs = front :: splitOn sep back := by
  obtain ⟨front, back, rfl, hfront⟩ := List.eq_append_cons_of_mem h
  exact ⟨front, back, rfl, hfront, splitOn_append_cons hfront back⟩

theorem splitOn_reverse (cs : List α) :
    splitOn sep cs.reverse = ((splitOn sep cs).map List.reverse).reverse := by
  induction hn : cs.length using Nat.strong_induction_on generalizing cs with
  | _ n ih =>
      by_cases hsep : sep ∈ cs
      · obtain ⟨front, back, rfl, hfront, hsplit⟩ := exists_splitOn_of_mem hsep
        have hshorter : back.length < n := by
          rw [← hn, List.length_append, List.length_cons]
          omega
        have hlast : splitOn sep front.reverse = [front.reverse] :=
          splitOn_of_not_mem (mt List.mem_reverse.1 hfront)
        rw [hsplit, List.map_cons, List.reverse_cons, ← ih _ hshorter back rfl, ← hlast,
          ← splitOn_append_sep, List.reverse_append, List.reverse_cons, List.append_assoc,
          List.singleton_append]
      · rw [splitOn_of_not_mem hsep, splitOn_of_not_mem (mt List.mem_reverse.1 hsep)]
        rfl

end

theorem splitAtFirst?_of_not_mem {sep : Char} {cs : List Char} (h : sep ∉ cs) :
    splitAtFirst? [sep] cs = none := by
  induction cs with
  | nil => rfl
  | cons c cs ih =>
      have hlead : ¬ [sep].isPrefixOf (c :: cs) = true := by
        simpa using List.ne_of_not_mem_cons h
      rw [splitAtFirst?, if_neg hlead, ih (List.not_mem_of_not_mem_cons h)]
      rfl

theorem splitAtFirst?_append_cons {sep : Char} {front : List Char} (h : sep ∉ front)
    (back : List Char) : splitAtFirst? [sep] (front ++ sep :: back) = some (front, back) := by
  induction front with
  | nil => simp [splitAtFirst?]
  | cons c front ih =>
      have hlead : ¬ [sep].isPrefixOf (c :: (front ++ sep :: back)) = true := by
        simpa using List.ne_of_not_mem_cons h
      rw [List.cons_append, splitAtFirst?, if_neg hlead, ih (List.not_mem_of_not_mem_cons h)]
      rfl

theorem splitAtFirst?_eq_some {sep cs front back : List Char}
    (h : splitAtFirst? sep cs = some (front, back)) : cs = front ++ sep ++ back := by
  induction cs generalizing front with
  | nil =>
      cases sep with
      | nil =>
          cases h
          rfl
      | cons c sep => cases h
  | cons c cs ih =>
      rw [splitAtFirst?] at h
      split at h
      · next hlead =>
          obtain ⟨tail, htail⟩ := List.isPrefixOf_iff_prefix.1 hlead
          cases h
          rw [← htail, List.drop_left]
          rfl
      · obtain ⟨⟨front', back'⟩, hrest, heq⟩ := Option.map_eq_some_iff.1 h
        cases heq
        rw [ih hrest]
        rfl

/-- Every character but the separators is in a part, and the parts hold no others. -/
theorem exists_part_iff {α : Type} [DecidableEq α] {sep c : α} (hc : c ≠ sep) (cs : List α) :
    (∃ part ∈ splitOn sep cs, c ∈ part) ↔ c ∈ cs := by
  induction hn : cs.length using Nat.strong_induction_on generalizing cs with
  | _ n ih =>
      by_cases hsep : sep ∈ cs
      · obtain ⟨front, back, rfl, -, hsplit⟩ := exists_splitOn_of_mem hsep
        have hshorter : back.length < n := by
          rw [← hn, List.length_append, List.length_cons]
          omega
        rw [hsplit, List.exists_mem_cons_iff, ih _ hshorter back rfl]
        simp [hc]
      · rw [splitOn_of_not_mem hsep]
        simp

theorem splitAtLast?_of_not_mem {sep : Char} {cs : List Char} (h : sep ∉ cs) :
    splitAtLast? sep cs = none := by
  induction cs with
  | nil => rfl
  | cons c cs ih =>
      rw [splitAtLast?, ih (List.not_mem_of_not_mem_cons h)]
      exact if_neg (List.ne_of_not_mem_cons h).symm

theorem splitAtLast?_append_cons {sep : Char} {back : List Char} (h : sep ∉ back)
    (front : List Char) : splitAtLast? sep (front ++ sep :: back) = some (front, back) := by
  induction front with
  | nil =>
      rw [List.nil_append, splitAtLast?, splitAtLast?_of_not_mem h]
      exact if_pos rfl
  | cons c front ih => rw [List.cons_append, splitAtLast?, ih]

end ScopedStyles.Text
