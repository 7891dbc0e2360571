import Mathlib.Data.Bool.AllAny
import Mathlib.Data.List.Chain
import Mathlib.Data.List.Sort
import Mathlib.Data.List.TakeWhile
import ScopedStyles.Text.Alphabetic
import ScopedStyles.Proofs.Text.LetterCase
/-!
# What the tables of letter case hold

The tables are compared run by run, since they list too many characters to look at each. No
character is both a capital and a small letter, all characters that have a small form are letters,
and so is what they become, and no case mapping gives a blank, an ASCII digit or punctuation that
was not there.
-/

namespace ScopedStyles.Text

open LetterCase

/-! ## Runs -/

namespace CodeRun

variable {r q : CodeRun} {n : Nat}

theorem contains_iff : r.contains n = true ↔
    (r.first ≤ n ∧ n ≤ r.last) ∧ (n - r.first) % r.step = 0 := by
  simp only [contains, Bool.and_eq_true, decide_eq_true_eq, beq_iff_eq]

/-- Whether steps of two or none keep to even or to odd code points. -/
def keepsParity (r : CodeRun) : Bool :=
  r.step == 2 || r.first == r.last

theorem mod_two_of_contains (hr : r.keepsParity = true) (hn : r.contains n = true) :
    n % 2 = r.first % 2 := by
  obtain ⟨hbounds, hstep⟩ := contains_iff.1 hn
  simp only [keepsParity, Bool.or_eq_true, beq_iff_eq] at hr
  rcases hr with htwo | hone
  · rw [htwo] at hstep
    omega
  · obtain rfl : n = r.first := by omega
    rfl

/-- A test for runs without a common code point. -/
def apart (r q : CodeRun) : Bool :=
  r.last.blt q.first || (q.last.blt r.first ||
    r.keepsParity && q.keepsParity && r.first % 2 != q.first % 2)

theorem contains_eq_false_of_apart (h : r.apart q = true) (hr : r.contains n = true) :
    q.contains n = false := by
  refine Bool.eq_false_iff.2 fun hq => ?_
  simp only [apart, Bool.or_eq_true, Bool.and_eq_true, Nat.blt_eq, bne_iff_ne] at h
  obtain ⟨hboundsr, -⟩ := contains_iff.1 hr
  obtain ⟨hboundsq, -⟩ := contains_iff.1 hq
  rcases h with h | h | ⟨⟨hparityr, hparityq⟩, hne⟩
  · omega
  · omega
  · exact hne ((mod_two_of_contains hparityr hr).symm.trans (mod_two_of_contains hparityq hq))

/-- A test for runs of which the first holds the second. -/
def covers (r q : CodeRun) : Bool :=
  q.last.ble r.last && r.first.ble q.first && (q.first - r.first) % r.step == 0 &&
    (q.step % r.step == 0 || q.first == q.last)

theorem contains_of_covers (h : r.covers q = true) (hq : q.contains n = true) :
    r.contains n = true := by
  simp only [covers, Bool.or_eq_true, Bool.and_eq_true, Nat.ble_eq, beq_iff_eq] at h
  obtain ⟨⟨⟨hlast, hfirst⟩, hstart⟩, hstep⟩ := h
  obtain ⟨hbounds, hmod⟩ := contains_iff.1 hq
  refine contains_iff.2 ⟨by omega, ?_⟩
  have hsplit : n - r.first = (n - q.first) + (q.first - r.first) := by omega
  have hinside : (n - q.first) % r.step = 0 := by
    rcases hstep with hstep | hone
    · exact Nat.mod_eq_zero_of_dvd
        (Nat.dvd_trans (Nat.dvd_of_mod_eq_zero hstep) (Nat.dvd_of_mod_eq_zero hmod))
    · have hzero : n - q.first = 0 := by omega
      rw [hzero, Nat.zero_mod]
  rw [hsplit, Nat.add_mod, hinside, hstart, Nat.zero_add, Nat.zero_mod]

end CodeRun

theorem inRuns_iff {runs : List CodeRun} {n : Nat} :
    inRuns runs n = true ↔ ∃ r ∈ runs, r.contains n = true :=
  List.any_eq_true

theorem inRuns_eq_false_of_apart {runs runs' : List CodeRun}
    (h : runs.all (fun r => runs'.all r.apart) = true) {n : Nat} (hn : inRuns runs n = true) :
    inRuns runs' n = false := by
  obtain ⟨r, hr, hcontains⟩ := inRuns_iff.1 hn
  refine Bool.eq_false_iff.2 fun hin => ?_
  obtain ⟨q, hq, hqcontains⟩ := inRuns_iff.1 hin
  have hapart := List.all_eq_true.1 (List.all_eq_true.1 h r hr) q hq
  rw [CodeRun.contains_eq_false_of_apart hapart hcontains] at hqcontains
  cases hqcontains

/-! ## Long tables -/

/-- Runs in the order of their first code points. -/
def Ascending (runs : List CodeRun) : Prop :=
  runs.IsChain fun r q => r.first ≤ q.first

instance (runs : List CodeRun) : Decidable (Ascending runs) :=
  inferInstanceAs (Decidable (runs.IsChain fun r q => r.first ≤ q.first))

theorem Ascending.pairwise {runs : List CodeRun} (h : Ascending runs) :
    runs.Pairwise fun r q => r.first ≤ q.first := by
  have htrans : Trans (fun r q : CodeRun => r.first ≤ q.first)
      (fun r q : CodeRun => r.first ≤ q.first) (fun r q : CodeRun => r.first ≤ q.first) :=
    ⟨Nat.le_trans⟩
  exact List.isChain_iff_pairwise.1 h

/-- A test for two tables in ascending order without a common code point. Only runs that overlap
are compared. -/
def apartAll : List CodeRun → List CodeRun → Bool
  | _, [] => true
  | runs, r :: rs =>
    let runs := runs.dropWhile (·.last.blt r.first)
    (runs.takeWhile (·.first.ble r.last)).all r.apart && apartAll runs rs

theorem mem_dropWhile_of_le_last {runs : List CodeRun} {q : CodeRun} {n : Nat} (hq : q ∈ runs)
    (h : n ≤ q.last) : q ∈ runs.dropWhile (·.last.blt n) := by
  rw [← List.takeWhile_append_dropWhile (p := (·.last.blt n)) (l := runs)] at hq
  refine (List.mem_append.1 hq).resolve_left fun htake => ?_
  have hlast : q.last.blt n = true :=
    List.mem_takeWhile_imp (p := fun r : CodeRun => r.last.blt n) htake
  rw [Nat.blt_eq] at hlast
  omega

theorem Ascending.mem_takeWhile {runs : List CodeRun} (h : Ascending runs) {q : CodeRun}
    (hq : q ∈ runs) {n : Nat} (hn : q.first ≤ n) : q ∈ runs.takeWhile (·.first.ble n) := by
  induction runs with
  | nil => cases hq
  | cons r rs ih =>
      have hr : r.first ≤ n := by
        rcases List.mem_cons.1 hq with rfl | hmem
        · exact hn
        · exact Nat.le_trans ((List.pairwise_cons.1 h.pairwise).1 q hmem) hn
      rw [List.takeWhile_cons_of_pos (p := fun r : CodeRun => r.first.ble n)
        (Nat.ble_eq_true_of_le hr)]
      rcases List.mem_cons.1 hq with rfl | hmem
      · exact List.mem_cons_self
      · exact List.mem_cons_of_mem r (ih h.tail hmem)

theorem inRuns_eq_false_of_apartAll {runs runs' : List CodeRun} (hruns : Ascending runs)
    (hruns' : Ascending runs') (h : apartAll runs' runs = true) {n : Nat}
    (hn : inRuns runs n = true) : inRuns runs' n = false := by
  refine Bool.eq_false_iff.2 fun hin => ?_
  obtain ⟨q, hq, hqn⟩ := inRuns_iff.1 hin
  obtain ⟨⟨hfirst, hlast⟩, -⟩ := CodeRun.contains_iff.1 hqn
  induction runs generalizing runs' with
  | nil => cases hn
  | cons r rs ih =>
      simp only [apartAll, Bool.and_eq_true] at h
      obtain ⟨hapart, hrest⟩ := h
      have hsuffix := List.dropWhile_suffix (·.last.blt r.first) (l := runs')
      have hstart : r.first ≤ n := by
        obtain ⟨r', hr', hcontains⟩ := inRuns_iff.1 hn
        obtain ⟨⟨hfirst', -⟩, -⟩ := CodeRun.contains_iff.1 hcontains
        rcases List.mem_cons.1 hr' with rfl | hr'
        · exact hfirst'
        · exact Nat.le_trans ((List.pairwise_cons.1 hruns.pairwise).1 r' hr') hfirst'
      have hq' := mem_dropWhile_of_le_last hq (Nat.le_trans hstart hlast)
      have hascending : Ascending (runs'.dropWhile (·.last.blt r.first)) :=
        List.IsChain.suffix hruns' hsuffix
      rcases Bool.or_eq_true_iff.1 hn with hr | hrs
      · obtain ⟨⟨-, hend⟩, -⟩ := CodeRun.contains_iff.1 hr
        have hnear := hascending.mem_takeWhile hq' (Nat.le_trans hfirst hend)
        have hnot := CodeRun.contains_eq_false_of_apart (List.all_eq_true.1 hapart q hnear) hr
        rw [hqn] at hnot
        cases hnot
      · exact ih hruns.tail hascending hrest hrs (inRuns_iff.2 ⟨q, hq', hqn⟩) hq'

/-- A test for two tables in ascending order, of which the first holds the second. -/
def coversAll : List CodeRun → List CodeRun → Bool
  | _, [] => true
  | runs, r :: rs =>
    let runs := runs.dropWhile (·.last.blt r.first)
    runs.head?.any (·.covers r) && coversAll runs rs

theorem inRuns_of_coversAll {runs runs' : List CodeRun} (h : coversAll runs' runs = true) {n : Nat}
    (hn : inRuns runs n = true) : inRuns runs' n = true := by
  induction runs generalizing runs' with
  | nil => cases hn
  | cons r rs ih =>
      have hsub := List.dropWhile_subset (·.last.blt r.first) (l := runs')
      simp only [coversAll, Bool.and_eq_true, Option.any_eq_true] at h
      obtain ⟨⟨q, hq, hcovers⟩, hrest⟩ := h
      rcases Bool.or_eq_true_iff.1 hn with hr | hrs
      · exact inRuns_iff.2
          ⟨q, hsub (List.mem_of_head? hq), CodeRun.contains_of_covers hcovers hr⟩
      · obtain ⟨q, hq, hcontains⟩ := inRuns_iff.1 (ih hrest hrs)
        exact inRuns_iff.2 ⟨q, hsub hq, hcontains⟩

/-- A table in ascending order. -/
def sorted (runs : List CodeRun) : List CodeRun :=
  runs.insertionSort fun r q => r.first ≤ q.first

theorem inRuns_sorted (runs : List CodeRun) (n : Nat) : inRuns (sorted runs) n = inRuns runs n :=
  (List.perm_insertionSort _ runs).any_eq

/-! ## Shifted runs -/

namespace LetterCase

/-- What the code points of a run are mapped to. -/
def ShiftRun.image (r : ShiftRun) : CodeRun :=
  ⟨(r.run.first + r.shift).toNat, (r.run.last + r.shift).toNat, r.run.step⟩

theorem ShiftRun.image_contains {r : ShiftRun} (h : 0 ≤ r.run.first + r.shift) {n : Nat}
    (hn : r.run.contains n = true) : r.image.contains (n + r.shift).toNat = true := by
  obtain ⟨⟨hfirst, hlast⟩, hmod⟩ := CodeRun.contains_iff.1 hn
  have hsame : (n + r.shift).toNat - (r.run.first + r.shift).toNat = n - r.run.first := by omega
  refine CodeRun.contains_iff.2 ⟨⟨?_, ?_⟩, ?_⟩
  · exact Int.toNat_le_toNat (by omega)
  · exact Int.toNat_le_toNat (by omega)
  · rwa [← hsame] at hmod

/-- The runs of code points that a table maps others to. -/
def images (shifts : List ShiftRun) : List CodeRun :=
  shifts.map ShiftRun.image

theorem shifted_eq_self_or {shifts : List ShiftRun}
    (h : shifts.all (fun r => 0 ≤ r.run.first + r.shift) = true) (n : Nat) :
    shifted shifts n = n ∨ inRuns (shifts.map ShiftRun.run) n = true ∧
      inRuns (images shifts) (shifted shifts n) = true := by
  cases hfind : shifts.find? (·.run.contains n) with
  | none => exact .inl (by simp only [shifted, hfind])
  | some r =>
      have hr : r ∈ shifts := List.mem_of_find?_eq_some hfind
      have hcontains : r.run.contains n = true :=
        List.find?_some (p := fun r : ShiftRun => r.run.contains n) hfind
      have hshifted : shifted shifts n = (n + r.shift).toNat := by simp only [shifted, hfind]
      refine .inr ⟨inRuns_iff.2 ⟨r.run, List.mem_map_of_mem hr, hcontains⟩, ?_⟩
      rw [hshifted]
      refine inRuns_iff.2 ⟨r.image, List.mem_map_of_mem hr, ShiftRun.image_contains ?_ hcontains⟩
      exact of_decide_eq_true (List.all_eq_true.1 h r hr)

theorem lowerShifts_shifted (n : Nat) : shifted lowerShifts n = n ∨
    inRuns (lowerShifts.map ShiftRun.run) n = true ∧
      inRuns (images lowerShifts) (shifted lowerShifts n) = true :=
  shifted_eq_self_or (by decide) n

theorem upperShifts_shifted (n : Nat) : shifted upperShifts n = n ∨
    inRuns (upperShifts.map ShiftRun.run) n = true ∧
      inRuns (images upperShifts) (shifted upperShifts n) = true :=
  shifted_eq_self_or (by decide) n

end LetterCase

/-! ## Capital and small letters -/

theorem eq_false_swap {a b : Bool} (h : a = true → b = false) (hb : b = true) : a = false := by
  refine Bool.eq_false_iff.2 fun ha => ?_
  rw [h ha] at hb
  cases hb

/-- No capital is a small letter. -/
theorem isLowercase_eq_false_of_isUppercase {c : Char} (h : isUppercase c = true) :
    isLowercase c = false := by
  by_cases hascii : c.toNat < 0x80
  · exact of_ascii (P := fun c => isUppercase c = true → isLowercase c = false) (by decide)
      hascii h
  · rw [isUppercase, if_neg hascii] at h
    rw [isLowercase, if_neg hascii]
    exact inRuns_eq_false_of_apartAll (by decide +kernel) (by decide +kernel)
      (by decide) h

theorem isUppercase_eq_false_of_isLowercase {c : Char} (h : isLowercase c = true) :
    isUppercase c = false :=
  eq_false_swap isLowercase_eq_false_of_isUppercase h

theorem isAlphabetic_of_isUppercase {c : Char} (h : isUppercase c = true) :
    isAlphabetic c = true := by
  by_cases hascii : c.toNat < 0x80
  · exact of_ascii (P := fun c => isUppercase c = true → isAlphabetic c = true) (by decide)
      hascii h
  · rw [isUppercase, if_neg hascii] at h
    rw [isAlphabetic, if_neg hascii]
    exact inRuns_of_coversAll (by decide) h

/-! ## What mappings give -/

theorem toNat_ofNat_of_isValidChar {n : Nat} (h : n.isValidChar) : (Char.ofNat n).toNat = n := by
  rw [Char.ofNat, dif_pos h]
  rfl

/-- Letters of ASCII and of the table. -/
def letterRuns : List CodeRun :=
  ⟨0x61, 0x7A, 1⟩ :: alphabeticRuns

theorem isAlphabetic_ofNat {n : Nat} (h : inRuns letterRuns n = true) :
    isAlphabetic (Char.ofNat n) = true := by
  obtain ⟨r, hr, hcontains⟩ := inRuns_iff.1 h
  obtain ⟨⟨hfirst, hlast⟩, -⟩ := CodeRun.contains_iff.1 hcontains
  rcases List.mem_cons.1 hr with rfl | hr
  · have hascii : ∀ n < 0x80, 0x61 ≤ n → n ≤ 0x7A → isAlphabetic (Char.ofNat n) = true := by
      decide
    exact hascii n (Nat.lt_of_le_of_lt hlast (by decide)) hfirst hlast
  · have hall : alphabeticRuns.all (fun r => 0x80 ≤ r.first &&
        (r.last < 0xD800 || 0xDFFF < r.first && r.last < 0x110000)) = true := by decide +kernel
    have hrun := List.all_eq_true.1 hall r hr
    simp only [Bool.or_eq_true, Bool.and_eq_true, decide_eq_true_eq] at hrun
    have hvalid : n.isValidChar := by
      rw [Nat.isValidChar]
      omega
    rw [isAlphabetic, toNat_ofNat_of_isValidChar hvalid, if_neg (by omega)]
    exact inRuns_iff.2 ⟨r, hr, hcontains⟩

/-- Blanks, digits and punctuation of ASCII, other blanks, and `İ`. -/
def unmappedRuns : List CodeRun := [
  ⟨0x09, 0x40, 1⟩, ⟨0x5B, 0x60, 1⟩, ⟨0x7B, 0xA0, 1⟩, ⟨0x130, 0x130, 1⟩, ⟨0x1680, 0x1680, 1⟩,
  ⟨0x2000, 0x206F, 1⟩, ⟨0x3000, 0x3000, 1⟩]

/-- Characters that no other character is mapped to. -/
def isUnmapped (c : Char) : Bool :=
  inRuns unmappedRuns c.toNat

theorem isUnmapped_ofNat {n : Nat} (h : inRuns unmappedRuns n = false) :
    isUnmapped (Char.ofNat n) = false := by
  by_cases hvalid : n.isValidChar
  · rw [isUnmapped, toNat_ofNat_of_isValidChar hvalid]
    exact h
  · have hzero : Char.ofNat n = '\x00' := by
      rw [Char.ofNat, dif_neg hvalid]
      rfl
    rw [hzero]
    decide

theorem isUnmapped_of_isBlank {c : Char} (h : isBlank c = true) : isUnmapped c = true := by
  simp only [isBlank, Bool.or_eq_true, Bool.and_eq_true, decide_eq_true_eq, beq_iff_eq] at h
  simp only [isUnmapped, unmappedRuns, inRuns, List.any_cons, List.any_nil, CodeRun.contains,
    Bool.or_eq_true, Bool.and_eq_true, decide_eq_true_eq, beq_iff_eq]
  omega

theorem singleton_eq_self_or {c d : Char} (h : d = c ∨ isUnmapped d = false) :
    [d] = [c] ∨ ∀ e ∈ [d], isUnmapped e = false :=
  h.imp (congrArg ([·])) fun hd => List.forall_mem_singleton.2 hd

/-- A character is its own small form, or no character of its small form is an unmapped one. -/
theorem lowerChar_eq_self_or (c : Char) :
    lowerChar c = [c] ∨ ∀ d ∈ lowerChar c, isUnmapped d = false := by
  by_cases hascii : c.toNat < 0x80
  · rw [lowerChar_of_lt hascii]
    exact singleton_eq_self_or
      (of_ascii (P := fun c => c.toLower = c ∨ isUnmapped c.toLower = false) (by decide)
        hascii)
  · rw [lowerChar, if_neg hascii]
    split
    · exact .inr (List.all_iff_forall_prop.1 (by decide))
    · refine singleton_eq_self_or ?_
      rcases lowerShifts_shifted c.toNat with hsame | ⟨-, himage⟩
      · rw [hsame, Char.ofNat_toNat]
        exact .inl rfl
      · exact .inr (isUnmapped_ofNat (inRuns_eq_false_of_apart (by decide) himage))

theorem mem_upperSequences {n : Nat} {seq : List Nat} (h : upperSequences.lookup n = some seq) :
    (n, seq) ∈ upperSequences := by
  obtain ⟨front, back, hsplit, -⟩ := List.lookup_eq_some_iff.1 h
  rw [hsplit]
  exact List.mem_append_right front List.mem_cons_self

theorem upperChar_eq_self_or (c : Char) :
    upperChar c = [c] ∨ ∀ d ∈ upperChar c, isUnmapped d = false := by
  by_cases hascii : c.toNat < 0x80
  · rw [upperChar_of_lt hascii]
    exact singleton_eq_self_or
      (of_ascii (P := fun c => c.toUpper = c ∨ isUnmapped c.toUpper = false) (by decide)
        hascii)
  · rw [upperChar, if_neg hascii]
    split
    · next seq hlookup =>
      have hall : upperSequences.all
          (fun p => p.2.all fun n => !inRuns unmappedRuns n) = true := by decide
      have hseq := List.all_eq_true.1 (List.all_eq_true.1 hall _ (mem_upperSequences hlookup))
      refine .inr (List.forall_mem_map.2 fun n hn => isUnmapped_ofNat ?_)
      simpa using hseq n hn
    · refine singleton_eq_self_or ?_
      rcases upperShifts_shifted c.toNat with hsame | ⟨-, himage⟩
      · rw [hsame, Char.ofNat_toNat]
        exact .inl rfl
      · exact .inr (isUnmapped_ofNat (inRuns_eq_false_of_apart (by decide) himage))

theorem lowerChar_ne_nil (c : Char) : lowerChar c ≠ [] := by
  rw [lowerChar]
  split
  · exact List.cons_ne_nil _ _
  · split <;> exact List.cons_ne_nil _ _

theorem upperChar_ne_nil (c : Char) : upperChar c ≠ [] := by
  rw [upperChar]
  split
  · exact List.cons_ne_nil _ _
  · split
    · next seq hlookup =>
      have hall : upperSequences.all (fun p => !p.2.isEmpty) = true := by decide
      simpa using List.all_eq_true.1 hall _ (mem_upperSequences hlookup)
    · exact List.cons_ne_nil _ _

/-- Except for `İ` the small form is one character. It is the character itself or a letter in place
of another letter. -/
theorem exists_lowerChar {c : Char} (hc : c ≠ 'İ') :
    ∃ l, lowerChar c = [l] ∧ (l = c ∨ isAlphabetic c = true ∧ isAlphabetic l = true) := by
  by_cases hascii : c.toNat < 0x80
  · refine ⟨c.toLower, lowerChar_of_lt hascii, ?_⟩
    exact of_ascii (P := fun c => c.toLower = c ∨
      isAlphabetic c = true ∧ isAlphabetic c.toLower = true) (by decide) hascii
  · refine ⟨Char.ofNat (shifted lowerShifts c.toNat), ?_, ?_⟩
    · rw [lowerChar, if_neg hascii, if_neg hc]
    · rcases lowerShifts_shifted c.toNat with hsame | ⟨hrun, himage⟩
      · rw [hsame, Char.ofNat_toNat]
        exact .inl rfl
      · refine .inr ⟨?_, ?_⟩
        · rw [isAlphabetic, if_neg hascii]
          exact inRuns_of_coversAll (by decide) hrun
        · rw [← inRuns_sorted] at himage
          exact isAlphabetic_ofNat (inRuns_of_coversAll (by decide +kernel) himage)

/-- What is no letter has no other capital form. -/
theorem upperChar_of_not_isAlphabetic {c : Char} (h : isAlphabetic c = false) :
    upperChar c = [c] := by
  by_cases hascii : c.toNat < 0x80
  · exact of_ascii (P := fun c => isAlphabetic c = false → upperChar c = [c]) (by decide)
      hascii h
  · rw [isAlphabetic, if_neg hascii] at h
    have hnot {runs : List CodeRun} (hall : coversAll alphabeticRuns runs = true) :
        ¬ inRuns runs c.toNat = true := fun hin => by
      rw [inRuns_of_coversAll hall hin] at h
      cases h
    rw [upperChar, if_neg hascii]
    split
    · next seq hlookup =>
      have hall : coversAll alphabeticRuns (upperSequences.map fun p => ⟨p.1, p.1, 1⟩) = true := by
        decide
      refine absurd (inRuns_iff.2 ⟨⟨c.toNat, c.toNat, 1⟩, ?_, ?_⟩) (hnot hall)
      · exact List.mem_map_of_mem (mem_upperSequences hlookup)
      · exact CodeRun.contains_iff.2 ⟨⟨Nat.le_refl _, Nat.le_refl _⟩, Nat.mod_one _⟩
    · rcases upperShifts_shifted c.toNat with hsame | ⟨hrun, -⟩
      · rw [hsame, Char.ofNat_toNat]
      · exact absurd hrun (hnot (by decide +kernel))

end ScopedStyles.Text
