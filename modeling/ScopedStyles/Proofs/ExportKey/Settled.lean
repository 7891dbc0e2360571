import ScopedStyles.Proofs.Text.Parts
import ScopedStyles.Proofs.ExportKey.Keys
/-!
# Keys that are converted again

A key is converted to itself exactly if each of its characters is what the conversion writes at its
place. A capital whose neighbours make no boundary in front of it becomes small, so the words of one
letter that a key runs together are not told apart any more, and a small letter behind a digit
becomes a capital.
-/

namespace ScopedStyles.ExportKey

open Text

/-! ## Settled keys -/

/-- Whether the character `c` between `before` and `cs` is raised: at a boundary, and behind a digit
unless a `-`, a `_` or a boundary follows. -/
def raises (before : Option Char) (c : Char) (cs : List Char) : Bool :=
  boundary before (c :: cs) || before.any Char.isDigit &&
    !(cs.head? = some '-' || cs.head? = some '_' || boundary (some c) cs)

/-- What `c` becomes between `before` and `cs`. -/
def converted (before : Option Char) (c : Char) (cs : List Char) : List Char :=
  if raises before c cs then (lowerChar c).flatMap upperChar else lowerChar c

/-- No blanks surround the key, and every character is what it becomes. -/
structure Settled (key : List Char) : Prop where
  trimmed : trim key = key
  places : ∀ front c back, key = front ++ c :: back → converted front.getLast? c back = [c]

/-! ## Small forms -/

/-- The small forms that a character has in texts. -/
def Lowers (c l : Char) : Prop :=
  lowerChar c = [l] ∨ c = 'Σ' ∧ l = 'ς'

theorem exists_loweredIn {c : Char} (hc : c ≠ 'İ') (before cs : List Char) :
    ∃ l, loweredIn before c cs = [l] ∧ Lowers c l := by
  rcases loweredIn_cases before c cs with hlower | ⟨hc, hsigma⟩
  · obtain ⟨l, hl, -⟩ := exists_lowerChar hc
    exact ⟨l, hlower.trans hl, .inl hl⟩
  · exact ⟨'ς', hsigma, .inr ⟨hc, rfl⟩⟩

namespace Lowers

variable {c l : Char}

theorem eq_or (h : Lowers c l) : l = c ∨ isAlphabetic c = true ∧ isAlphabetic l = true := by
  rcases h with hlower | ⟨rfl, rfl⟩
  · have hc : c ≠ 'İ' := by
      rintro rfl
      have hlength : (lowerChar 'İ').length = 2 := by decide
      rw [hlower] at hlength
      cases hlength
    obtain ⟨l', hl', h⟩ := exists_lowerChar hc
    obtain rfl : l = l' := by
      rw [hlower] at hl'
      exact List.singleton_inj.1 hl'
    exact h
  · exact .inr (by decide)

/-- What holds of all letters or of none is left as it is. -/
theorem congr (h : Lowers c l) {p : Char → Bool} {b : Bool}
    (hp : ∀ d, isAlphabetic d = true → p d = b) : p l = p c := by
  rcases h.eq_or with rfl | ⟨hc, hl⟩
  · rfl
  · rw [hp l hl, hp c hc]

theorem eq_singleton_iff (h : Lowers c l) : [l] = [c] ↔ lowerChar c = [c] := by
  rcases h with hlower | ⟨rfl, rfl⟩
  · rw [hlower]
  · exact iff_of_false (by decide) (by decide)

theorem upperChar_eq_singleton_iff (h : Lowers c l) :
    upperChar l = [c] ↔ (lowerChar c).flatMap upperChar = [c] := by
  rcases h with hlower | ⟨rfl, rfl⟩
  · rw [hlower, List.flatMap_singleton]
  · exact iff_of_true (by decide) (by decide)

end Lowers

/-! ## What a text becomes -/

/-- `out` is what `cs` becomes behind `before`. -/
inductive Becomes : Option Char → List Char → List Char → Prop
  | nil (before : Option Char) : Becomes before [] []
  | cons {before : Option Char} {c l : Char} {cs out : List Char} (hl : Lowers c l)
      (h : Becomes (some c) cs out) :
      Becomes before (c :: cs) ((if raises before c cs then upperChar l else [l]) ++ out)

namespace Becomes

variable {before : Option Char} {cs out : List Char}

theorem length_raised_pos (raised : Bool) (l : Char) :
    1 ≤ (if raised then upperChar l else [l]).length := by
  cases raised with
  | false => exact Nat.le_refl 1
  | true => exact List.length_pos_iff.2 (upperChar_ne_nil l)

theorem length_le (h : Becomes before cs out) : cs.length ≤ out.length := by
  induction h with
  | nil before => exact Nat.le_refl 0
  | cons hl h ih =>
      rw [List.length_append, List.length_cons, Nat.add_comm]
      exact Nat.add_le_add (length_raised_pos _ _) ih

/-- A text is what it becomes if each of its characters is. -/
theorem eq_self_iff (h : Becomes before cs out) : out = cs ↔
    ∀ front c back, cs = front ++ c :: back →
      converted (front.getLast?.or before) c back = [c] := by
  induction h with
  | nil before => simp
  | @cons before c l cs out hl h ih =>
      have hfirst : (if raises before c cs then upperChar l else [l]) = [c] ↔
          converted before c cs = [c] := by
        rw [converted]
        split
        · exact hl.upperChar_eq_singleton_iff
        · exact hl.eq_singleton_iff
      have hlast (front : List Char) :
          (c :: front).getLast?.or before = front.getLast?.or (some c) := by
        rw [List.getLast?_cons, Option.some_or]
        cases front.getLast? <;> rfl
      constructor
      · intro hself
        -- No character becomes nothing, so `c` becomes one character.
        have hlength := congrArg List.length hself
        have hpos := length_raised_pos (raises before c cs) l
        have hrest := length_le h
        rw [List.length_append, List.length_cons] at hlength
        have hcons : (if raises before c cs then upperChar l else [l]) ++ out = [c] ++ cs := hself
        obtain ⟨hc, hcs⟩ := List.append_inj hcons (by rw [List.length_singleton]; omega)
        intro front d back hsplit
        cases front with
        | nil =>
            obtain ⟨rfl, rfl⟩ := List.cons.inj hsplit
            exact hfirst.1 hc
        | cons e front =>
            obtain ⟨rfl, htail⟩ := List.cons.inj hsplit
            rw [hlast]
            exact ih.1 hcs front d back htail
      · intro hplaces
        have hc := hfirst.2 (hplaces [] c cs rfl)
        have hcs : out = cs := ih.2 fun front d back hsplit => by
          rw [← hlast]
          exact hplaces (c :: front) d back (congrArg (c :: ·) hsplit)
        rw [hc, hcs]
        rfl

end Becomes

/-! ## One conversion -/

section

variable {c l : Char}

theorem isAlphabetic_eq_false_of_isDigit (h : c.isDigit = true) : isAlphabetic c = false :=
  of_ascii (P := fun c => c.isDigit = true → isAlphabetic c = false) (by decide)
    (toNat_lt_of_isDigit h) h

theorem isAlphabetic_eq_false_of_isSeparator (h : isSeparator c = true) : isAlphabetic c = false :=
  of_separators (P := fun c => isAlphabetic c = false) (by decide) (mem_of_isSeparator h)

theorem isWordChar_of_isAlphabetic (h : isAlphabetic c = true) : isWordChar c = true := by
  rw [isWordChar, isAlphanumeric, h]
  rfl

theorem isAlphabetic_eq_false_of_isWordChar (h : isWordChar c = false) : isAlphabetic c = false :=
  Bool.eq_false_iff.2 (mt isWordChar_of_isAlphabetic (Bool.eq_false_iff.1 h))

/-- Digits and characters that are no letters may be raised, since they stay as they are. -/
theorem raiseAfterDigits_cons (afterDigit : Bool) (c : Char) (cs : List Char) :
    raiseAfterDigits afterDigit (c :: cs) =
      (if afterDigit && !(cs.head? = some '-' || cs.head? = some '_') then upperChar c else [c]) ++
        raiseAfterDigits c.isDigit cs := by
  rw [raiseAfterDigits]
  by_cases hdigit : c.isDigit = true
  · have hletter := isAlphabetic_eq_false_of_isDigit hdigit
    rw [if_pos hdigit, upperChar_of_not_isAlphabetic hletter, ite_self, hdigit]
    rfl
  · have hdigit' : c.isDigit = false := Bool.eq_false_iff.2 hdigit
    rw [if_neg hdigit, hdigit']
    cases hword : isWordChar c with
    | false =>
        have hletter := isAlphabetic_eq_false_of_isWordChar hword
        rw [Bool.and_false, if_neg Bool.false_ne_true, upperChar_of_not_isAlphabetic hletter,
          ite_self]
        rfl
    | true =>
        cases afterDigit with
        | false => rfl
        | true =>
            rw [Bool.and_true, Bool.true_and, if_pos rfl]
            cases decide (cs.head? = some '-') || decide (cs.head? = some '_') <;> rfl

theorem any_isDigit_of_boundary {before : Option Char} {cs : List Char}
    (h : boundary before cs = true) : before.any Char.isDigit = false := by
  have hcase {d : Char} (hd : d.isDigit = true) :
      isUppercase d = false ∧ isLowercase d = false :=
    of_ascii (P := fun d => d.isDigit = true → isUppercase d = false ∧ isLowercase d = false)
      (by decide) (toNat_lt_of_isDigit hd) hd
  cases cs with
  | nil => cases h
  | cons c cs =>
      cases before with
      | none => rfl
      | some d =>
          refine Bool.eq_false_iff.2 fun hdigit => ?_
          obtain ⟨hupper, hlower⟩ := hcase hdigit
          simp [boundary, hupper, hlower] at h

end

theorem isAlphabetic_of_boundary {before : Option Char} {c : Char} {cs : List Char}
    (h : boundary before (c :: cs) = true) : isAlphabetic c = true :=
  isAlphabetic_of_isUppercase (Bool.and_eq_true_iff.1 h).1

theorem lowercaseAfter_hyphen (context cs : List Char) :
    lowercaseAfter context ('-' :: cs) = '-' :: lowercaseAfter ('-' :: context) cs :=
  rfl

theorem withMarks_of_boundary {before : Option Char} {c : Char} {cs : List Char}
    (h : boundary before (c :: cs) = true) :
    withMarks before (c :: cs) = '-' :: c :: withMarks (some c) cs := by
  rw [withMarks, mark, if_pos h]
  rfl

theorem withMarks_of_not_boundary {before : Option Char} {c : Char} {cs : List Char}
    (h : boundary before (c :: cs) = false) :
    withMarks before (c :: cs) = c :: withMarks (some c) cs := by
  rw [withMarks, mark, h]
  rfl

/-- What follows in the marked text is a `-` or `_` of the text or the mark of a boundary. -/
theorem head?_lowercaseAfter_withMarks {before : Option Char} {cs : List Char} (hcs : 'İ' ∉ cs)
    (context : List Char) :
    (decide ((lowercaseAfter context (withMarks before cs)).head? = some '-') ||
      (lowercaseAfter context (withMarks before cs)).head? = some '_') =
      (decide (cs.head? = some '-') || cs.head? = some '_' || boundary before cs) := by
  cases cs with
  | nil => rfl
  | cons c cs =>
      cases hboundary : boundary before (c :: cs) with
      | true =>
          rw [withMarks_of_boundary hboundary, lowercaseAfter_hyphen, Bool.or_true]
          rfl
      | false =>
          obtain ⟨l, hl, hlowers⟩ := exists_loweredIn (List.ne_of_not_mem_cons hcs).symm context
            (withMarks (some c) cs)
          have hsign {sign : Char} (hsign : isAlphabetic sign = false) :
              decide (some l = some sign) = decide (some c = some sign) := by
            refine hlowers.congr (p := fun d => some d = some sign) (b := false) fun d hd => ?_
            refine decide_eq_false fun heq => ?_
            rw [← Option.some.inj heq, hd] at hsign
            cases hsign
          rw [withMarks_of_not_boundary hboundary, lowercaseAfter_cons, hl, List.singleton_append,
            List.head?_cons, List.head?_cons, hsign (by decide), hsign (by decide), Bool.or_false]

theorem Lowers.isDigit_eq {c l : Char} (h : Lowers c l) : l.isDigit = c.isDigit :=
  h.congr fun _ => eq_false_swap isAlphabetic_eq_false_of_isDigit

theorem Lowers.isSeparator_eq {c l : Char} (h : Lowers c l) : isSeparator l = isSeparator c :=
  h.congr fun _ => eq_false_swap isAlphabetic_eq_false_of_isSeparator

theorem Lowers.isWordChar_eq {c l : Char} (h : Lowers c l) : isWordChar l = isWordChar c :=
  h.congr fun _ => isWordChar_of_isAlphabetic

/-- What is no letter stays as it is, whether or not it is raised. -/
theorem Lowers.raised_of_not_isAlphabetic {c l : Char} (h : Lowers c l)
    (hc : isAlphabetic c = false) (raised : Bool) :
    (if raised then upperChar l else [l]) = [c] := by
  obtain rfl : l = c := h.eq_or.resolve_right fun hletters => by
    rw [hc] at hletters
    cases hletters.1
  rw [upperChar_of_not_isAlphabetic hc, ite_self]

/-- A character without a boundary in front of it is raised at its digit or not at all. -/
theorem raiseAfterDigits_lowercaseAfter {before : Option Char} {context cs : List Char}
    {c l : Char} (hboundary : boundary before (c :: cs) = false) (hcs : 'İ' ∉ cs)
    (hl : loweredIn context c (withMarks (some c) cs) = [l]) (hlowers : Lowers c l) :
    raiseAfterDigits (before.any Char.isDigit)
        (lowercaseAfter context (withMarks before (c :: cs))) =
      (if raises before c cs then upperChar l else [l]) ++
        raiseAfterDigits c.isDigit (lowercaseAfter (c :: context) (withMarks (some c) cs)) := by
  rw [withMarks_of_not_boundary hboundary, lowercaseAfter_cons, hl, List.singleton_append,
    raiseAfterDigits_cons, head?_lowercaseAfter_withMarks hcs, hlowers.isDigit_eq, raises,
    hboundary, Bool.false_or]

/-- A capital at a boundary is raised, and the mark in front of it is dropped. -/
theorem raise_lowercaseAfter_of_boundary {before : Option Char} {context cs : List Char}
    {c l : Char} (hboundary : boundary before (c :: cs) = true)
    (hl : loweredIn ('-' :: context) c (withMarks (some c) cs) = [l]) (hlowers : Lowers c l) :
    raiseAfterSeparators [] (raiseAfterDigits (before.any Char.isDigit)
        (lowercaseAfter context (withMarks before (c :: cs)))) =
      upperChar l ++ raiseAfterSeparators [] (raiseAfterDigits c.isDigit
        (lowercaseAfter (c :: '-' :: context) (withMarks (some c) cs))) := by
  have hletter := isAlphabetic_of_boundary hboundary
  have hsep : isSeparator l = false :=
    hlowers.isSeparator_eq.trans (eq_false_swap isAlphabetic_eq_false_of_isSeparator hletter)
  have hword : isWordChar l = true :=
    hlowers.isWordChar_eq.trans (isWordChar_of_isAlphabetic hletter)
  rw [any_isDigit_of_boundary hboundary, withMarks_of_boundary hboundary, lowercaseAfter_hyphen,
    lowercaseAfter_cons, hl, List.singleton_append, raiseAfterDigits_cons, Bool.false_and,
    if_neg Bool.false_ne_true, List.singleton_append, raiseAfterDigits_cons, hlowers.isDigit_eq,
    show Char.isDigit '-' = false from rfl, Bool.false_and, if_neg Bool.false_ne_true,
    List.singleton_append, raiseAfterSeparators, if_pos (show isSeparator '-' = true from rfl),
    raiseAfterSeparators, if_neg (Bool.eq_false_iff.1 hsep), if_pos hword]
  rfl

/-- Separators stay in front of a character behind which they are kept. -/
theorem Lowers.raiseAfterSeparators_append {c l : Char} (h : Lowers c l)
    (hsep : isSeparator c = false) {run : List Char}
    (hkept : (run.isEmpty || !isWordChar c && keepSeparators run == run) = true) (raised : Bool)
    (rest : List Char) :
    raiseAfterSeparators run ((if raised then upperChar l else [l]) ++ rest) =
      run ++ ((if raised then upperChar l else [l]) ++ raiseAfterSeparators [] rest) := by
  by_cases hempty : run.isEmpty = true
  · have hl : isSeparator l = false := h.isSeparator_eq.trans hsep
    have hplain : ∀ d ∈ if raised then upperChar l else [l], isSeparator d = false := by
      split
      · exact isSeparator_eq_false_of_eq_self_or (upperChar_eq_self_or l) hl
      · exact List.forall_mem_singleton.2 hl
    rw [List.isEmpty_iff.1 hempty, raiseAfterSeparators_word hplain, List.nil_append]
  · -- The character behind the run cannot be raised, and the run stays.
    rw [Bool.eq_false_iff.2 hempty, Bool.false_or, Bool.and_eq_true, Bool.not_eq_true',
      beq_iff_eq] at hkept
    obtain ⟨hword, hrun⟩ := hkept
    have hletter := isAlphabetic_eq_false_of_isWordChar hword
    rw [h.raised_of_not_isAlphabetic hletter, List.singleton_append, raiseAfterSeparators,
      if_neg (Bool.eq_false_iff.1 hsep), if_neg hempty, if_neg (Bool.eq_false_iff.1 hword), hrun,
      List.singleton_append]

/-- A text whose separators all stay becomes what its characters become. -/
theorem exists_becomes (before : Option Char) {run cs : List Char}
    (hkept : keptBehind run cs = true) (hcs : 'İ' ∉ cs) (context : List Char) :
    ∃ out, Becomes before cs out ∧
      raiseAfterSeparators run (raiseAfterDigits (before.any Char.isDigit)
        (lowercaseAfter context (withMarks before cs))) = run ++ out := by
  induction cs generalizing before run context with
  | nil =>
      obtain rfl : run = [] := List.isEmpty_iff.1 hkept
      exact ⟨[], .nil before, rfl⟩
  | cons c cs ih =>
      have hc : c ≠ 'İ' := (List.ne_of_not_mem_cons hcs).symm
      have hcs : 'İ' ∉ cs := List.not_mem_of_not_mem_cons hcs
      rw [keptBehind] at hkept
      cases hboundary : boundary before (c :: cs) with
      | true =>
          have hletter := isAlphabetic_of_boundary hboundary
          have hsep : isSeparator c = false :=
            eq_false_swap isAlphabetic_eq_false_of_isSeparator hletter
          rw [if_neg (Bool.eq_false_iff.1 hsep), isWordChar_of_isAlphabetic hletter] at hkept
          simp only [Bool.not_true, Bool.false_and, Bool.or_false, Bool.and_eq_true] at hkept
          obtain ⟨hempty, hkept⟩ := hkept
          obtain rfl : run = [] := List.isEmpty_iff.1 hempty
          obtain ⟨l, hl, hlowers⟩ :=
            exists_loweredIn hc ('-' :: context) (withMarks (some c) cs)
          obtain ⟨out, hout, hrest⟩ := ih (some c) hkept hcs (c :: '-' :: context)
          refine ⟨_, .cons hlowers hout, ?_⟩
          rw [raise_lowercaseAfter_of_boundary hboundary hl hlowers, raises, hboundary]
          exact congrArg (upperChar l ++ ·) hrest
      | false =>
          obtain ⟨l, hl, hlowers⟩ := exists_loweredIn hc context (withMarks (some c) cs)
          have hraise := raiseAfterDigits_lowercaseAfter hboundary hcs hl hlowers
          by_cases hsep : isSeparator c = true
          · -- A separator waits for the character that decides on its run.
            have hletter := isAlphabetic_eq_false_of_isSeparator hsep
            rw [if_pos hsep] at hkept
            obtain ⟨out, hout, hrest⟩ := ih (some c) hkept hcs (c :: context)
            refine ⟨_, .cons hlowers hout, ?_⟩
            rw [hraise, hlowers.raised_of_not_isAlphabetic hletter, List.singleton_append,
              raiseAfterSeparators, if_pos hsep]
            exact hrest.trans (List.append_assoc run [c] out)
          · rw [if_neg hsep, Bool.and_eq_true] at hkept
            obtain ⟨hbehind, hkept⟩ := hkept
            obtain ⟨out, hout, hrest⟩ := ih (some c) hkept hcs (c :: context)
            refine ⟨_, .cons hlowers hout, ?_⟩
            rw [hraise, hlowers.raiseAfterSeparators_append (Bool.eq_false_iff.2 hsep) hbehind]
            exact congrArg (fun rest => run ++ (_ ++ rest)) hrest

/-- A key without blanks around it becomes what its characters become. -/
theorem becomes_camelCaseTrimmed (cs : List Char) :
    Becomes none (camelCaseTrimmed cs) (camelCaseTrimmed (camelCaseTrimmed cs)) := by
  have hkept := keptBehind_camelCaseTrimmed cs
  have hcs := not_mem_camelCaseTrimmed cs
  have hhead := isSeparator_head?_camelCaseTrimmed cs
  generalize camelCaseTrimmed cs = key at *
  have hmarks : (withMarks none key).dropWhile isSeparator = withMarks none key := by
    cases key with
    | nil => rfl
    | cons c key =>
        have hboundary : boundary none (c :: key) = false := by simp [boundary]
        rw [withMarks_of_not_boundary hboundary]
        exact List.dropWhile_cons_of_neg (Bool.eq_false_iff.1 (hhead c rfl))
  obtain ⟨out, hout, hrest⟩ := exists_becomes none hkept hcs []
  rw [camelCaseTrimmed_eq key, hmarks]
  exact hrest.symm ▸ hout

/-- Blanks around a key are lost for good. -/
theorem trim_eq_self_of_camelCaseTrimmed_trim {key : List Char}
    (h : camelCaseTrimmed (trim key) = key) : trim key = key := by
  obtain ⟨front, back, hkey, hfront, hback⟩ := exists_trim_append key
  have hblanks := (filter_isBlank_camelCaseTrimmed (trim key)).length_le
  have hsplit : (key.filter isBlank).length =
      front.length + ((trim key).filter isBlank).length + back.length := by
    have hall := congrArg (List.filter isBlank) hkey
    rw [List.filter_append, List.filter_append, List.filter_eq_self.2 hfront,
      List.filter_eq_self.2 hback] at hall
    rw [hall, List.length_append, List.length_append]
  rw [h, hsplit] at hblanks
  obtain rfl : front = [] := List.eq_nil_of_length_eq_zero (by omega)
  obtain rfl : back = [] := List.eq_nil_of_length_eq_zero (by omega)
  rw [List.nil_append, List.append_nil] at hkey
  exact hkey.symm

/-- A key is converted to itself exactly if it is settled. -/
theorem camelCase_camelCase_iff (name : String) :
    camelCase (camelCase name) = camelCase name ↔ Settled (camelCase name).toList := by
  have hkey : camelCase name = String.ofList (camelCaseTrimmed (trim name.toList)) := rfl
  have hbecomes := becomes_camelCaseTrimmed (trim name.toList)
  rw [hkey, camelCase, String.toList_ofList, String.ofList_inj]
  generalize camelCaseTrimmed (trim name.toList) = key at hbecomes
  have hplaces := hbecomes.eq_self_iff
  simp only [Option.or_none] at hplaces
  constructor
  · intro hself
    have htrim := trim_eq_self_of_camelCaseTrimmed_trim hself
    rw [htrim] at hself
    exact ⟨htrim, hplaces.1 hself⟩
  · intro hsettled
    rw [hsettled.trimmed]
    exact hplaces.2 hsettled.places

example : camelCase "2x-1" = "2x1" ∧ camelCase "2x1" = "2X1" := by decide

/-- The words of the name `a-b-c` are not told apart in its key. -/
theorem not_forall_camelCase_camelCase :
    ¬ ∀ name, camelCase (camelCase name) = camelCase name := fun h =>
  absurd (h "a-b-c") (by decide)

end ScopedStyles.ExportKey
