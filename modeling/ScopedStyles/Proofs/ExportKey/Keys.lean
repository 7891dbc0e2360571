import ScopedStyles.Proofs.ExportKey.Spellings
import ScopedStyles.Proofs.ExportKey.Windows
/-!
# What keys look like

A key starts with no separator, and it has separators only where the character behind them cannot be
raised. It holds no blank that the name does not hold.
-/

namespace ScopedStyles.ExportKey

open Text

/-! ## Characters -/

section

variable {c : Char}

theorem mem_of_isSeparator (h : isSeparator c = true) : c ∈ ['-', '_', '.', ' '] := by
  simp only [isSeparator, Bool.or_eq_true, beq_iff_eq] at h
  simp only [List.mem_cons, List.not_mem_nil, or_false]
  tauto

/-- No mapping gives a separator. -/
theorem isUnmapped_of_isSeparator (h : isSeparator c = true) : isUnmapped c = true :=
  of_separators (P := fun c => isUnmapped c = true) (by decide) (mem_of_isSeparator h)

theorem isSeparator_eq_false_of_eq_self_or {mapped : List Char}
    (h : mapped = [c] ∨ ∀ d ∈ mapped, isUnmapped d = false) (hc : isSeparator c = false) :
    ∀ d ∈ mapped, isSeparator d = false := by
  rcases h with rfl | h
  · exact List.forall_mem_singleton.2 hc
  · exact fun d hd => Bool.eq_false_iff.2
      (mt isUnmapped_of_isSeparator (Bool.eq_false_iff.1 (h d hd)))

end

/-! ## Raising and dropping -/

/-- `out` is `cs` with some of its characters raised and without some of its separators. -/
inductive Raised : List Char → List Char → Prop
  | nil : Raised [] []
  | keep {out cs : List Char} (c : Char) (h : Raised out cs) : Raised (c :: out) (c :: cs)
  | raise {out cs : List Char} (c : Char) (h : Raised out cs) :
      Raised (upperChar c ++ out) (c :: cs)
  | drop {out cs : List Char} {c : Char} (hc : isSeparator c = true) (h : Raised out cs) :
      Raised out (c :: cs)

namespace Raised

variable {out cs run : List Char}

theorem keepAll (front : List Char) (h : Raised out cs) : Raised (front ++ out) (front ++ cs) := by
  induction front with
  | nil => exact h
  | cons c front ih => exact ih.keep c

theorem refl (cs : List Char) : Raised cs cs := by
  have hall := nil.keepAll cs
  rwa [List.append_nil] at hall

theorem dropAll (hrun : ∀ c ∈ run, isSeparator c = true) (h : Raised out cs) :
    Raised out (run ++ cs) := by
  induction run with
  | nil => exact h
  | cons c run ih =>
      obtain ⟨hc, hrun⟩ := List.forall_mem_cons.1 hrun
      exact (ih hrun).drop hc

theorem keepSeparators (hrun : ∀ c ∈ run, isSeparator c = true) (h : Raised out cs) :
    Raised (keepSeparators run ++ out) (run ++ cs) := by
  rw [ExportKey.keepSeparators]
  split
  · next hlast =>
    simp only [Bool.and_eq_true, decide_eq_true_eq] at hlast
    obtain ⟨front, rfl⟩ := List.getLast?_eq_some_iff.1 hlast.2
    rw [List.append_assoc]
    exact dropAll (fun c hc => hrun c (List.mem_append_left _ hc)) (h.keepAll ['_'])
  · exact h.keepAll run

/-- What holds of all characters and of their capital forms. -/
theorem forall_mem {P : Char → Prop} (hupper : ∀ c, P c → ∀ d ∈ upperChar c, P d)
    (h : Raised out cs) (hcs : ∀ c ∈ cs, P c) : ∀ c ∈ out, P c := by
  induction h with
  | nil => exact hcs
  | keep c h ih =>
      obtain ⟨hc, hcs⟩ := List.forall_mem_cons.1 hcs
      exact List.forall_mem_cons.2 ⟨hc, ih hcs⟩
  | raise c h ih =>
      obtain ⟨hc, hcs⟩ := List.forall_mem_cons.1 hcs
      exact List.forall_mem_append.2 ⟨hupper c hc, ih hcs⟩
  | drop hc h ih => exact ih (List.forall_mem_cons.1 hcs).2

end Raised

theorem raised_raiseAfterDigits (afterDigit : Bool) (cs : List Char) :
    Raised (raiseAfterDigits afterDigit cs) cs := by
  fun_induction raiseAfterDigits afterDigit cs with
  | case1 => exact .nil
  | case2 afterDigit c cs hdigit ih => exact ih.keep c
  | case3 afterDigit c cs hdigit hword ih =>
      split
      · exact ih.keep c
      · exact ih.raise c
  | case4 afterDigit c cs hdigit hword ih => exact ih.keep c

theorem raised_raiseAfterSeparators {run : List Char} (hrun : ∀ c ∈ run, isSeparator c = true)
    (cs : List Char) : Raised (raiseAfterSeparators run cs) (run ++ cs) := by
  fun_induction raiseAfterSeparators run cs with
  | case1 run => exact .dropAll hrun .nil
  | case2 run c cs hsep ih =>
      have hmore := ih (List.forall_mem_append.2 ⟨hrun, List.forall_mem_singleton.2 hsep⟩)
      rwa [List.append_assoc] at hmore
  | case3 run c cs hsep hempty ih =>
      rw [List.isEmpty_iff.1 hempty]
      exact (ih (List.forall_mem_nil _)).keep c
  | case4 run c cs hsep hempty hword ih =>
      exact .dropAll hrun ((ih (List.forall_mem_nil _)).raise c)
  | case5 run c cs hsep hempty hword ih =>
      exact .keepSeparators hrun ((ih (List.forall_mem_nil _)).keep c)

/-! ## Characters that no mapping gives -/

/-- Every separator, digit or blank of `out` is in `cs`, in the same order. -/
def AddsNone (out cs : List Char) : Prop :=
  (out.filter isUnmapped).Sublist (cs.filter isUnmapped)

namespace AddsNone

variable {a a' b b' : List Char}

theorem refl (a : List Char) : AddsNone a a :=
  List.Sublist.refl _

theorem trans (h : AddsNone a b) (h' : AddsNone b b') : AddsNone a b' :=
  List.Sublist.trans h h'

theorem append (h : AddsNone a b) (h' : AddsNone a' b') : AddsNone (a ++ a') (b ++ b') := by
  rw [AddsNone, List.filter_append, List.filter_append]
  exact List.Sublist.append h h'

theorem cons (c : Char) (h : AddsNone a b) : AddsNone (c :: a) (c :: b) :=
  append (refl [c]) h

theorem of_sublist (h : a.Sublist b) : AddsNone a b :=
  h.filter isUnmapped

theorem of_eq_self_or {c : Char} (h : a = [c] ∨ ∀ d ∈ a, isUnmapped d = false) :
    AddsNone a [c] := by
  rcases h with rfl | h
  · exact refl [c]
  · rw [AddsNone, List.filter_eq_nil_iff.2 fun d hd => Bool.eq_false_iff.1 (h d hd)]
    exact List.nil_sublist _

theorem filter_isBlank (h : AddsNone a b) : (a.filter isBlank).Sublist (b.filter isBlank) := by
  have hfilter (cs : List Char) : (cs.filter isUnmapped).filter isBlank = cs.filter isBlank := by
    rw [List.filter_filter]
    refine List.filter_congr fun c _ => ?_
    cases hblank : isBlank c with
    | false => rfl
    | true => rw [isUnmapped_of_isBlank hblank]; rfl
  rw [← hfilter a, ← hfilter b]
  exact List.Sublist.filter isBlank h

theorem mem (h : AddsNone a b) {d : Char} (hd : isUnmapped d = true) (hmem : d ∈ a) : d ∈ b :=
  (List.mem_filter.1 (List.Sublist.subset h (List.mem_filter.2 ⟨hmem, hd⟩))).1

end AddsNone

/-- The small form of a character in a text: a capital sigma has another one at the end of a
word. -/
def loweredIn (before : List Char) (c : Char) (cs : List Char) : List Char :=
  if c = 'Σ' then [if startsCased before && !startsCased cs then 'ς' else 'σ'] else lowerChar c

theorem lowercaseAfter_cons (before : List Char) (c : Char) (cs : List Char) :
    lowercaseAfter before (c :: cs) =
      loweredIn before c cs ++ lowercaseAfter (c :: before) cs :=
  rfl

theorem loweredIn_cases (before : List Char) (c : Char) (cs : List Char) :
    loweredIn before c cs = lowerChar c ∨ c = 'Σ' ∧ loweredIn before c cs = ['ς'] := by
  rw [loweredIn]
  split
  · next hsigma =>
    subst hsigma
    split
    · exact .inr ⟨rfl, rfl⟩
    · exact .inl (by decide)
  · exact .inl rfl

theorem loweredIn_ne_nil (before : List Char) (c : Char) (cs : List Char) :
    loweredIn before c cs ≠ [] := by
  rcases loweredIn_cases before c cs with hlower | ⟨-, hsigma⟩
  · rw [hlower]
    exact lowerChar_ne_nil c
  · rw [hsigma]
    exact List.cons_ne_nil _ _

theorem loweredIn_eq_self_or (before : List Char) (c : Char) (cs : List Char) :
    loweredIn before c cs = [c] ∨ ∀ d ∈ loweredIn before c cs, isUnmapped d = false := by
  rcases loweredIn_cases before c cs with hlower | ⟨-, hsigma⟩
  · rw [hlower]
    exact lowerChar_eq_self_or c
  · rw [hsigma]
    exact .inr (List.forall_mem_singleton.2 (by decide))

theorem filter_withMarks {p : Char → Bool} (hp : p '-' = false) (before : Option Char)
    (cs : List Char) : (withMarks before cs).filter p = cs.filter p := by
  induction cs generalizing before with
  | nil => rfl
  | cons c cs ih =>
      have hmark : (mark before (c :: cs)).filter p = [] := by
        rw [mark]
        split
        · simp [hp]
        · rfl
      rw [withMarks, List.filter_append, hmark, List.nil_append, List.filter_cons,
        List.filter_cons, ih]

theorem addsNone_lowercaseAfter (before cs : List Char) :
    AddsNone (lowercaseAfter before cs) cs := by
  induction cs generalizing before with
  | nil => exact .refl []
  | cons c cs ih => exact .append (.of_eq_self_or (loweredIn_eq_self_or before c cs)) (ih _)

theorem Raised.addsNone {out cs : List Char} (h : Raised out cs) : AddsNone out cs := by
  induction h with
  | nil => exact .refl []
  | keep c h ih => exact ih.cons c
  | raise c h ih => exact .append (.of_eq_self_or (upperChar_eq_self_or c)) ih
  | @drop out cs c hc h ih => exact ih.trans (.of_sublist (List.sublist_cons_self c cs))

theorem keepSeparators_sublist (run : List Char) : (keepSeparators run).Sublist run := by
  rw [keepSeparators]
  split
  · next h =>
    simp only [Bool.and_eq_true, decide_eq_true_eq] at h
    exact List.singleton_sublist.2 (List.mem_of_getLast? h.2)
  · exact List.Sublist.refl run

theorem addsNone_raise (cs : List Char) :
    AddsNone (raiseAfterSeparators [] (raiseAfterDigits false cs)) cs :=
  (raised_raiseAfterSeparators (List.forall_mem_nil _) _).addsNone.trans
    (raised_raiseAfterDigits false cs).addsNone

/-! ## The conversion in one -/

theorem raiseAfterDigits_singleton (c : Char) : raiseAfterDigits false [c] = [c] := by
  rw [raiseAfterDigits]
  split <;> rfl

/-- A name of one character needs no case of its own. -/
theorem camelCaseTrimmed_eq (cs : List Char) :
    camelCaseTrimmed cs = raiseAfterSeparators [] (raiseAfterDigits false
      (lowercase ((withMarks none cs).dropWhile isSeparator))) := by
  match cs with
  | [] => rfl
  | [c] =>
      have hmarks : withMarks none [c] = [c] := by simp [withMarks, mark, boundary]
      rw [camelCaseTrimmed, hmarks]
      split
      · next hsep =>
        rw [List.dropWhile_cons_of_pos hsep]
        rfl
      · next hsep =>
        have hlower : lowercase [c] = lowerChar c := by
          have hcontext : loweredIn [] c [] = lowerChar c := by
            rcases loweredIn_cases [] c [] with hlower | ⟨rfl, -⟩
            · exact hlower
            · decide
          rw [lowercase, lowercaseAfter_cons, hcontext]
          exact List.append_nil _
        have hplain := isSeparator_eq_false_of_eq_self_or (lowerChar_eq_self_or c)
          (Bool.eq_false_iff.2 hsep)
        have hraise : raiseAfterDigits false (lowerChar c) = lowerChar c := by
          by_cases hc : c = 'İ'
          · subst hc
            decide
          · obtain ⟨l, hl, -⟩ := exists_lowerChar hc
            rw [hl, raiseAfterDigits_singleton]
        have hword : raiseAfterSeparators [] (lowerChar c ++ []) = lowerChar c ++ [] :=
          raiseAfterSeparators_word hplain
        rw [List.append_nil] at hword
        rw [List.dropWhile_cons_of_neg hsep, hlower, hraise, hword]
  | c :: d :: cs =>
      have hlength : 2 ≤ (c :: d :: cs).length := Nat.le_add_left 2 cs.length
      rw [camelCaseTrimmed_of_length hlength, markBoundaries_eq_withMarks]

/-! ## Separators -/

/-- Whether all separators of a text behind the separators `run` stay where they are. -/
def keptBehind (run : List Char) : List Char → Bool
  | [] => run.isEmpty
  | c :: cs =>
    if isSeparator c then keptBehind (run ++ [c]) cs
    else (run.isEmpty || !isWordChar c && keepSeparators run == run) && keptBehind [] cs

theorem keptBehind_word {word : List Char} (hword : ∀ c ∈ word, isSeparator c = false)
    (cs : List Char) : keptBehind [] (word ++ cs) = keptBehind [] cs := by
  induction word with
  | nil => rfl
  | cons c word ih =>
      obtain ⟨hc, hword⟩ := List.forall_mem_cons.1 hword
      rw [List.cons_append, keptBehind, if_neg (Bool.eq_false_iff.1 hc), ih hword]
      rfl

theorem keptBehind_gap {gap : List Char} (hgap : ∀ c ∈ gap, isSeparator c = true)
    (run cs : List Char) : keptBehind run (gap ++ cs) = keptBehind (run ++ gap) cs := by
  induction gap generalizing run with
  | nil => rw [List.append_nil, List.nil_append]
  | cons c gap ih =>
      obtain ⟨hc, hgap⟩ := List.forall_mem_cons.1 hgap
      rw [List.cons_append, keptBehind, if_pos hc, ih hgap, List.append_assoc,
        List.singleton_append]

theorem keepSeparators_keepSeparators (run : List Char) :
    keepSeparators (keepSeparators run) = keepSeparators run := by
  by_cases h : (run.length > 1 && run.getLast? = some '_') = true
  · have hkeep : keepSeparators run = ['_'] := if_pos h
    rw [hkeep]
    rfl
  · have hkeep : keepSeparators run = run := if_neg h
    rw [hkeep, hkeep]

/-- What is left of the separators stays when it is converted again. -/
theorem keptBehind_raiseAfterSeparators {run : List Char} (hrun : ∀ c ∈ run, isSeparator c = true)
    (cs : List Char) : keptBehind [] (raiseAfterSeparators run cs) = true := by
  fun_induction raiseAfterSeparators run cs with
  | case1 run => rfl
  | case2 run c cs hsep ih =>
      exact ih (List.forall_mem_append.2 ⟨hrun, List.forall_mem_singleton.2 hsep⟩)
  | case3 run c cs hsep hempty ih =>
      rw [keptBehind, if_neg hsep, ih (List.forall_mem_nil _)]
      rfl
  | case4 run c cs hsep hempty hword ih =>
      have hplain := isSeparator_eq_false_of_eq_self_or (upperChar_eq_self_or c)
        (Bool.eq_false_iff.2 hsep)
      rw [keptBehind_word hplain, ih (List.forall_mem_nil _)]
  | case5 run c cs hsep hempty hword ih =>
      have hkept : ∀ d ∈ keepSeparators run, isSeparator d = true := fun d hd =>
        hrun d ((keepSeparators_sublist run).subset hd)
      rw [keptBehind_gap hkept, List.nil_append, keptBehind, if_neg hsep,
        ih (List.forall_mem_nil _), keepSeparators_keepSeparators]
      simp [hword]

/-! ## Keys -/

theorem keptBehind_camelCaseTrimmed (cs : List Char) :
    keptBehind [] (camelCaseTrimmed cs) = true := by
  rw [camelCaseTrimmed_eq]
  exact keptBehind_raiseAfterSeparators (List.forall_mem_nil _) _

theorem exists_raiseAfterDigits_cons (c : Char) (cs : List Char) :
    ∃ b, raiseAfterDigits false (c :: cs) = c :: raiseAfterDigits b cs := by
  rw [raiseAfterDigits]
  split
  · exact ⟨true, rfl⟩
  · exact ⟨false, rfl⟩

/-- A key starts with no separator. -/
theorem isSeparator_head?_camelCaseTrimmed (cs : List Char) :
    ∀ c ∈ (camelCaseTrimmed cs).head?, isSeparator c = false := by
  have hname : ∀ c ∈ ((withMarks none cs).dropWhile isSeparator).head?, isSeparator c = false := by
    intro c hc
    have hhead := List.head?_dropWhile_not isSeparator (withMarks none cs)
    rw [hc] at hhead
    simpa using hhead
  rw [camelCaseTrimmed_eq]
  cases hcs : (withMarks none cs).dropWhile isSeparator with
  | nil => exact fun c hc => nomatch hc
  | cons c name =>
      rw [hcs] at hname
      have hplain := isSeparator_eq_false_of_eq_self_or (loweredIn_eq_self_or [] c name)
        (hname c rfl)
      obtain ⟨l, ls, hl⟩ := List.exists_cons_of_ne_nil (loweredIn_ne_nil [] c name)
      have hlower : lowercase (c :: name) = l :: (ls ++ lowercaseAfter [c] name) := by
        rw [lowercase, lowercaseAfter_cons, hl]
        rfl
      have hsep : isSeparator l = false := hplain l (hl ▸ List.mem_cons_self)
      obtain ⟨b, hraise⟩ := exists_raiseAfterDigits_cons l (ls ++ lowercaseAfter [c] name)
      rw [hlower, hraise, raiseAfterSeparators, if_neg (Bool.eq_false_iff.1 hsep)]
      exact fun d hd => Option.some.inj hd ▸ hsep

/-- The capital `İ` has a small form and is no capital form. -/
theorem not_mem_camelCaseTrimmed (cs : List Char) : 'İ' ∉ camelCaseTrimmed cs := by
  have hlower (before cs : List Char) : 'İ' ∉ lowercaseAfter before cs := by
    induction cs generalizing before with
    | nil => exact List.not_mem_nil
    | cons c cs ih =>
        rw [lowercaseAfter_cons]
        refine List.not_mem_append (fun hmem => ?_) (ih _)
        rcases loweredIn_cases before c cs with hlower | ⟨-, hsigma⟩
        · rw [hlower] at hmem
          rcases lowerChar_eq_self_or c with hself | hmapped
          · rw [hself, List.mem_singleton] at hmem
            subst hmem
            exact absurd hself (by decide)
          · exact absurd (hmapped _ hmem) (by decide)
        · rw [hsigma] at hmem
          exact absurd hmem (by decide)
  intro hmem
  rw [camelCaseTrimmed_eq] at hmem
  exact hlower _ _ ((addsNone_raise _).mem (by decide) hmem)

/-- The blanks of a key are some of those of the name, in the same order. -/
theorem filter_isBlank_camelCaseTrimmed (cs : List Char) :
    ((camelCaseTrimmed cs).filter isBlank).Sublist (cs.filter isBlank) := by
  have hkey := (addsNone_raise _).trans ((addsNone_lowercaseAfter [] _).trans
    (.of_sublist (List.dropWhile_sublist isSeparator (l := withMarks none cs))))
  have hblanks := hkey.filter_isBlank
  rw [filter_withMarks (by decide) none cs] at hblanks
  rw [camelCaseTrimmed_eq]
  exact hblanks

end ScopedStyles.ExportKey
