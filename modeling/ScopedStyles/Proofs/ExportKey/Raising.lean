import Mathlib.Data.List.TakeWhile
import Mathlib.Data.List.Basic
import ScopedStyles.Proofs.ExportKey.Words
/-!
# Raised characters

Behind the marking of boundaries a name is lowercased, and the characters behind its digits and
separators are raised. Digits that end a word raise nothing, since a separator follows them.
-/

namespace ScopedStyles.ExportKey

open Text

section

variable {c : Char} {gap word letters digits rest : List Char}

theorem raiseAfterDigits_gap (hgap : IsGap gap) (hne : gap ≠ []) (afterDigit : Bool) :
    raiseAfterDigits afterDigit (gap ++ rest) = gap ++ raiseAfterDigits false rest := by
  induction gap generalizing afterDigit with
  | nil => exact absurd rfl hne
  | cons c cs ih =>
      obtain ⟨hc, hcs⟩ := List.forall_mem_cons.1 hgap
      have hstep : raiseAfterDigits afterDigit (c :: (cs ++ rest)) =
          c :: raiseAfterDigits false (cs ++ rest) := by
        rw [raiseAfterDigits, if_neg (Bool.eq_false_iff.1 (isDigit_of_mem hc))]
        rcases raised_of_mem hc with hword | hupper
        · rw [hword, Bool.and_false]
          rfl
        · rw [hupper, ite_self]
          exact ite_self _
      rw [List.cons_append, hstep]
      cases cs with
      | nil => rfl
      | cons d ds => rw [ih hcs (List.cons_ne_nil d ds)]; rfl

theorem raiseAfterDigits_letters (hletters : ∀ c ∈ letters, c.isLower = true) :
    raiseAfterDigits false (letters ++ rest) = letters ++ raiseAfterDigits false rest := by
  induction letters with
  | nil => rfl
  | cons c cs ih =>
      obtain ⟨hc, hcs⟩ := List.forall_mem_cons.1 hletters
      rw [List.cons_append, raiseAfterDigits, if_neg (Bool.eq_false_iff.1 (isDigit_of_isLower hc)),
        ih hcs]
      rfl

theorem exists_raiseAfterDigits_digits (hdigits : ∀ c ∈ digits, c.isDigit = true)
    (afterDigit : Bool) :
    ∃ b, raiseAfterDigits afterDigit (digits ++ rest) = digits ++ raiseAfterDigits b rest := by
  induction digits generalizing afterDigit with
  | nil => exact ⟨afterDigit, rfl⟩
  | cons c cs ih =>
      obtain ⟨hc, hcs⟩ := List.forall_mem_cons.1 hdigits
      obtain ⟨b, hb⟩ := ih hcs true
      refine ⟨b, ?_⟩
      rw [List.cons_append, raiseAfterDigits, if_pos hc, hb]
      rfl

theorem IsWord.exists_raiseAfterDigits (hword : IsWord word) (rest : List Char) :
    ∃ b, raiseAfterDigits false (word ++ rest) = word ++ raiseAfterDigits b rest := by
  obtain ⟨letters, digits, rfl, hletters, hdigits⟩ := hword.form
  obtain ⟨b, hb⟩ : ∃ b, raiseAfterDigits false (digits ++ rest) =
      digits ++ raiseAfterDigits b rest := exists_raiseAfterDigits_digits hdigits false
  exact ⟨b, by rw [List.append_assoc, raiseAfterDigits_letters hletters, hb, List.append_assoc]⟩

theorem raiseAfterSeparators_gap (hgap : IsGap gap) (run : List Char) :
    raiseAfterSeparators run (gap ++ rest) = raiseAfterSeparators (run ++ gap) rest := by
  induction gap generalizing run with
  | nil => rw [List.append_nil, List.nil_append]
  | cons c cs ih =>
      obtain ⟨hc, hcs⟩ := List.forall_mem_cons.1 hgap
      rw [List.cons_append, raiseAfterSeparators, if_pos (isSeparator_of_mem hc), ih hcs,
        List.append_assoc, List.singleton_append]

theorem raiseAfterSeparators_word (hword : ∀ c ∈ word, isSeparator c = false) :
    raiseAfterSeparators [] (word ++ rest) = word ++ raiseAfterSeparators [] rest := by
  induction word with
  | nil => rfl
  | cons c cs ih =>
      obtain ⟨hc, hcs⟩ := List.forall_mem_cons.1 hword
      rw [List.cons_append, raiseAfterSeparators, if_neg (Bool.eq_false_iff.1 hc), ih hcs]
      rfl

theorem raiseAfterSeparators_behind_gap (hword : IsWord word) {run : List Char} (hrun : run ≠ []) :
    raiseAfterSeparators run (word ++ rest) = capitalized word ++ raiseAfterSeparators [] rest := by
  have hletters := hword.of_mem
  cases word with
  | nil => exact absurd rfl hword.nonempty
  | cons c cs =>
      obtain ⟨hc, hcs⟩ := List.forall_mem_cons.1 hletters
      have hplain := plain_of_isWordLetter hc
      have hempty : ¬ run.isEmpty = true := fun h => hrun (List.isEmpty_iff.1 h)
      rw [List.cons_append, raiseAfterSeparators, if_neg (Bool.eq_false_iff.1 hplain.1),
        if_neg hempty, if_pos hplain.2.2.1, upperChar_of_lt (toNat_lt_of_isWordLetter hc),
        raiseAfterSeparators_word fun c hc => (plain_of_isWordLetter (hcs c hc)).1]
      rfl

end

theorem dropWhile_append_of_head {p : Char → Bool} {front rest : List Char}
    (hrest : ∃ c ∈ rest.head?, p c = false) :
    (front ++ rest).dropWhile p = front.dropWhile p ++ rest := by
  rw [List.dropWhile_append]
  split
  · next hnil =>
    obtain ⟨c, hc, hp⟩ := hrest
    obtain ⟨cs, rfl⟩ := List.head?_eq_some_iff.1 hc
    rw [List.isEmpty_iff.1 hnil, List.dropWhile_cons_of_neg (by simp [hp]), List.nil_append]
  · rfl

namespace Part

variable {p : Part} {ps : List Part} {back : List Char}

theorem raiseAfterDigits_flatMap (hps : ∀ p ∈ ps, p.IsPlain ∧ p.gap ≠ []) (hback : IsGap back)
    (afterDigit : Bool) :
    raiseAfterDigits afterDigit (ps.flatMap plain ++ back) = ps.flatMap plain ++ back := by
  induction ps generalizing afterDigit with
  | nil =>
      by_cases hnil : back = []
      · rw [hnil]
        rfl
      · have hgap : raiseAfterDigits afterDigit (back ++ []) = back ++ [] :=
          raiseAfterDigits_gap hback hnil afterDigit
        rwa [List.append_nil] at hgap
  | cons p ps ih =>
      obtain ⟨⟨hp, hgap⟩, hps⟩ := List.forall_mem_cons.1 hps
      obtain ⟨b, hb⟩ := hp.word.exists_raiseAfterDigits (ps.flatMap plain ++ back)
      rw [List.flatMap_cons, plain, List.append_assoc, List.append_assoc,
        raiseAfterDigits_gap hp.gap hgap, hb, ih hps]

theorem raiseAfterSeparators_flatMap (hps : ∀ p ∈ ps, p.IsPlain ∧ p.gap ≠ []) (hback : IsGap back) :
    raiseAfterSeparators [] (ps.flatMap plain ++ back) = (ps.map word).flatMap capitalized := by
  induction ps with
  | nil =>
      have hgap : raiseAfterSeparators [] (back ++ []) = [] := raiseAfterSeparators_gap hback []
      rw [List.append_nil] at hgap
      exact hgap
  | cons p ps ih =>
      obtain ⟨⟨hp, hgap⟩, hps⟩ := List.forall_mem_cons.1 hps
      rw [List.flatMap_cons, plain, List.append_assoc, List.append_assoc,
        raiseAfterSeparators_gap hp.gap, List.nil_append,
        raiseAfterSeparators_behind_gap hp.word hgap, ih hps]
      rfl

theorem raise_words {word : List Char} (hword : IsWord word)
    (hps : ∀ p ∈ ps, p.IsPlain ∧ p.gap ≠ []) (hback : IsGap back) :
    raiseAfterSeparators [] (raiseAfterDigits false (word ++ (ps.flatMap plain ++ back))) =
      keyOfWords (word :: ps.map Part.word) := by
  obtain ⟨b, hb⟩ := hword.exists_raiseAfterDigits (ps.flatMap plain ++ back)
  rw [hb, raiseAfterDigits_flatMap hps hback,
    raiseAfterSeparators_word fun c hc => (plain_of_isWordLetter (hword.of_mem c hc)).1,
    raiseAfterSeparators_flatMap hps hback]
  rfl

theorem exists_head?_append (hp : p.IsPlain) (rest : List Char) :
    ∃ c ∈ (p.style.write p.word ++ rest).head?, isSeparator c = false ∧ isBlank c = false := by
  obtain ⟨c, cs, hwrite⟩ := List.exists_cons_of_ne_nil (hp.word.write_ne_nil p.style)
  have hc := hp.word.of_mem_write (hwrite ▸ List.mem_cons_self : c ∈ p.style.write p.word)
  exact ⟨c, by rw [hwrite]; rfl, hc.1, hc.2.1⟩

theorem lowercase_flatMap (hps : ∀ p ∈ ps, p.IsPlain) (hback : IsGap back) :
    (ps.flatMap text ++ back).map Char.toLower = ps.flatMap plain ++ back := by
  rw [List.map_append, List.map_flatMap, hback.map_toLower, List.flatMap_congr fun p hp =>
    map_toLower_text (hps p hp)]

/-- The passes behind the marking of boundaries turn separated words into their key. -/
theorem raise_lowercase (hp : p.IsPlain) (hps : ∀ p ∈ ps, p.IsPlain ∧ p.gap ≠ [])
    (hback : IsGap back) :
    raiseAfterSeparators [] (raiseAfterDigits false
      (lowercase (((p :: ps).flatMap text ++ back).dropWhile isSeparator))) =
      keyOfWords ((p :: ps).map Part.word) := by
  obtain ⟨c, hc, hseparator, -⟩ := exists_head?_append hp (ps.flatMap text ++ back)
  have hdrop : ((p :: ps).flatMap text ++ back).dropWhile isSeparator =
      p.style.write p.word ++ (ps.flatMap text ++ back) := by
    rw [List.flatMap_cons, text, List.append_assoc, List.append_assoc,
      dropWhile_append_of_head ⟨c, hc, hseparator⟩,
      List.dropWhile_eq_nil_iff.2 fun c hc => isSeparator_of_mem (hp.gap c hc), List.nil_append]
  have hascii : ∀ c ∈ p.style.write p.word ++ (ps.flatMap text ++ back), c.toNat < 0x80 := by
    simp only [List.forall_mem_append, List.forall_mem_flatMap]
    exact ⟨fun c hc => (hp.word.of_mem_write hc).2.2,
      fun q hq => toNat_lt_of_mem_text (hps q hq).1, fun c hc => (toLower_of_mem (hback c hc)).1⟩
  rw [hdrop, lowercase_of_lt hascii, List.map_append, hp.word.map_toLower_write,
    lowercase_flatMap (fun q hq => (hps q hq).1) hback, raise_words hp.word hps hback]
  rfl

end Part

end ScopedStyles.ExportKey
