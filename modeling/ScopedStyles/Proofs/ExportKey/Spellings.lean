import ScopedStyles.Proofs.ExportKey.Boundaries
import ScopedStyles.Proofs.ExportKey.Raising
/-!
# Spellings of a name

The key of a name is made of its words, however they are written and told apart.
-/

namespace ScopedStyles.ExportKey

open Text

/-! ## Trimmed names -/

theorem IsGap.dropWhile {gap : List Char} (hgap : IsGap gap) (p : Char → Bool) :
    IsGap (gap.dropWhile p) :=
  fun c hc => hgap c ((List.dropWhile_suffix p).subset hc)

/-- Trimming only takes separators from the ends of a name. -/
theorem exists_trim_eq {front name back : List Char} (hfront : IsGap front) (hback : IsGap back)
    (hhead : ∃ c ∈ name.head?, isBlank c = false)
    (hlast : ∃ c ∈ name.getLast?, isBlank c = false) :
    ∃ front' back', IsGap front' ∧ IsGap back' ∧
      trim (front ++ (name ++ back)) = front' ++ (name ++ back') := by
  have hreverse : IsGap back.reverse := fun c hc => hback c (List.mem_reverse.1 hc)
  refine ⟨front.dropWhile isBlank, (back.reverse.dropWhile isBlank).reverse, hfront.dropWhile _,
    fun c hc => hreverse.dropWhile _ c (List.mem_reverse.1 hc), ?_⟩
  have hhead' : ∃ c ∈ (name ++ back).head?, isBlank c = false := by
    obtain ⟨c, hc, hblank⟩ := hhead
    exact ⟨c, by rw [List.head?_append, hc]; rfl, hblank⟩
  have hlast' : ∃ c ∈ (name.reverse ++ (front.dropWhile isBlank).reverse).head?,
      isBlank c = false := by
    obtain ⟨c, hc, hblank⟩ := hlast
    exact ⟨c, by rw [List.head?_append, List.head?_reverse, hc]; rfl, hblank⟩
  rw [trim, trimStart, dropWhile_append_of_head hhead', trimEnd, List.reverse_append,
    List.reverse_append, List.append_assoc, dropWhile_append_of_head hlast']
  simp only [List.reverse_append, List.reverse_reverse, List.append_assoc]

namespace Part

variable {p : Part} {ps : List Part} {front back : List Char}

/-- Every text of words ends with a character of a word. -/
theorem exists_getLast?_append (hps : ∀ p ∈ ps, p.IsPlain)
    (hfront : ∃ c ∈ front.getLast?, isBlank c = false) :
    ∃ c ∈ (front ++ ps.flatMap text).getLast?, isBlank c = false := by
  induction ps generalizing front with
  | nil => simpa using hfront
  | cons p ps ih =>
      obtain ⟨hp, hps⟩ := List.forall_mem_cons.1 hps
      rw [List.flatMap_cons, ← List.append_assoc]
      refine ih hps ?_
      obtain ⟨c, hc⟩ := Option.ne_none_iff_exists'.1
        (mt List.getLast?_eq_none_iff.1 (hp.word.write_ne_nil p.style))
      refine ⟨c, ?_, (hp.word.of_mem_write (List.mem_of_getLast? hc)).2.1⟩
      rw [text, List.getLast?_append, List.getLast?_append, hc]
      rfl

/-- A trimmed name starts and ends with separators around the same words. -/
theorem exists_trim_flatMap (hp : p.IsPlain) (hps : ∀ p ∈ ps, p.IsPlain) (hback : IsGap back) :
    ∃ front' back', IsGap front' ∧ IsGap back' ∧
      trim ((p :: ps).flatMap text ++ back) =
        ({ p with gap := front' } :: ps).flatMap text ++ back' := by
  obtain ⟨c, hc, -, hblank⟩ := exists_head?_append hp (ps.flatMap text)
  have hlast : ∃ c ∈ (p.style.write p.word).getLast?, isBlank c = false := by
    obtain ⟨c, hc⟩ := Option.ne_none_iff_exists'.1
      (mt List.getLast?_eq_none_iff.1 (hp.word.write_ne_nil p.style))
    exact ⟨c, hc, (hp.word.of_mem_write (List.mem_of_getLast? hc)).2.1⟩
  obtain ⟨front', back', hfront', hback', htrim⟩ := exists_trim_eq hp.gap hback ⟨c, hc, hblank⟩
    (exists_getLast?_append hps hlast)
  refine ⟨front', back', hfront', hback', ?_⟩
  simpa only [List.flatMap_cons, text, List.append_assoc] using htrim

end Part

/-! ## Keys of names -/

theorem camelCaseTrimmed_of_length {cs : List Char} (h : 2 ≤ cs.length) :
    camelCaseTrimmed cs = raiseAfterSeparators [] (raiseAfterDigits false
      (lowercase ((markBoundaries cs).dropWhile isSeparator))) := by
  have hsplit : (if cs.any isUppercase then markBoundaries cs else cs) = markBoundaries cs := by
    split
    · rfl
    · next hany =>
      exact (markBoundaries_of_small fun c hc => Bool.eq_false_iff.2 fun hupper =>
        hany (List.any_eq_true.2 ⟨c, hc, hupper⟩)).symm
  match cs, h with
  | c :: d :: cs, _ => rw [camelCaseTrimmed, hsplit] <;> simp

namespace Part

variable {p : Part} {ps : List Part} {back : List Char}

theorem camelCase_of_isLong (hp : p.IsLong) (hps : ∀ p ∈ ps, p.IsLong)
    (hapart : (p :: ps).IsChain Apart) (hback : IsGap back) :
    camelCaseTrimmed (trim ((p :: ps).flatMap text ++ back)) =
      keyOfWords ((p :: ps).map Part.word) := by
  obtain ⟨front', back', hfront', hback', htrim⟩ :=
    exists_trim_flatMap hp.isPlain (fun q hq => (hps q hq).isPlain) hback
  have hp' : IsLong { p with gap := front' } := ⟨hfront', hp.letters, hp.length⟩
  have hapart' : ({ p with gap := front' } :: ps).IsChain Apart := by
    rw [List.isChain_cons] at hapart ⊢
    exact hapart
  have hlength : 2 ≤ (({ p with gap := front' } :: ps).flatMap text ++ back').length := by
    have hword := hp.length
    rw [← LetterStyle.length_write p.style] at hword
    simp only [List.flatMap_cons, text, List.length_append]
    omega
  have hfront : p.style.front ≠ .none := by cases p.style <;> decide
  obtain ⟨hmarked, hwords⟩ := markAll_eq hfront fun q hq => (hps q hq).isPlain
  rw [htrim, camelCaseTrimmed_of_length hlength, exists_markBoundaries hp' hps hapart' hback',
    raise_lowercase hp'.isPlain hmarked hback', List.map_cons, List.map_cons, hwords]

theorem isUppercase_of_mem_flatMap (hps : ∀ p ∈ ps, p.IsPlain)
    (hsmall : ∀ p ∈ ps, p.style = .small) (hback : IsGap back) :
    ∀ c ∈ ps.flatMap text ++ back, isUppercase c = false := by
  simp only [List.forall_mem_append, List.forall_mem_flatMap, text]
  refine ⟨fun p hp => ⟨fun c hc => (caseless_of_mem ((hps p hp).gap c hc)).1, fun c hc => ?_⟩,
    fun c hc => (caseless_of_mem (hback c hc)).1⟩
  rw [hsmall p hp] at hc
  exact (plain_of_isWordLetter ((hps p hp).word.of_mem c hc)).2.2.2.1

/-- A name of one character is not split. -/
theorem camelCaseTrimmed_singleton {c : Char} (hc : isWordLetter c = true) :
    camelCaseTrimmed [c] = raiseAfterSeparators [] (raiseAfterDigits false
      (lowercase ([c].dropWhile isSeparator))) := by
  obtain ⟨hseparator, -, -, -, hlower⟩ := plain_of_isWordLetter hc
  have hascii := toNat_lt_of_isWordLetter hc
  rw [camelCaseTrimmed, if_neg (Bool.eq_false_iff.1 hseparator), lowerChar_of_lt hascii, hlower,
    List.dropWhile_cons_of_neg (Bool.eq_false_iff.1 hseparator),
    lowercase_of_lt (List.forall_mem_singleton.2 hascii), List.map_singleton, hlower]
  simp [raiseAfterDigits, raiseAfterSeparators, hseparator]

theorem camelCase_of_small (hp : p.IsPlain) (hps : ∀ p ∈ ps, p.IsPlain ∧ p.gap ≠ [])
    (hsmall : ∀ q ∈ p :: ps, q.style = .small) (hback : IsGap back) :
    camelCaseTrimmed (trim ((p :: ps).flatMap text ++ back)) =
      keyOfWords ((p :: ps).map Part.word) := by
  obtain ⟨front', back', hfront', hback', htrim⟩ :=
    exists_trim_flatMap hp (fun q hq => (hps q hq).1) hback
  have hp' : IsPlain { p with gap := front' } := ⟨hfront', hp.word⟩
  have hkey := raise_lowercase hp' hps hback'
  have hupper := isUppercase_of_mem_flatMap (List.forall_mem_cons.2 ⟨hp', fun q hq => (hps q hq).1⟩)
    (List.forall_mem_cons.2 (List.forall_mem_cons.1 hsmall)) hback'
  rw [htrim]
  by_cases hlength : 2 ≤ (({ p with gap := front' } :: ps).flatMap text ++ back').length
  · rw [camelCaseTrimmed_of_length hlength, markBoundaries_of_small hupper]
    exact hkey
  · -- A character of the first word is the whole name.
    obtain ⟨c, hc⟩ := List.exists_mem_of_ne_nil _ hp.word.nonempty
    have hmem : c ∈ ({ p with gap := front' } :: ps).flatMap text ++ back' := by
      rw [List.flatMap_cons, text, hsmall p List.mem_cons_self, LetterStyle.write]
      simp [hc]
    have hone : (({ p with gap := front' } :: ps).flatMap text ++ back').length = 1 := by
      have hpos := List.length_pos_of_mem hmem
      omega
    obtain ⟨d, hname⟩ := List.length_eq_one_iff.1 hone
    obtain rfl : c = d := List.mem_singleton.1 (hname ▸ hmem)
    rw [hname] at hkey ⊢
    exact (camelCaseTrimmed_singleton (hp.word.of_mem c hc)).trans hkey

end Part

/-- However the words of a name are told apart, the name has the key of the words: separated words
in small letters with digits, and words of letters that are separated or start with a capital. -/
theorem camelCase_words (p : Part) (ps : List Part) (back : List Char) (hback : IsGap back) :
    ((∀ q ∈ p :: ps, q.style = .small ∧ IsGap q.gap ∧ IsWord q.word) → (∀ q ∈ ps, q.gap ≠ []) →
      camelCase (String.ofList ((p :: ps).flatMap Part.text ++ back)) =
        String.ofList (keyOfWords ((p :: ps).map Part.word))) ∧
    ((∀ q ∈ p :: ps, IsGap q.gap ∧ 2 ≤ q.word.length ∧ ∀ c ∈ q.word, c.isLower = true) →
      (p :: ps).IsChain Part.Apart →
      camelCase (String.ofList ((p :: ps).flatMap Part.text ++ back)) =
        String.ofList (keyOfWords ((p :: ps).map Part.word))) := by
  simp only [camelCase, String.toList_ofList]
  constructor
  · intro hall hgaps
    obtain ⟨⟨-, hgap, hword⟩, hps⟩ := List.forall_mem_cons.1 hall
    rw [Part.camelCase_of_small ⟨hgap, hword⟩
      (fun q hq => ⟨⟨(hps q hq).2.1, (hps q hq).2.2⟩, hgaps q hq⟩)
      (fun q hq => (hall q hq).1) hback]
  · intro hall hapart
    obtain ⟨⟨hgap, hlength, hletters⟩, hps⟩ := List.forall_mem_cons.1 hall
    rw [Part.camelCase_of_isLong ⟨hgap, hletters, hlength⟩
      (fun q hq => ⟨(hps q hq).1, (hps q hq).2.2, (hps q hq).2.1⟩) hapart hback]

/-- The words of a name with separators, and of one without. -/
def fooBar : Part × List Part :=
  (⟨['_'], .small, "foo12".toList⟩, [⟨['-', '.'], .small, "bar".toList⟩])

def xmlHttpRequest : Part × List Part :=
  (⟨[], .capitals, "xml".toList⟩,
    [⟨[], .capitalized, "http".toList⟩, ⟨[], .capitalized, "request".toList⟩])

theorem camelCase_words_fooBar_xmlHttpRequest :
    IsGap [' '] ∧ camelCase "_foo12-.bar " = "foo12Bar" ∧
      IsGap [] ∧ camelCase "XMLHttpRequest" = "xmlHttpRequest" := by
  have hback : IsGap [' '] := by decide
  have hword : IsWord "foo12".toList := ⟨by decide, "foo".toList, "12".toList, rfl,
    List.all_eq_true.1 (by decide), List.all_eq_true.1 (by decide)⟩
  have hword' : IsWord "bar".toList := ⟨by decide, "bar".toList, [], rfl,
    List.all_eq_true.1 (by decide), List.forall_mem_nil _⟩
  have hlong {style : LetterStyle} {word : List Char} (hlength : 2 ≤ word.length)
      (hletters : word.all Char.isLower = true) : IsGap (Part.mk [] style word).gap ∧
        2 ≤ word.length ∧ ∀ c ∈ word, c.isLower = true :=
    ⟨List.forall_mem_nil _, hlength, List.all_eq_true.1 hletters⟩
  refine ⟨hback, ?_, List.forall_mem_nil _, ?_⟩
  · refine (camelCase_words fooBar.1 fooBar.2 [' '] hback).1 ?_ (by decide)
    exact List.forall_mem_cons.2 ⟨⟨rfl, List.forall_mem_singleton.2 (by decide), hword⟩,
      List.forall_mem_singleton.2 ⟨rfl, by decide, hword'⟩⟩
  · refine (camelCase_words xmlHttpRequest.1 xmlHttpRequest.2 [] (List.forall_mem_nil _)).2 ?_
      (by decide)
    exact List.forall_mem_cons.2 ⟨hlong (by decide) (by decide), List.forall_mem_cons.2
      ⟨hlong (by decide) (by decide), List.forall_mem_singleton.2 (hlong (by decide) (by decide))⟩⟩

end ScopedStyles.ExportKey
