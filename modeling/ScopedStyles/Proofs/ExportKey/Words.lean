import ScopedStyles.ExportKey
import ScopedStyles.Proofs.Text.LetterCase
/-!
# Words of a name

A name is a list of words, written with separators between them or with capitals at their starts.
However it is written, its key is the first word followed by the others with a capital each.
-/

namespace ScopedStyles.ExportKey

open Text

/-! ## Names -/

/-- Characters that only separate words. -/
def IsGap (gap : List Char) : Prop :=
  ∀ c ∈ gap, c ∈ ['-', '_', '.', ' ']

instance (gap : List Char) : Decidable (IsGap gap) :=
  List.decidableBAll (· ∈ ['-', '_', '.', ' ']) gap

/-- Small letters, and digits behind them. -/
structure IsWord (word : List Char) : Prop where
  nonempty : word ≠ []
  form : ∃ letters digits, word = letters ++ digits ∧ (∀ c ∈ letters, c.isLower = true) ∧
    ∀ c ∈ digits, c.isDigit = true

/-- A word with its first character in capitals. -/
def capitalized : List Char → List Char
  | [] => []
  | c :: cs => c.toUpper :: cs

/-- The key of a list of words. -/
def keyOfWords : List (List Char) → List Char
  | [] => []
  | word :: words => word ++ words.flatMap capitalized

/-- How the letters of a word are written. -/
inductive LetterStyle where
  | small
  | capitalized
  | capitals
  deriving DecidableEq

def LetterStyle.write : LetterStyle → List Char → List Char
  | small, word => word
  | capitalized, word => ExportKey.capitalized word
  | capitals, word => word.map Char.toUpper

/-- A word as it is written, with the separators in front of it. -/
structure Part where
  gap : List Char
  style : LetterStyle
  word : List Char

namespace Part

def text (p : Part) : List Char :=
  p.gap ++ p.style.write p.word

/-- A reader can tell where `q` starts behind `p`: there is a separator, or a capital that does not
go on with capitals. -/
def Apart (p q : Part) : Prop :=
  q.gap ≠ [] ∨ q.style ≠ .small ∧ ¬ (p.style = .capitals ∧ q.style = .capitals)

instance : DecidableRel Apart := fun p q =>
  inferInstanceAs (Decidable (q.gap ≠ [] ∨ q.style ≠ .small ∧
    ¬ (p.style = .capitals ∧ q.style = .capitals)))

/-- A part whose word may be told from the one in front by its separators alone. -/
structure IsPlain (p : Part) : Prop where
  gap : IsGap p.gap
  word : IsWord p.word

/-- A part whose word has no digits and at least two letters. -/
structure IsLong (p : Part) : Prop where
  gap : IsGap p.gap
  letters : ∀ c ∈ p.word, c.isLower = true
  length : 2 ≤ p.word.length

theorem IsLong.isPlain {p : Part} (hp : p.IsLong) : p.IsPlain where
  gap := hp.gap
  word :=
    { nonempty := by
        intro hnil
        have hlength := hp.length
        rw [hnil] at hlength
        exact absurd hlength (by decide)
      form := ⟨p.word, [], (List.append_nil _).symm, hp.letters, List.forall_mem_nil _⟩ }

/-- A part in small letters. -/
def plain (p : Part) : List Char :=
  p.gap ++ p.word

end Part

/-! ## Characters -/

section

variable {c : Char}

/-- What holds of every separator. -/
theorem of_separators {P : Char → Prop} (hall : P '-' ∧ P '_' ∧ P '.' ∧ P ' ')
    (h : c ∈ ['-', '_', '.', ' ']) : P c := by
  simp only [List.mem_cons, List.not_mem_nil, or_false] at h
  obtain ⟨hhyphen, hunderscore, hdot, hspace⟩ := hall
  rcases h with rfl | rfl | rfl | rfl <;> assumption

theorem isSeparator_of_mem (h : c ∈ ['-', '_', '.', ' ']) : isSeparator c = true :=
  of_separators (P := fun c => isSeparator c = true) (by decide) h

theorem caseless_of_mem (h : c ∈ ['-', '_', '.', ' ']) :
    isUppercase c = false ∧ isLowercase c = false :=
  of_separators (P := fun c => isUppercase c = false ∧ isLowercase c = false) (by decide) h

theorem toLower_of_mem (h : c ∈ ['-', '_', '.', ' ']) : c.toNat < 0x80 ∧ c.toLower = c :=
  of_separators (P := fun c => c.toNat < 0x80 ∧ c.toLower = c) (by decide) h

theorem isDigit_of_mem (h : c ∈ ['-', '_', '.', ' ']) : c.isDigit = false :=
  of_separators (P := fun c => c.isDigit = false) (by decide) h

/-- No separator changes when it is raised. -/
theorem raised_of_mem (h : c ∈ ['-', '_', '.', ' ']) :
    isWordChar c = false ∨ upperChar c = [c] :=
  of_separators (P := fun c => isWordChar c = false ∨ upperChar c = [c]) (by decide +kernel) h

theorem small_of_isLower (h : c.isLower = true) :
    isUppercase c = false ∧ isLowercase c = true ∧ c.toLower = c :=
  of_ascii (P := fun c => c.isLower = true →
    isUppercase c = false ∧ isLowercase c = true ∧ c.toLower = c) (by decide)
    (toNat_lt_of_isLower h) h

theorem capital_of_isLower (h : c.isLower = true) :
    isUppercase c.toUpper = true ∧ isLowercase c.toUpper = false ∧ c.toUpper.toNat < 0x80 ∧
      c.toUpper.toLower = c :=
  of_ascii (P := fun c => c.isLower = true → isUppercase c.toUpper = true ∧
    isLowercase c.toUpper = false ∧ c.toUpper.toNat < 0x80 ∧ c.toUpper.toLower = c) (by decide)
    (toNat_lt_of_isLower h) h

theorem isDigit_of_isLower (h : c.isLower = true) : c.isDigit = false :=
  of_ascii (P := fun c => c.isLower = true → c.isDigit = false) (by decide)
    (toNat_lt_of_isLower h) h

/-- What stands in words. -/
def isWordLetter (c : Char) : Bool :=
  c.isLower || c.isDigit

theorem toNat_lt_of_isWordLetter (h : isWordLetter c = true) : c.toNat < 0x80 :=
  (Bool.or_eq_true_iff.1 h).elim toNat_lt_of_isLower toNat_lt_of_isDigit

theorem plain_of_isWordLetter (h : isWordLetter c = true) :
    isSeparator c = false ∧ isBlank c = false ∧ isWordChar c = true ∧ isUppercase c = false ∧
      c.toLower = c :=
  of_ascii (P := fun c => isWordLetter c = true → isSeparator c = false ∧ isBlank c = false ∧
    isWordChar c = true ∧ isUppercase c = false ∧ c.toLower = c) (by decide)
    (toNat_lt_of_isWordLetter h) h

end

/-! ## Written words -/

theorem IsWord.of_mem (hword : IsWord word) : ∀ c ∈ word, isWordLetter c = true := by
  obtain ⟨letters, digits, rfl, hletters, hdigits⟩ := hword.form
  intro c hc
  rcases List.mem_append.1 hc with hc | hc
  · exact Bool.or_eq_true_iff.2 (.inl (hletters c hc))
  · exact Bool.or_eq_true_iff.2 (.inr (hdigits c hc))

theorem written_of_isWordLetter {c : Char} (h : isWordLetter c = true) :
    isSeparator c.toUpper = false ∧ isBlank c.toUpper = false ∧ c.toUpper.toNat < 0x80 ∧
      c.toUpper.toLower = c :=
  of_ascii (P := fun c => isWordLetter c = true → isSeparator c.toUpper = false ∧
    isBlank c.toUpper = false ∧ c.toUpper.toNat < 0x80 ∧ c.toUpper.toLower = c) (by decide)
    (toNat_lt_of_isWordLetter h) h

theorem LetterStyle.mem_write {style : LetterStyle} {word : List Char} {c : Char}
    (h : c ∈ style.write word) : ∃ d ∈ word, c = d ∨ c = d.toUpper := by
  cases style with
  | small => exact ⟨c, h, .inl rfl⟩
  | capitalized =>
      cases word with
      | nil => cases h
      | cons d ds =>
          rcases List.mem_cons.1 h with rfl | h
          · exact ⟨d, List.mem_cons_self, .inr rfl⟩
          · exact ⟨c, List.mem_cons_of_mem d h, .inl rfl⟩
  | capitals =>
      obtain ⟨d, hd, rfl⟩ := List.mem_map.1 h
      exact ⟨d, hd, .inr rfl⟩

/-- Characters of written words are no separators and no blanks. -/
theorem IsWord.of_mem_write {word : List Char} (hword : IsWord word) {style : LetterStyle}
    {c : Char} (h : c ∈ style.write word) :
    isSeparator c = false ∧ isBlank c = false ∧ c.toNat < 0x80 := by
  obtain ⟨d, hd, rfl | rfl⟩ := LetterStyle.mem_write h
  · have hc := hword.of_mem c hd
    have hplain := plain_of_isWordLetter hc
    exact ⟨hplain.1, hplain.2.1, toNat_lt_of_isWordLetter hc⟩
  · have hwritten := written_of_isWordLetter (hword.of_mem d hd)
    exact ⟨hwritten.1, hwritten.2.1, hwritten.2.2.1⟩

theorem IsWord.write_ne_nil {word : List Char} (hword : IsWord word) (style : LetterStyle) :
    style.write word ≠ [] := by
  cases word with
  | nil => exact absurd rfl hword.nonempty
  | cons c cs => cases style <;> exact List.cons_ne_nil _ _

theorem IsWord.map_toLower_write {word : List Char} (hword : IsWord word) (style : LetterStyle) :
    (style.write word).map Char.toLower = word := by
  have hletters := hword.of_mem
  have hsmall {cs : List Char} (hcs : ∀ c ∈ cs, isWordLetter c = true) :
      cs.map Char.toLower = cs := by
    rw [List.map_congr_left fun c hc => (plain_of_isWordLetter (hcs c hc)).2.2.2.2, List.map_id']
  cases style with
  | small => exact hsmall hletters
  | capitalized =>
      cases word with
      | nil => rfl
      | cons c cs =>
          obtain ⟨hc, hcs⟩ := List.forall_mem_cons.1 hletters
          rw [LetterStyle.write, capitalized, List.map_cons, (written_of_isWordLetter hc).2.2.2,
            hsmall hcs]
  | capitals =>
      have hid : (word.map Char.toUpper).map Char.toLower = word.map id := by
        rw [List.map_map]
        exact List.map_congr_left fun c hc => (written_of_isWordLetter (hletters c hc)).2.2.2
      exact hid.trans (List.map_id word)

theorem IsGap.map_toLower {gap : List Char} (hgap : IsGap gap) : gap.map Char.toLower = gap := by
  rw [List.map_congr_left fun c hc => (toLower_of_mem (hgap c hc)).2, List.map_id']

theorem LetterStyle.length_write (style : LetterStyle) (word : List Char) :
    (style.write word).length = word.length := by
  cases style with
  | small => rfl
  | capitalized => cases word <;> rfl
  | capitals => exact List.length_map Char.toUpper

namespace Part

variable {p : Part}

theorem toNat_lt_of_mem_text (hp : p.IsPlain) : ∀ c ∈ p.text, c.toNat < 0x80 := by
  intro c hc
  rcases List.mem_append.1 hc with hc | hc
  · exact (toLower_of_mem (hp.gap c hc)).1
  · exact (hp.word.of_mem_write hc).2.2

theorem map_toLower_text (hp : p.IsPlain) : p.text.map Char.toLower = p.plain := by
  rw [text, List.map_append, hp.gap.map_toLower, hp.word.map_toLower_write, plain]

end Part

end ScopedStyles.ExportKey
