import ScopedStyles.Text.Blank
import ScopedStyles.Text.LetterCase
/-!
# Letter case in ASCII

On texts of ASCII the case mappings are those of single letters, and no neighbour matters.
-/

namespace ScopedStyles.Text

/-- What holds of every code point of ASCII holds of the characters. -/
theorem of_ascii {P : Char → Prop} (h : ∀ n < 0x80, P (Char.ofNat n)) {c : Char}
    (hc : c.toNat < 0x80) : P c := by
  have hchar := h c.toNat hc
  rwa [Char.ofNat_toNat] at hchar

theorem toNat_lt_of_isLower {c : Char} (h : c.isLower = true) : c.toNat < 0x80 := by
  have hbounds : (decide (c.val ≥ 'a'.val) && decide (c.val ≤ 'z'.val)) = true := h
  simp only [Bool.and_eq_true, decide_eq_true_eq, UInt32.le_iff_toNat_le] at hbounds
  exact Nat.lt_of_le_of_lt hbounds.2 (by decide)

theorem toNat_lt_of_isDigit {c : Char} (h : c.isDigit = true) : c.toNat < 0x80 := by
  simp only [Char.isDigit, Bool.and_eq_true, decide_eq_true_eq, UInt32.le_iff_toNat_le] at h
  exact Nat.lt_of_le_of_lt h.2 (by decide)

theorem toNat_lt_of_isUpper {c : Char} (h : c.isUpper = true) : c.toNat < 0x80 := by
  have hbounds : 'A'.val ≤ c.val ∧ c.val ≤ 'Z'.val := of_decide_eq_true h
  exact Nat.lt_of_le_of_lt (UInt32.le_iff_toNat_le.1 hbounds.2) (by decide)

theorem toNat_lt_of_isAlphanum {c : Char} (h : c.isAlphanum = true) : c.toNat < 0x80 := by
  have hcases : (c.isUpper || c.isLower || c.isDigit) = true := h
  simp only [Bool.or_eq_true] at hcases
  rcases hcases with (hupper | hlower) | hdigit
  · exact toNat_lt_of_isUpper hupper
  · exact toNat_lt_of_isLower hlower
  · exact toNat_lt_of_isDigit hdigit

theorem lowerChar_of_lt {c : Char} (h : c.toNat < 0x80) : lowerChar c = [c.toLower] :=
  if_pos h

theorem upperChar_of_lt {c : Char} (h : c.toNat < 0x80) : upperChar c = [c.toUpper] :=
  if_pos h

theorem lowercaseAfter_of_lt {cs : List Char} (h : ∀ c ∈ cs, c.toNat < 0x80)
    (before : List Char) : lowercaseAfter before cs = cs.map Char.toLower := by
  induction cs generalizing before with
  | nil => rfl
  | cons c cs ih =>
      obtain ⟨hc, hcs⟩ := List.forall_mem_cons.1 h
      have hsigma : c ≠ 'Σ' := by
        rintro rfl
        exact absurd hc (by decide)
      rw [lowercaseAfter, if_neg hsigma, lowerChar_of_lt hc, ih hcs]
      rfl

theorem lowercase_of_lt {cs : List Char} (h : ∀ c ∈ cs, c.toNat < 0x80) :
    lowercase cs = cs.map Char.toLower :=
  lowercaseAfter_of_lt h []

end ScopedStyles.Text
