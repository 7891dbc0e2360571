import Mathlib.Tactic.SplitIfs
import ScopedStyles.Text.Utf8
/-!
# The order of texts and of their bytes

Texts are ordered by their characters and their encodings by bytes. The first byte in which two
characters differ is the smaller one in the smaller character, so both orders agree.
-/

namespace ScopedStyles.Text.Utf8

theorem ofNat_cons_lt_iff {m n : Nat} {bs bs' : List UInt8} (hm : m < 256) (hn : n < 256) :
    UInt8.ofNat m :: bs < UInt8.ofNat n :: bs' ↔ m < n ∨ m = n ∧ bs < bs' := by
  rw [List.cons_lt_cons_iff, UInt8.lt_iff_toNat_lt, ← UInt8.toNat_inj, UInt8.toNat_ofNat',
    UInt8.toNat_ofNat', Nat.mod_eq_of_lt hm, Nat.mod_eq_of_lt hn]

theorem digit_lt_of_lt {v w : Nat} (h : v < w) :
    v / 64 < w / 64 ∨ v / 64 = w / 64 ∧ v % 64 < w % 64 := by
  omega

theorem utf8EncodeChar_append_lt {c d : Char} (h : c < d) (bs bs' : List UInt8) :
    String.utf8EncodeChar c ++ bs < String.utf8EncodeChar d ++ bs' := by
  have hval : c.val.toNat < d.val.toNat := h
  have hvalid : d.val.toNat.isValidChar := d.valid
  unfold Nat.isValidChar at hvalid
  unfold String.utf8EncodeChar
  generalize c.val.toNat = v at hval
  generalize d.val.toNat = w at hval hvalid
  -- Code points are compared digit by digit, as numbers in base 64.
  have hbase (n : Nat) : n / 4096 = n / 64 / 64 ∧ n / 262144 = n / 64 / 64 / 64 := by omega
  have hdigits : v / 64 / 64 / 64 < w / 64 / 64 / 64 ∨ v / 64 / 64 / 64 = w / 64 / 64 / 64 ∧
      (v / 64 / 64 % 64 < w / 64 / 64 % 64 ∨ v / 64 / 64 % 64 = w / 64 / 64 % 64 ∧
        (v / 64 % 64 < w / 64 % 64 ∨ v / 64 % 64 = w / 64 % 64 ∧ v % 64 < w % 64)) := by
    rcases digit_lt_of_lt hval with h | h
    · rcases digit_lt_of_lt h with h | h
      · rcases digit_lt_of_lt h with h | h <;> omega
      · omega
    · omega
  simp only [hbase]
  split_ifs
  all_goals
    simp (disch := omega) only [List.cons_append, List.nil_append, ofNat_cons_lt_iff]
    omega

theorem encode_lt_encode {cs ds : List Char} (h : cs < ds) : encode cs < encode ds := by
  induction h with
  | @nil d ds =>
      rw [encode_nil, encode_cons]
      cases hbytes : String.utf8EncodeChar d ++ encode ds with
      | nil =>
          have hlen := congrArg List.length hbytes
          rw [List.length_append, String.length_utf8EncodeChar] at hlen
          have hpos := d.utf8Size_pos
          simp only [List.length_nil] at hlen
          omega
      | cons b bs => exact List.nil_lt_cons b bs
  | rel hcd => exact utf8EncodeChar_append_lt hcd _ _
  | cons _ ih => exact List.append_left_lt ih

theorem encode_lt_encode_iff {cs ds : List Char} : encode cs < encode ds ↔ cs < ds := by
  refine ⟨fun h => ?_, encode_lt_encode⟩
  by_cases hlt : cs < ds
  · exact hlt
  · rcases List.le_iff_lt_or_eq.1 (List.not_lt.1 hlt) with hgt | rfl
    · exact absurd (encode_lt_encode hgt) (List.lt_asymm h)
    · exact absurd h (List.lt_irrefl _)

end ScopedStyles.Text.Utf8
