import Mathlib.Data.Nat.Init
import ScopedStyles.Path
/-!
# Bytes that are a text

Bytes are read as a text only if they are the bytes of this text. So a path that is a text is the
path that the text spells.
-/

namespace ScopedStyles.Text.Utf8

/-! ## One character -/

theorem toNat_val_ofNat {v : Nat} (h : v.isValidChar) : (Char.ofNat v).val.toNat = v := by
  rw [Char.ofNat, dif_pos h]
  rfl

theorem ofNat_eq_of_toNat {b : UInt8} {n : Nat} (h : n = b.toNat) : UInt8.ofNat n = b := by
  rw [h, UInt8.ofNat_toNat]

theorem utf8EncodeChar_one {a : UInt8} {v : Nat} (hv : v = a.toNat) (ha : a.toNat < 0x80) :
    String.utf8EncodeChar (Char.ofNat v) = [a] := by
  have hvalid : v.isValidChar := .inl (by omega)
  simp only [String.utf8EncodeChar, toNat_val_ofNat hvalid]
  rw [if_pos (by omega), ofNat_eq_of_toNat hv]

theorem utf8EncodeChar_two {a b : UInt8} {v : Nat}
    (hv : v = (a.toNat - 0xC0) * 64 + (b.toNat - 0x80)) (ha : 0xC2 ≤ a.toNat ∧ a.toNat < 0xE0)
    (hb : 0x80 ≤ b.toNat ∧ b.toNat ≤ 0xBF) :
    String.utf8EncodeChar (Char.ofNat v) = [a, b] := by
  have hvalid : v.isValidChar := .inl (by omega)
  simp only [String.utf8EncodeChar, toNat_val_ofNat hvalid]
  rw [if_neg (by omega), if_pos (by omega), ofNat_eq_of_toNat (b := a) (by omega),
    ofNat_eq_of_toNat (b := b) (by omega)]

theorem utf8EncodeChar_three {a b c : UInt8} {v : Nat}
    (hv : v = ((a.toNat - 0xE0) * 64 + (b.toNat - 0x80)) * 64 + (c.toNat - 0x80))
    (ha : 0xE0 ≤ a.toNat ∧ a.toNat < 0xF0) (hb : 0x80 ≤ b.toNat ∧ b.toNat ≤ 0xBF)
    (hlong : a.toNat = 0xE0 → 0xA0 ≤ b.toNat) (hscalar : a.toNat = 0xED → b.toNat ≤ 0x9F)
    (hc : 0x80 ≤ c.toNat ∧ c.toNat ≤ 0xBF) :
    String.utf8EncodeChar (Char.ofNat v) = [a, b, c] := by
  have hvalid : v.isValidChar := by
    unfold Nat.isValidChar
    omega
  simp only [String.utf8EncodeChar, toNat_val_ofNat hvalid]
  rw [if_neg (by omega), if_neg (by omega), if_pos (by omega),
    ofNat_eq_of_toNat (b := a) (by omega), ofNat_eq_of_toNat (b := b) (by omega),
    ofNat_eq_of_toNat (b := c) (by omega)]

theorem utf8EncodeChar_four {a b c d : UInt8} {v : Nat}
    (hv : v = (((a.toNat - 0xF0) * 64 + (b.toNat - 0x80)) * 64 + (c.toNat - 0x80)) * 64 +
      (d.toNat - 0x80))
    (ha : 0xF0 ≤ a.toNat ∧ a.toNat ≤ 0xF4) (hb : 0x80 ≤ b.toNat ∧ b.toNat ≤ 0xBF)
    (hlong : a.toNat = 0xF0 → 0x90 ≤ b.toNat) (hlast : a.toNat = 0xF4 → b.toNat ≤ 0x8F)
    (hc : 0x80 ≤ c.toNat ∧ c.toNat ≤ 0xBF) (hd : 0x80 ≤ d.toNat ∧ d.toNat ≤ 0xBF) :
    String.utf8EncodeChar (Char.ofNat v) = [a, b, c, d] := by
  have hvalid : v.isValidChar := by
    unfold Nat.isValidChar
    omega
  simp only [String.utf8EncodeChar, toNat_val_ofNat hvalid]
  rw [if_neg (by omega), if_neg (by omega), if_neg (by omega),
    ofNat_eq_of_toNat (b := a) (by omega), ofNat_eq_of_toNat (b := b) (by omega),
    ofNat_eq_of_toNat (b := c) (by omega), ofNat_eq_of_toNat (b := d) (by omega)]

/-! ## Steps of the reader -/

/-- What a first byte starts: a character of one byte, or one of which so many bytes are missing,
where the next of them stands between two bounds. -/
theorem Begun.first?_cases {b : Nat} {q : Begun} (h : first? b = some q) :
    (b < 0x80 ∧ q = { taken := 1, value := b }) ∨
    (0xC2 ≤ b ∧ b < 0xE0 ∧ q = { taken := 1, more := 1, value := b - 0xC0 }) ∨
    (0xE0 ≤ b ∧ b < 0xF0 ∧ ∃ low high, q = { taken := 1, more := 2, value := b - 0xE0, low, high } ∧
      0x80 ≤ low ∧ high ≤ 0xBF ∧ (b = 0xE0 → 0xA0 ≤ low) ∧ (b = 0xED → high ≤ 0x9F)) ∨
    (0xF0 ≤ b ∧ b ≤ 0xF4 ∧ ∃ low high, q = { taken := 1, more := 3, value := b - 0xF0, low, high } ∧
      0x80 ≤ low ∧ high ≤ 0xBF ∧ (b = 0xF0 → 0x90 ≤ low) ∧ (b = 0xF4 → high ≤ 0x8F)) := by
  unfold first? at h
  split at h
  case isTrue hone =>
    cases h
    exact .inl ⟨hone, rfl⟩
  split at h
  · cases h
  split at h
  case isTrue htwo =>
    cases h
    exact .inr (.inl ⟨by omega, htwo, rfl⟩)
  refine .inr (.inr ?_)
  split at h
  case isTrue he0 =>
    cases h
    exact .inl ⟨by omega, by omega, 0xA0, 0xBF, by rw [he0], by omega⟩
  split at h
  case isTrue hed =>
    cases h
    exact .inl ⟨by omega, by omega, 0x80, 0x9F, by rw [hed], by omega⟩
  split at h
  case isTrue hthree =>
    cases h
    exact .inl ⟨by omega, hthree, 0x80, 0xBF, rfl, by omega⟩
  refine .inr ?_
  split at h
  case isTrue hf0 =>
    cases h
    exact ⟨by omega, by omega, 0x90, 0xBF, by rw [hf0], by omega⟩
  split at h
  case isTrue hfour =>
    cases h
    exact ⟨by omega, by omega, 0x80, 0xBF, rfl, by omega⟩
  split at h
  case isTrue hf4 =>
    cases h
    exact ⟨by omega, by omega, 0x80, 0x8F, by rw [hf4], by omega⟩
  · cases h

/-- Bytes that go on with a character have a next byte between its bounds. -/
theorem exists_cons_of_decodeFrom {index : Nat} {p : Begun} {bs : List UInt8} {cs : List Char}
    (htaken : p.taken ≠ 0) (h : decodeFrom index p bs = .ok cs) :
    ∃ b rest, bs = b :: rest ∧ p.low ≤ b.toNat ∧ b.toNat ≤ p.high ∧
      .ok cs =
        if p.more - 1 = 0 then
          (Char.ofNat (p.value * 64 + (b.toNat - 0x80)) :: ·) <$>
            decodeFrom (index + (p.taken + 1)) {} rest
        else decodeFrom index
          { taken := p.taken + 1, more := p.more - 1, value := p.value * 64 + (b.toNat - 0x80) }
          rest := by
  cases bs with
  | nil =>
      rw [decodeFrom, if_neg htaken] at h
      cases h
  | cons b rest =>
      refine ⟨b, rest, rfl, ?_⟩
      by_cases hbounds : p.low ≤ b.toNat ∧ b.toNat ≤ p.high
      · refine ⟨hbounds.1, hbounds.2, ?_⟩
        rw [← h, decodeFrom, Begun.step?_next htaken hbounds.1 hbounds.2]
      · rw [decodeFrom, Begun.step?, if_neg htaken, if_neg hbounds] at h
        cases h

theorem exists_of_map_eq_ok {c : Char} {x : Except Fault (List Char)} {cs : List Char}
    (h : (c :: ·) <$> x = .ok cs) : ∃ rest, cs = c :: rest ∧ x = .ok rest := by
  cases x with
  | error fault => cases h
  | ok rest => exact ⟨rest, (Except.ok.inj h).symm, rfl⟩

theorem exists_of_decodeFrom_more {index : Nat} {p : Begun} {bs : List UInt8} {cs : List Char}
    (htaken : p.taken ≠ 0) (hmore : p.more - 1 ≠ 0) (h : decodeFrom index p bs = .ok cs) :
    ∃ b rest, bs = b :: rest ∧ p.low ≤ b.toNat ∧ b.toNat ≤ p.high ∧
      decodeFrom index
        { taken := p.taken + 1, more := p.more - 1, value := p.value * 64 + (b.toNat - 0x80) }
        rest = .ok cs := by
  obtain ⟨b, rest, rfl, hlow, hhigh, hstep⟩ := exists_cons_of_decodeFrom htaken h
  rw [if_neg hmore] at hstep
  exact ⟨b, rest, rfl, hlow, hhigh, hstep.symm⟩

theorem exists_of_decodeFrom_last {index : Nat} {p : Begun} {bs : List UInt8} {cs : List Char}
    (htaken : p.taken ≠ 0) (hmore : p.more - 1 = 0) (h : decodeFrom index p bs = .ok cs) :
    ∃ b rest cs', bs = b :: rest ∧ p.low ≤ b.toNat ∧ b.toNat ≤ p.high ∧
      cs = Char.ofNat (p.value * 64 + (b.toNat - 0x80)) :: cs' ∧
      decodeFrom (index + (p.taken + 1)) {} rest = .ok cs' := by
  obtain ⟨b, rest, rfl, hlow, hhigh, hstep⟩ := exists_cons_of_decodeFrom htaken h
  rw [if_pos hmore] at hstep
  obtain ⟨cs', hcs, hrest⟩ := exists_of_map_eq_ok hstep.symm
  exact ⟨b, rest, cs', rfl, hlow, hhigh, hcs, hrest⟩

/-- Bytes read as a text start with the bytes of its first character. -/
theorem exists_char_of_decodeFrom {index : Nat} {a : UInt8} {bs : List UInt8} {cs : List Char}
    (h : decodeFrom index {} (a :: bs) = .ok cs) :
    ∃ c cs' bs' index', cs = c :: cs' ∧ a :: bs = String.utf8EncodeChar c ++ bs' ∧
      decodeFrom index' {} bs' = .ok cs' := by
  rw [decodeFrom, Begun.step?, if_pos rfl] at h
  cases hfirst : Begun.first? a.toNat with
  | none =>
      rw [hfirst] at h
      cases h
  | some q =>
      rw [hfirst] at h
      simp only at h
      rcases Begun.first?_cases hfirst with ⟨ha, rfl⟩ | ⟨hlow, hhigh, rfl⟩ |
        ⟨hlow, hhigh, low, high, rfl, hbounds⟩ | ⟨hlow, hhigh, low, high, rfl, hbounds⟩
      · obtain ⟨cs', rfl, hrest⟩ := exists_of_map_eq_ok h
        refine ⟨_, cs', bs, _, rfl, ?_, hrest⟩
        rw [utf8EncodeChar_one rfl ha]
        rfl
      · rw [if_neg (by simp)] at h
        obtain ⟨b, rest, cs', rfl, hb, hb', rfl, hrest⟩ :=
          exists_of_decodeFrom_last (by simp) (by simp) h
        refine ⟨_, cs', rest, _, rfl, ?_, hrest⟩
        rw [utf8EncodeChar_two rfl ⟨hlow, hhigh⟩ ⟨hb, hb'⟩]
        rfl
      · rw [if_neg (by simp)] at h
        obtain ⟨b, rest, rfl, hb, hb', h⟩ := exists_of_decodeFrom_more (by simp) (by simp) h
        obtain ⟨c, rest, cs', rfl, hc, hc', rfl, hrest⟩ :=
          exists_of_decodeFrom_last (by simp) (by simp) h
        refine ⟨_, cs', rest, _, rfl, ?_, hrest⟩
        simp only at hb hb'
        rw [utf8EncodeChar_three rfl ⟨hlow, hhigh⟩ (by omega) (by omega) (by omega) ⟨hc, hc'⟩]
        rfl
      · rw [if_neg (by simp)] at h
        obtain ⟨b, rest, rfl, hb, hb', h⟩ := exists_of_decodeFrom_more (by simp) (by simp) h
        obtain ⟨c, rest, rfl, hc, hc', h⟩ := exists_of_decodeFrom_more (by simp) (by simp) h
        obtain ⟨d, rest, cs', rfl, hd, hd', rfl, hrest⟩ :=
          exists_of_decodeFrom_last (by simp) (by simp) h
        refine ⟨_, cs', rest, _, rfl, ?_, hrest⟩
        simp only at hb hb'
        rw [utf8EncodeChar_four rfl ⟨hlow, hhigh⟩ (by omega) (by omega) (by omega) ⟨hc, hc'⟩
          ⟨hd, hd'⟩]
        rfl

/-! ## Texts -/

theorem encode_eq_of_decodeFrom {index : Nat} {bs : List UInt8} {cs : List Char}
    (h : decodeFrom index {} bs = .ok cs) : encode cs = bs := by
  -- Characters of one to four bytes are read off, so the induction is on the number of bytes.
  induction hn : bs.length using Nat.strong_induction_on generalizing index bs cs with
  | _ n ih =>
      cases bs with
      | nil =>
          rw [decodeFrom, if_pos rfl] at h
          rw [← Except.ok.inj h, encode_nil]
      | cons a bs =>
          obtain ⟨c, cs', bs', index', rfl, hbytes, hrest⟩ := exists_char_of_decodeFrom h
          have hlen := congrArg List.length hbytes
          rw [List.length_append, String.length_utf8EncodeChar] at hlen
          have hsize := c.utf8Size_pos
          rw [encode_cons, hbytes, ih bs'.length (by omega) hrest rfl]

/-- Exactly the bytes of a text are read as this text. -/
theorem decode_eq_ok_iff {bs : List UInt8} {cs : List Char} :
    decode bs = .ok cs ↔ encode cs = bs := by
  constructor
  · exact encode_eq_of_decodeFrom
  · rintro rfl
    exact decode_encode cs

end ScopedStyles.Text.Utf8

namespace ScopedStyles.Path

open Text

/-- A path is the text `t` exactly if `t` spells it. -/
theorem text?_eq_some_iff {p : Path} {t : String} : p.text? = some t ↔ p = ofString t := by
  obtain ⟨bytes⟩ := p
  rw [ofString, Path.mk.injEq, eq_comm (a := bytes), ← Utf8.decode_eq_ok_iff, text?,
    Utf8.decodeString]
  cases hread : Utf8.decode bytes with
  | error fault => simp [Except.toOption, Functor.map, Except.map]
  | ok cs =>
      simp only [Except.toOption, Functor.map, Except.map, Option.some.injEq, Except.ok.injEq]
      constructor
      · rintro rfl
        simp
      · rintro rfl
        simp

theorem ofString_inj {s t : String} : ofString s = ofString t ↔ s = t := by
  constructor
  · intro h
    have hbytes := congrArg (fun p => Utf8.decode p.bytes) h
    simp only [ofString, Utf8.decode_encode] at hbytes
    exact String.toList_inj.1 (Except.ok.inj hbytes)
  · rintro rfl
    rfl

end ScopedStyles.Path
