import ScopedStyles.Text.Slice
import ScopedStyles.Text.Utf8
/-!
# Texts and their bytes

A byte offset into a text is where one of the text's ends starts. `offset` names it by that end, so
that a position among bytes and a position among characters are told by the same list, and a slice
between two offsets is what stands between two ends.
-/

namespace ScopedStyles.Text

open Utf8

/-! ## The bytes of a character -/

theorem Utf8.size_cons (c : Char) (cs : List Char) : size (c :: cs) = c.utf8Size + size cs := rfl

theorem length_encode (cs : List Char) : (encode cs).length = size cs := by
  induction cs with
  | nil => rfl
  | cons c cs ih =>
      rw [encode_cons, List.length_append, String.length_utf8EncodeChar, ih, size_cons]

theorem utf8EncodeChar_of_lt {c : Char} (h : c.toNat < 0x80) :
    String.utf8EncodeChar c = [c.toUInt8] := by
  have hv : c.val.toNat ≤ 0x7f := Nat.le_of_lt_succ h
  rw [String.utf8EncodeChar, if_pos hv]
  rfl

theorem utf8Size_of_lt {c : Char} (h : c.toNat < 0x80) : c.utf8Size = 1 := by
  rw [← String.length_utf8EncodeChar, utf8EncodeChar_of_lt h]
  rfl

theorem le_of_mem_utf8EncodeChar {c : Char} {b : UInt8} (h : 0x80 ≤ c.toNat)
    (hb : b ∈ String.utf8EncodeChar c) : 0x80 ≤ b := by
  have hv : ¬ c.val.toNat ≤ 0x7f := Nat.not_le.2 h
  have high {n : Nat} (hn : 0x80 ≤ n % 256) : 0x80 ≤ UInt8.ofNat n := by
    rw [UInt8.le_iff_toNat_le, UInt8.toNat_ofNat']
    exact hn
  rw [String.utf8EncodeChar, if_neg hv] at hb
  split at hb
  · simp only [List.mem_cons, List.not_mem_nil, or_false] at hb
    rcases hb with rfl | rfl <;> exact high (by omega)
  split at hb
  · simp only [List.mem_cons, List.not_mem_nil, or_false] at hb
    rcases hb with rfl | rfl | rfl <;> exact high (by omega)
  · simp only [List.mem_cons, List.not_mem_nil, or_false] at hb
    rcases hb with rfl | rfl | rfl | rfl <;> exact high (by omega)

theorem le_of_mem_tail_utf8EncodeChar {c : Char} {b : UInt8}
    (hb : b ∈ (String.utf8EncodeChar c).tail) : 0x80 ≤ b := by
  by_cases h : c.toNat < 0x80
  · rw [utf8EncodeChar_of_lt h] at hb
    exact absurd hb List.not_mem_nil
  · exact le_of_mem_utf8EncodeChar (Nat.not_lt.1 h) (List.mem_of_mem_tail hb)

/-- `test` says of every byte of a character what `p` says of the character. -/
def TestsAs (test : UInt8 → Bool) (p : Char → Bool) : Prop :=
  ∀ c, ∀ b ∈ String.utf8EncodeChar c, test b = p c

/-- A test that treats all bytes above ASCII alike is told by what it says of ASCII. -/
theorem TestsAs.of_ascii {test : UInt8 → Bool} {p : Char → Bool} (other : Bool)
    (hascii : ∀ n < 0x80, test (UInt8.ofNat n) = p (Char.ofNat n))
    (hbyte : ∀ b, 0x80 ≤ b → test b = other) (hchar : ∀ c, 0x80 ≤ c.toNat → p c = other) :
    TestsAs test p := by
  intro c b hb
  by_cases h : c.toNat < 0x80
  · rw [utf8EncodeChar_of_lt h, List.mem_singleton] at hb
    have hc := hascii c.toNat h
    rw [Char.ofNat_toNat] at hc
    rw [hb, ← hc]
    rfl
  · have h := Nat.not_lt.1 h
    rw [hbyte b (le_of_mem_utf8EncodeChar h hb), hchar c h]

theorem toUInt8_lt {a : Char} (ha : a.toNat < 0x80) : a.toUInt8 < 0x80 := by
  rw [UInt8.lt_iff_toNat_lt]
  exact Nat.lt_of_le_of_lt (Nat.mod_le _ _) ha

theorem eq_of_toUInt8_eq {a c : Char} (ha : a.toNat < 0x80) (hc : c.toNat < 0x80)
    (h : c.toUInt8 = a.toUInt8) : c = a := by
  have h : c.toNat % 256 = a.toNat % 256 := congrArg UInt8.toNat h
  rw [Nat.mod_eq_of_lt (by omega), Nat.mod_eq_of_lt (by omega)] at h
  exact Char.toNat_inj.1 h

theorem ne_of_ascii_of_high {a c : Char} (ha : a.toNat < 0x80) (hc : 0x80 ≤ c.toNat) : c ≠ a := by
  rintro rfl
  exact Nat.not_lt.2 hc ha

theorem ne_toUInt8_of_le {a : Char} (ha : a.toNat < 0x80) {b : UInt8} (hb : 0x80 ≤ b) :
    b ≠ a.toUInt8 := by
  rintro rfl
  exact absurd (toUInt8_lt ha) (UInt8.not_lt.2 hb)

theorem TestsAs.beq {a : Char} (ha : a.toNat < 0x80) :
    TestsAs (fun b => b == a.toUInt8) (fun c => c == a) := by
  intro c b hb
  rw [Bool.eq_iff_iff, beq_iff_eq, beq_iff_eq]
  by_cases hc : c.toNat < 0x80
  · rw [utf8EncodeChar_of_lt hc, List.mem_singleton] at hb
    rw [hb]
    exact ⟨eq_of_toUInt8_eq ha hc, fun h => h ▸ rfl⟩
  · have hhigh := le_of_mem_utf8EncodeChar (Nat.not_lt.1 hc) hb
    exact iff_of_false (ne_toUInt8_of_le ha hhigh) (ne_of_ascii_of_high ha (Nat.not_lt.1 hc))

theorem count_utf8EncodeChar {a : Char} (ha : a.toNat < 0x80) (c : Char) :
    (String.utf8EncodeChar c).count a.toUInt8 = if c = a then 1 else 0 := by
  by_cases hc : c = a
  · rw [if_pos hc, hc, utf8EncodeChar_of_lt ha, List.count_singleton_self]
  · rw [if_neg hc, List.count_eq_zero]
    intro hb
    have h := TestsAs.beq ha c _ hb
    simp only [beq_self_eq_true] at h
    exact hc (beq_iff_eq.1 h.symm)

/-- A character of ASCII is counted among bytes as among characters. -/
theorem count_encode {a : Char} (ha : a.toNat < 0x80) (cs : List Char) :
    (encode cs).count a.toUInt8 = cs.count a := by
  induction cs with
  | nil => rfl
  | cons c cs ih =>
      rw [encode_cons, List.count_append, count_utf8EncodeChar ha, ih, List.count_cons,
        Nat.add_comm]
      simp only [beq_iff_eq]

theorem TestsAs.or {test test' : UInt8 → Bool} {p p' : Char → Bool} (h : TestsAs test p)
    (h' : TestsAs test' p') : TestsAs (fun b => test b || test' b) (fun c => p c || p' c) := by
  intro c b hb
  simp only [h c b hb, h' c b hb]

theorem TestsAs.and {test test' : UInt8 → Bool} {p p' : Char → Bool} (h : TestsAs test p)
    (h' : TestsAs test' p') : TestsAs (fun b => test b && test' b) (fun c => p c && p' c) := by
  intro c b hb
  simp only [h c b hb, h' c b hb]

theorem TestsAs.not {test : UInt8 → Bool} {p : Char → Bool} (h : TestsAs test p) :
    TestsAs (fun b => !test b) (fun c => !p c) := by
  intro c b hb
  simp only [h c b hb]

theorem TestsAs.bne {a : Char} (ha : a.toNat < 0x80) :
    TestsAs (fun b => b != a.toUInt8) (fun c => c != a) :=
  (TestsAs.beq ha).not

theorem TestsAs.takeWhile_encode {test : UInt8 → Bool} {p : Char → Bool} (h : TestsAs test p)
    (cs : List Char) : (encode cs).takeWhile test = encode (cs.takeWhile p) := by
  induction cs with
  | nil => rfl
  | cons c cs ih =>
      rw [encode_cons]
      cases hc : p c with
      | true =>
          have hall : ∀ b ∈ String.utf8EncodeChar c, test b = true :=
            fun b hb => (h c b hb).trans hc
          rw [List.takeWhile_cons_of_pos hc, encode_cons, List.takeWhile_append_of_pos hall, ih]
      | false =>
          obtain ⟨b, bs, hbytes⟩ :=
            List.exists_cons_of_ne_nil (String.utf8EncodeChar_ne_nil (c := c))
          have hb : test b = false := (h c b (hbytes ▸ List.mem_cons_self)).trans hc
          rw [List.takeWhile_cons_of_neg (by simp [hc]), hbytes, List.cons_append,
            List.takeWhile_cons_of_neg (by simp [hb]), encode_nil]

theorem encode_prefix_iff {word cs : List Char} : encode word <+: encode cs ↔ word <+: cs := by
  constructor
  · rintro ⟨bytes, h⟩
    apply List.isPrefix_of_utf8Encode_append_eq_utf8Encode bytes.toByteArray
    have hbytes : (encode word).toByteArray ++ bytes.toByteArray = (encode cs).toByteArray := by
      rw [← List.toByteArray_append, h]
    exact hbytes
  · rintro ⟨tail, rfl⟩
    rw [encode_append]
    exact List.prefix_append _ _

/-! ## Offsets -/

/-- The byte offset in `text` at which its end `rest` starts. -/
def offset (text rest : List Char) : Nat :=
  (encode text).length - (encode rest).length

theorem offset_append (front rest : List Char) :
    offset (front ++ rest) rest = (encode front).length := by
  rw [offset, encode_append, List.length_append, Nat.add_sub_cancel]

theorem drop_offset {text rest : List Char} (h : rest <:+ text) :
    (encode text).drop (offset text rest) = encode rest := by
  obtain ⟨front, rfl⟩ := h
  rw [offset_append, encode_append, List.drop_left]

theorem offset_advance {text mid rest : List Char} (h : mid ++ rest <:+ text) :
    offset text rest = offset text (mid ++ rest) + (encode mid).length := by
  obtain ⟨front, rfl⟩ := h
  rw [offset_append, ← List.append_assoc, offset_append, encode_append, List.length_append]

theorem offset_cons {text cs : List Char} {c : Char} (h : c :: cs <:+ text) :
    offset text cs = offset text (c :: cs) + c.utf8Size := by
  have hmid : [c] ++ cs <:+ text := h
  rw [offset_advance hmid, encode_cons, encode_nil, List.append_nil, String.length_utf8EncodeChar]
  rfl

theorem offset_cons_of_lt {text cs : List Char} {c : Char} (h : c :: cs <:+ text)
    (hc : c.toNat < 0x80) : offset text cs = offset text (c :: cs) + 1 := by
  rw [offset_cons h, utf8Size_of_lt hc]

theorem offset_nil (text : List Char) : offset text [] = (encode text).length := rfl

theorem offset_le (text rest : List Char) : offset text rest ≤ (encode text).length :=
  Nat.sub_le _ _

/-- The first byte of a character. -/
def firstByte (c : Char) : UInt8 :=
  (String.utf8EncodeChar c).head String.utf8EncodeChar_ne_nil

theorem firstByte_mem (c : Char) : firstByte c ∈ String.utf8EncodeChar c :=
  List.head_mem _

theorem firstByte_eq_iff {a c : Char} (ha : a.toNat < 0x80) :
    firstByte c = a.toUInt8 ↔ c = a := by
  have h := TestsAs.beq ha c (firstByte c) (firstByte_mem c)
  rwa [Bool.eq_iff_iff, beq_iff_eq, beq_iff_eq] at h

theorem head?_encode_cons (c : Char) (cs : List Char) :
    (encode (c :: cs)).head? = some (firstByte c) := by
  rw [encode_cons, List.head?_append, List.head?_eq_some_head String.utf8EncodeChar_ne_nil]
  rfl

theorem getElem?_offset {text rest : List Char} (h : rest <:+ text) :
    (encode text)[offset text rest]? = (encode rest).head? := by
  rw [← drop_offset h, List.head?_drop]

theorem getElem?_offset_cons {text cs : List Char} {c : Char} (h : c :: cs <:+ text) :
    (encode text)[offset text (c :: cs)]? = some (firstByte c) := by
  rw [getElem?_offset h, head?_encode_cons]

theorem getElem?_offset_eq_iff {text rest : List Char} (h : rest <:+ text) {a : Char}
    (ha : a.toNat < 0x80) :
    (encode text)[offset text rest]? = some a.toUInt8 ↔ rest.head? = some a := by
  rw [getElem?_offset h]
  cases rest with
  | nil => exact iff_of_false (by simp) (by simp)
  | cons c cs =>
      rw [head?_encode_cons, List.head?_cons, Option.some.injEq, Option.some.injEq]
      exact firstByte_eq_iff ha

theorem all_getElem?_offset {text rest : List Char} (h : rest <:+ text) {test : UInt8 → Bool}
    {p : Char → Bool} (htest : TestsAs test p) :
    (encode text)[offset text rest]?.all test = rest.head?.all p := by
  rw [getElem?_offset h]
  cases rest with
  | nil => rfl
  | cons c cs =>
      rw [head?_encode_cons, List.head?_cons, Option.all_some, Option.all_some]
      exact htest c (firstByte c) (firstByte_mem c)

/-- `rest` is an end of `text`, and `before` is the character in front of it. -/
def Stands (text : List Char) (before : Option Char) (rest : List Char) : Prop :=
  ∃ front, text = front ++ rest ∧ before = front.getLast?

theorem Stands.suffix {text rest : List Char} {before : Option Char} (h : Stands text before rest) :
    rest <:+ text := by
  obtain ⟨front, rfl, -⟩ := h
  exact List.suffix_append front rest

theorem Stands.start (text : List Char) : Stands text none text :=
  ⟨[], rfl, rfl⟩

theorem Stands.advance {text mid rest : List Char} {before : Option Char}
    (h : Stands text before (mid ++ rest)) : Stands text (mid.getLast?.or before) rest := by
  obtain ⟨front, rfl, rfl⟩ := h
  refine ⟨front ++ mid, (List.append_assoc front mid rest).symm, ?_⟩
  rw [List.getLast?_append]

theorem Stands.next {text cs : List Char} {before : Option Char} {c : Char}
    (h : Stands text before (c :: cs)) : Stands text (some c) cs := by
  have hmid : Stands text before ([c] ++ cs) := h
  exact hmid.advance

/-- The byte in front of an offset is the last one of the character in front of it. -/
theorem Stands.all_getElem?_pred {text rest : List Char} {before : Option Char}
    (h : Stands text before rest) {test : UInt8 → Bool} {p : Char → Bool} (htest : TestsAs test p) :
    (offset text rest == 0 || (encode text)[offset text rest - 1]?.all test) = before.all p := by
  obtain ⟨front, rfl, rfl⟩ := h
  rw [offset_append, encode_append]
  rcases List.eq_nil_or_concat front with rfl | ⟨front, c, rfl⟩
  · rfl
  · rw [List.concat_eq_append]
    obtain ⟨b, hb⟩ := Option.ne_none_iff_exists'.1
      (mt List.getLast?_eq_none_iff.1 (String.utf8EncodeChar_ne_nil (c := c)))
    have hlast : (encode (front ++ [c])).getLast? = some b := by
      rw [encode_append, List.getLast?_append, encode_cons, encode_nil, List.append_nil, hb]
      rfl
    have hpos : 0 < (encode (front ++ [c])).length := by
      rw [encode_append, List.length_append, encode_cons, List.length_append,
        String.length_utf8EncodeChar]
      have hsize := c.utf8Size_pos
      omega
    rw [List.getElem?_append_left (Nat.sub_lt hpos Nat.one_pos), ← List.getLast?_eq_getElem?, hlast,
      List.getLast?_concat, Option.all_some, Option.all_some,
      htest c b (List.mem_of_getLast? hb)]
    have hne : ((encode (front ++ [c])).length == 0) = false := beq_false_of_ne (Nat.ne_of_gt hpos)
    rw [hne, Bool.false_or]

/-- What a loop over bytes finds does not change over the bytes that continue a character, if it
steps over each of them. -/
theorem stutter {α : Type} {text : List Char} {F : Nat → α}
    (hF : ∀ i b, (encode text)[i]? = some b → 0x80 ≤ b → F (i + 1) = F i) {i : Nat}
    {bs rest : List UInt8} (hbs : ∀ b ∈ bs, 0x80 ≤ b) (hi : (encode text).drop i = bs ++ rest) :
    F (i + bs.length) = F i := by
  induction bs generalizing i with
  | nil => rfl
  | cons b bs ih =>
      have hget : (encode text)[i]? = some b := by
        rw [← List.head?_drop, hi]
        rfl
      have hnext : (encode text).drop (i + 1) = bs ++ rest := by
        rw [← List.tail_drop, hi]
        rfl
      rw [List.length_cons, Nat.add_comm bs.length 1, ← Nat.add_assoc,
        ih (fun b' hb' => hbs b' (List.mem_cons_of_mem b hb')) hnext]
      exact hF i b hget (hbs b List.mem_cons_self)

theorem stutter_char {α : Type} {text : List Char} {F : Nat → α}
    (hF : ∀ i b, (encode text)[i]? = some b → 0x80 ≤ b → F (i + 1) = F i) {c : Char}
    {cs : List Char} (h : c :: cs <:+ text) (hc : 0x80 ≤ c.toNat) :
    F (offset text cs) = F (offset text (c :: cs)) := by
  have hbytes : (encode text).drop (offset text (c :: cs)) =
      String.utf8EncodeChar c ++ encode cs := drop_offset h
  rw [offset_cons h, ← String.length_utf8EncodeChar]
  exact stutter hF (fun b hb => le_of_mem_utf8EncodeChar hc hb) hbytes

theorem stutter_tail {α : Type} {text : List Char} {F : Nat → α}
    (hF : ∀ i b, (encode text)[i]? = some b → 0x80 ≤ b → F (i + 1) = F i) {c : Char}
    {cs : List Char} (h : c :: cs <:+ text) :
    F (offset text cs) = F (offset text (c :: cs) + 1) := by
  have hchar : String.utf8EncodeChar c = firstByte c :: (String.utf8EncodeChar c).tail :=
    (List.cons_head_tail _).symm
  have hbytes : (encode text).drop (offset text (c :: cs) + 1) =
      (String.utf8EncodeChar c).tail ++ encode cs := by
    rw [← List.drop_drop, drop_offset h, encode_cons, hchar]
    rfl
  rw [offset_cons h, ← String.length_utf8EncodeChar, hchar, List.length_cons, Nat.add_comm _ 1,
    ← Nat.add_assoc]
  exact stutter hF (fun b hb => le_of_mem_tail_utf8EncodeChar hb) hbytes

/-! ## Slices -/

theorem size_utf8Encode (cs : List Char) : cs.utf8Encode.size = (encode cs).length :=
  List.size_toByteArray

theorem utf8ByteSize_ofList (cs : List Char) :
    (String.ofList cs).utf8ByteSize = (encode cs).length := by
  rw [← String.size_toByteArray, String.toByteArray_ofList, size_utf8Encode]

theorem isValid_offset {text rest : List Char} (h : rest <:+ text) :
    (⟨offset text rest⟩ : String.Pos.Raw).IsValid (String.ofList text) := by
  obtain ⟨front, rfl⟩ := h
  rw [offset_append, String.Pos.Raw.isValid_iff_exists_append]
  refine ⟨String.ofList front, String.ofList rest, String.ofList_append, ?_⟩
  rw [← utf8ByteSize_ofList]
  rfl

theorem slice_offset {text mid rest : List Char} (h : mid ++ rest <:+ text) :
    slice (String.ofList text) (offset text (mid ++ rest)) (offset text rest) =
      .ok (String.ofList mid) := by
  have hstart := isValid_offset h
  have hstop := isValid_offset ((List.suffix_append mid rest).trans h)
  have hmid := offset_advance h
  rw [slice, dif_pos ⟨hstart, hstop, by omega⟩, Except.ok.injEq, ← String.toByteArray_inj,
    String.toByteArray_extract]
  obtain ⟨front, rfl⟩ := h
  simp only [String.offset_pos, String.toByteArray_ofList, List.utf8Encode_append, hmid,
    offset_append]
  have hskip := ByteArray.extract_append_size_add' (a := front.utf8Encode)
    (b := mid.utf8Encode ++ rest.utf8Encode) (i := 0) (j := (encode mid).length)
    (size_utf8Encode front).symm
  rw [Nat.add_zero] at hskip
  rw [hskip, ByteArray.extract_append_eq_left (size_utf8Encode mid).symm]

end ScopedStyles.Text
