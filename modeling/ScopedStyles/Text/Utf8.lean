/-!
# UTF-8

Texts as bytes. `decode` reads exactly the well-formed byte sequences, and a fault tells where the
first ill-formed one starts and how long it is, which is how far a character could still follow.
-/

namespace ScopedStyles.Text.Utf8

/-- The bytes of a text. -/
def encode (cs : List Char) : List UInt8 :=
  cs.flatMap String.utf8EncodeChar

/-- The number of bytes of a text. -/
def size (cs : List Char) : Nat :=
  cs.foldr (fun c n => c.utf8Size + n) 0

/-- Why bytes are no text: from `index` on no character follows. `length` is the number of bytes
that start no character, or nothing if the bytes end inside of one. -/
structure Fault where
  index : Nat
  length : Option Nat
  deriving DecidableEq, Repr

/-- The wording of a fault. -/
def Fault.message (f : Fault) : String :=
  match f.length with
  | some n => s!"invalid utf-8 sequence of {n} bytes from index {f.index}"
  | none => s!"incomplete utf-8 byte sequence from index {f.index}"

/-- A character of which `taken` bytes were read and `more` are to come, the next one of them
between `low` and `high`. -/
structure Begun where
  taken : Nat := 0
  more : Nat := 0
  value : Nat := 0
  low : Nat := 0x80
  high : Nat := 0xBF

/-- What a first byte starts. The bounds on the byte after it leave out the long forms of short
characters, the surrogates, and what lies above the last code point. -/
def Begun.first? (b : Nat) : Option Begun :=
  if b < 0x80 then some { taken := 1, value := b }
  else if b < 0xC2 then none
  else if b < 0xE0 then some { taken := 1, more := 1, value := b - 0xC0 }
  else if b = 0xE0 then some { taken := 1, more := 2, value := 0, low := 0xA0 }
  else if b = 0xED then some { taken := 1, more := 2, value := 0xD, high := 0x9F }
  else if b < 0xF0 then some { taken := 1, more := 2, value := b - 0xE0 }
  else if b = 0xF0 then some { taken := 1, more := 3, value := 0, low := 0x90 }
  else if b < 0xF4 then some { taken := 1, more := 3, value := b - 0xF0 }
  else if b = 0xF4 then some { taken := 1, more := 3, value := 4, high := 0x8F }
  else none

/-- Takes one more byte, if it continues the character. -/
def Begun.step? (p : Begun) (b : Nat) : Option Begun :=
  if p.taken = 0 then first? b
  else if p.low ≤ b ∧ b ≤ p.high then
    some { taken := p.taken + 1, more := p.more - 1, value := p.value * 64 + (b - 0x80) }
  else none

/-- Reads bytes behind the part of a character that starts at `index`. -/
def decodeFrom (index : Nat) (p : Begun) : List UInt8 → Except Fault (List Char)
  | [] => if p.taken = 0 then .ok [] else .error ⟨index, none⟩
  | b :: bs =>
    match p.step? b.toNat with
    | none => .error ⟨index, some (max 1 p.taken)⟩
    | some q =>
      if q.more = 0 then (Char.ofNat q.value :: ·) <$> decodeFrom (index + q.taken) {} bs
      else decodeFrom index q bs

/-- The text of bytes. -/
def decode (bs : List UInt8) : Except Fault (List Char) :=
  decodeFrom 0 {} bs

/-- The text of bytes as a string. -/
def decodeString (bs : List UInt8) : Except Fault String :=
  String.ofList <$> decode bs

@[simp] theorem encode_nil : encode [] = [] := rfl

@[simp] theorem encode_cons (c : Char) (cs : List Char) :
    encode (c :: cs) = String.utf8EncodeChar c ++ encode cs := rfl

@[simp] theorem encode_append (cs ds : List Char) : encode (cs ++ ds) = encode cs ++ encode ds := by
  simp [encode]

private theorem toNat_ofNat_of_lt {n : Nat} (h : n < 256) : (UInt8.ofNat n).toNat = n := by
  rw [UInt8.toNat_ofNat']
  omega

theorem decodeFrom_cons_of_more {index : Nat} {p q : Begun} {n : Nat} {bs : List UInt8}
    (hn : n < 256) (hstep : p.step? n = some q) (hmore : q.more ≠ 0) :
    decodeFrom index p (UInt8.ofNat n :: bs) = decodeFrom index q bs := by
  rw [decodeFrom, toNat_ofNat_of_lt hn, hstep]
  exact if_neg hmore

theorem decodeFrom_cons_of_last {index : Nat} {p q : Begun} {n : Nat} {bs : List UInt8}
    (hn : n < 256) (hstep : p.step? n = some q) (hmore : q.more = 0) :
    decodeFrom index p (UInt8.ofNat n :: bs) =
      (Char.ofNat q.value :: ·) <$> decodeFrom (index + q.taken) {} bs := by
  rw [decodeFrom, toNat_ofNat_of_lt hn, hstep]
  exact if_pos hmore

theorem Begun.step?_first {q : Begun} {n : Nat} (h : first? n = some q) : step? {} n = some q := h

theorem Begun.step?_next {p : Begun} {n : Nat} (htaken : p.taken ≠ 0) (hlow : p.low ≤ n)
    (hhigh : n ≤ p.high) :
    p.step? n =
      some { taken := p.taken + 1, more := p.more - 1, value := p.value * 64 + (n - 0x80) } := by
  rw [step?, if_neg htaken, if_pos ⟨hlow, hhigh⟩]

theorem Begun.first?_three {v : Nat} (hlow : 0x800 ≤ v) (hhigh : v < 0x10000)
    (hscalar : v < 0xD800 ∨ 0xDFFF < v) :
    ∃ low high, first? (v / 4096 % 16 + 224) =
        some { taken := 1, more := 2, value := v / 4096, low, high } ∧
      low ≤ v / 64 % 64 + 128 ∧ v / 64 % 64 + 128 ≤ high := by
  unfold first?
  rw [if_neg (by omega), if_neg (by omega), if_neg (by omega)]
  split
  · exact ⟨0xA0, 0xBF, by simp; omega, by omega, by omega⟩
  · split
    · exact ⟨0x80, 0x9F, by simp; omega, by omega, by omega⟩
    · rw [if_pos (by omega)]
      exact ⟨0x80, 0xBF, by simp; omega, by omega, by omega⟩

theorem Begun.first?_four {v : Nat} (hlow : 0x10000 ≤ v) (hhigh : v < 0x110000) :
    ∃ low high, first? (v / 262144 % 8 + 240) =
        some { taken := 1, more := 3, value := v / 262144, low, high } ∧
      low ≤ v / 4096 % 64 + 128 ∧ v / 4096 % 64 + 128 ≤ high := by
  unfold first?
  rw [if_neg (by omega), if_neg (by omega), if_neg (by omega), if_neg (by omega),
    if_neg (by omega), if_neg (by omega)]
  split
  · exact ⟨0x90, 0xBF, by simp; omega, by omega, by omega⟩
  · split
    · exact ⟨0x80, 0xBF, by simp; omega, by omega, by omega⟩
    · rw [if_pos (by omega)]
      exact ⟨0x80, 0x8F, by simp; omega, by omega, by omega⟩

theorem decodeFrom_encodeChar (c : Char) (index : Nat) (bs : List UInt8) :
    decodeFrom index {} (String.utf8EncodeChar c ++ bs) =
      (c :: ·) <$> decodeFrom (index + c.utf8Size) {} bs := by
  have hscalar : c.val.toNat < 0xD800 ∨ 0xDFFF < c.val.toNat ∧ c.val.toNat < 0x110000 := c.valid
  have hchar : Char.ofNat c.val.toNat = c := Char.ofNat_toNat c
  rw [← String.length_utf8EncodeChar]
  unfold String.utf8EncodeChar
  generalize c.val.toNat = v at hscalar hchar
  subst hchar
  dsimp only
  split
  · rw [List.singleton_append, decodeFrom_cons_of_last (q := { taken := 1, value := v }) (by omega)
      (by simp [Begun.step?, Begun.first?]; omega) rfl]
    rfl
  split
  · rw [List.cons_append, decodeFrom_cons_of_more (q := { taken := 1, more := 1, value := v / 64 })
        (by omega) (Begun.step?_first (by
          rw [Begun.first?, if_neg (by omega), if_neg (by omega), if_pos (by omega)]
          simp
          omega)) (by simp),
      List.singleton_append, decodeFrom_cons_of_last (by omega)
        (Begun.step?_next (by simp) (by simp) (by simp; omega)) rfl,
      show v / 64 * 64 + (v % 64 + 128 - 0x80) = v by omega]
    rfl
  split
  · obtain ⟨low, high, hfirst, hl, hh⟩ :=
      Begun.first?_three (v := v) (by omega) (by omega) (by omega)
    rw [List.cons_append, decodeFrom_cons_of_more (by omega) (Begun.step?_first hfirst) (by simp),
      List.cons_append, decodeFrom_cons_of_more (by omega)
        (Begun.step?_next (by simp) hl hh) (by simp),
      List.singleton_append, decodeFrom_cons_of_last (by omega)
        (Begun.step?_next (by simp) (by simp) (by simp; omega)) rfl,
      show (v / 4096 * 64 + (v / 64 % 64 + 128 - 0x80)) * 64 + (v % 64 + 128 - 0x80) = v by omega]
    rfl
  · obtain ⟨low, high, hfirst, hl, hh⟩ := Begun.first?_four (v := v) (by omega) (by omega)
    rw [List.cons_append, decodeFrom_cons_of_more (by omega) (Begun.step?_first hfirst) (by simp),
      List.cons_append, decodeFrom_cons_of_more (by omega)
        (Begun.step?_next (by simp) hl hh) (by simp),
      List.cons_append, decodeFrom_cons_of_more (by omega)
        (Begun.step?_next (by simp) (by simp) (by simp; omega)) (by simp),
      List.singleton_append, decodeFrom_cons_of_last (by omega)
        (Begun.step?_next (by simp) (by simp) (by simp; omega)) rfl,
      show ((v / 262144 * 64 + (v / 4096 % 64 + 128 - 0x80)) * 64 + (v / 64 % 64 + 128 - 0x80)) * 64
        + (v % 64 + 128 - 0x80) = v by omega]
    rfl

theorem decodeFrom_encode (cs : List Char) (index : Nat) :
    decodeFrom index {} (encode cs) = .ok cs := by
  induction cs generalizing index with
  | nil => rfl
  | cons c cs ih => simp [decodeFrom_encodeChar, ih, Functor.map, Except.map]

/-- Every text is read back from its bytes. -/
theorem decode_encode (cs : List Char) : decode (encode cs) = .ok cs :=
  decodeFrom_encode cs 0

end ScopedStyles.Text.Utf8
