import Mathlib.Tactic.SplitIfs
import ScopedStyles.Json.Literal
/-!
# Strings that are read back

A JSON string is read as the text that it spells, whatever follows it, and what is written as a JSON
string spells the same text, whatever characters it holds.
-/

namespace ScopedStyles.Json

/-- A character is written with a backslash and a letter or the character itself, with the four
digits of a control character, or as it is. -/
inductive Escapes (c : Char) : List Char → Prop where
  | short {e : Char} (hvalue : Literal.unescape? e = some c) : Escapes c ['\\', e]
  | control (hcontrol : c.toNat < 0x20) :
      Escapes c ['\\', 'u', '0', '0', Nat.digitChar (c.toNat / 16), Nat.digitChar (c.toNat % 16)]
  | plain (hquote : c ≠ '"') (hescape : c ≠ '\\') (hcontrol : ¬ c.toNat < 0x20) : Escapes c [c]

theorem escapes_escape (c : Char) : Escapes c (escape c) := by
  unfold escape
  split_ifs with h h h h h h h hcontrol
  case pos | pos | pos | pos | pos | pos | pos =>
    subst h
    exact .short rfl
  · exact .control hcontrol
  · exact .plain ‹_› ‹_› hcontrol

namespace Literal

theorem ofText_short {c e : Char} (hvalue : unescape? e = some c) (s : List Char) :
    ofText ('\\' :: e :: s) = char c (ofText s) := by
  unfold unescape? at hvalue
  split at hvalue
  case h_9 => cases hvalue
  all_goals
    obtain rfl := Option.some.inj hvalue
    rfl

theorem unit?_control : ∀ n < 0x20,
    unit? '0' '0' (Nat.digitChar (n / 16)) (Nat.digitChar (n % 16)) = some n := by
  decide

theorem ofText_plain {c : Char} (hquote : c ≠ '"') (hescape : c ≠ '\\')
    (hcontrol : ¬ c.toNat < 0x20) (s : List Char) : ofText (c :: s) = char c (ofText s) := by
  rw [ofText.eq_def]
  split <;> simp_all

theorem read_char (c : Char) (next : Literal) :
    (char c next).read = (fun r => (c :: r.1, r.2)) <$> next.read := by
  rw [read]
  cases next.read <;> rfl

/-- The spellings of a text between quotes: the first list spells the second. Escapes of four digits
are units of UTF-16, two of them for characters outside the basic plane. -/
inductive Denotes : List Char → List Char → Prop where
  | nil : Denotes [] []
  | plain {c : Char} {s t : List Char} (hquote : c ≠ '"') (hescape : c ≠ '\\')
      (hcontrol : ¬ c.toNat < 0x20) (h : Denotes s t) : Denotes (c :: s) (c :: t)
  | short {e c : Char} {s t : List Char} (hvalue : unescape? e = some c) (h : Denotes s t) :
      Denotes ('\\' :: e :: s) (c :: t)
  | unit {a b c d : Char} {n : Nat} {s t : List Char} (hn : unit? a b c d = some n)
      (hleading : isLeading n = false) (htrailing : isTrailing n = false) (h : Denotes s t) :
      Denotes ('\\' :: 'u' :: a :: b :: c :: d :: s) (Char.ofNat n :: t)
  | pair {a b c d a' b' c' d' : Char} {n m : Nat} {s t : List Char} (hn : unit? a b c d = some n)
      (hleading : isLeading n = true) (hm : unit? a' b' c' d' = some m)
      (htrailing : isTrailing m = true) (h : Denotes s t) :
      Denotes ('\\' :: 'u' :: a :: b :: c :: d :: '\\' :: 'u' :: a' :: b' :: c' :: d' :: s)
        (pair n m :: t)

theorem isTrailing_of_isLeading {n : Nat} (h : isLeading n = true) : isTrailing n = false := by
  simp only [isLeading, isTrailing, Bool.and_eq_true, decide_eq_true_eq, Bool.and_eq_false_iff,
    decide_eq_false_iff_not] at h ⊢
  omega

theorem ofText_unit {a b c d : Char} {n : Nat} (hn : unit? a b c d = some n) (s : List Char) :
    ofText ('\\' :: 'u' :: a :: b :: c :: d :: s) = unit n (ofText s) := by
  simp only [ofText, hn]

/-- A string is read as the text that it spells. -/
theorem read_of_denotes {s t : List Char} (h : Denotes s t) (rest : List Char) :
    (ofText (s ++ '"' :: rest)).read = .ok (t, rest) := by
  induction h with
  | nil => rfl
  | plain hquote hescape hcontrol _ ih =>
      rw [List.cons_append, ofText_plain hquote hescape hcontrol, read_char, ih]
      rfl
  | short hvalue _ ih =>
      rw [List.cons_append, List.cons_append, ofText_short hvalue, read_char, ih]
      rfl
  | unit hn hleading htrailing _ ih =>
      simp only [List.cons_append, ofText_unit hn]
      rw [read.eq_def]
      simp only [hleading, htrailing, Bool.false_eq_true, if_false, ih]
      rfl
  | pair hn hleading hm htrailing _ ih =>
      simp only [List.cons_append, ofText_unit hn, ofText_unit hm]
      rw [read.eq_def]
      simp only [isTrailing_of_isLeading hleading, hleading, htrailing, Bool.false_eq_true,
        if_false, if_true, ih]
      rfl

theorem denotes_self {t : List Char}
    (ht : ∀ c ∈ t, c ≠ '"' ∧ c ≠ '\\' ∧ ¬ c.toNat < 0x20) : Denotes t t := by
  induction t with
  | nil => exact .nil
  | cons c t ih =>
      obtain ⟨⟨hquote, hescape, hcontrol⟩, ht⟩ := List.forall_mem_cons.1 ht
      exact .plain hquote hescape hcontrol (ih ht)

/-- A written character spells itself. -/
theorem Denotes.append_of_escapes {c : Char} {written s t : List Char} (h : Escapes c written)
    (hs : Denotes s t) : Denotes (written ++ s) (c :: t) := by
  cases h with
  | short hvalue => exact .short hvalue hs
  | control hcontrol =>
      have hunit := unit?_control c.toNat hcontrol
      have hsmall : isLeading c.toNat = false ∧ isTrailing c.toNat = false := by
        simp only [isLeading, isTrailing, Bool.and_eq_false_iff, decide_eq_false_iff_not]
        omega
      have hwritten := Denotes.unit hunit hsmall.1 hsmall.2 hs
      rwa [Char.ofNat_toNat] at hwritten
  | plain hquote hescape hcontrol => exact .plain hquote hescape hcontrol hs

theorem denotes_flatMap_escape (text : List Char) : Denotes (text.flatMap escape) text := by
  induction text with
  | nil => exact .nil
  | cons c text ih => exact ih.append_of_escapes (escapes_escape c)

end Literal

theorem string_of_denotes {s t : List Char} (h : Literal.Denotes s t) (rest : List Char) :
    string (s ++ '"' :: rest) = .ok (String.ofList t, rest) := by
  unfold string
  rw [Literal.read_of_denotes h]
  rfl

theorem encode_append (s rest : List Char) :
    encode s ++ rest = '"' :: (s.flatMap escape ++ '"' :: rest) := by
  rw [encode, List.cons_append, List.append_assoc, List.singleton_append]

/-- A written text is read back. -/
theorem string_escape (text : String) (rest : List Char) :
    string (text.toList.flatMap escape ++ '"' :: rest) = .ok (text, rest) := by
  rw [string_of_denotes (Literal.denotes_flatMap_escape _), String.ofList_toList]

end ScopedStyles.Json
