import ScopedStyles.Json.Decode
import ScopedStyles.Proofs.Json.Strings
/-!
# Reading objects member by member

What a reader of an object does at a member and at the closing brace, where blanks may stand in
front of either.
-/

namespace ScopedStyles.Json

variable {gap : List Char} (hgap : ∀ c ∈ gap, isBlank c = true)

include hgap

theorem skipBlank_append {c : Char} (hc : isBlank c = false) (s : List Char) :
    skipBlank (gap ++ c :: s) = c :: s := by
  rw [skipBlank, List.dropWhile_append_of_pos hgap, List.dropWhile_cons_of_neg (by simp [hc])]

theorem nextEntry_close {close : Char} (hclose : isBlank close = false) (first : Bool)
    (s : List Char) : nextEntry close first (gap ++ close :: s) = .ok (false, s) := by
  unfold nextEntry
  rw [skipBlank_append hgap hclose]
  exact if_pos rfl

theorem nextEntry_first {c close : Char} (hc : isBlank c = false) (hne : c ≠ close)
    (s : List Char) : nextEntry close true (gap ++ c :: s) = .ok (true, c :: s) := by
  unfold nextEntry
  rw [skipBlank_append hgap hc]
  exact if_neg hne

theorem nextEntry_later {c close : Char} (hc : isBlank c = false) (hcomma : ',' ≠ close)
    (s : List Char) : nextEntry close false (',' :: (gap ++ c :: s)) = .ok (true, c :: s) := by
  unfold nextEntry
  have hskip : skipBlank (',' :: (gap ++ c :: s)) = ',' :: (gap ++ c :: s) :=
    List.dropWhile_cons_of_neg (by decide)
  rw [hskip]
  simp only [if_neg hcomma, skipBlank_append hgap hc]
  rfl

theorem text_encode (expected value : String) (rest : List Char) :
    text expected (gap ++ (encode value.toList ++ rest)) = .ok (value, rest) := by
  unfold text
  rw [encode_append, skipBlank_append hgap (by decide)]
  exact string_escape value rest

section

variable {σ : Type} {member : String → σ → Reader σ}

theorem members_close (fuel : Nat) (first : Bool) (state : σ) (rest : List Char) :
    members member (fuel + 1) first state (gap ++ '}' :: rest) = .ok (state, rest) := by
  rw [members, nextEntry_close hgap (by decide)]
  rfl

variable {key : String} {state state' : σ} {s rest : List Char}
  (hmember : member key state s = .ok (state', rest))

include hmember

theorem members_first (fuel : Nat) :
    members member (fuel + 1) true state (gap ++ (encode key.toList ++ s)) =
      members member fuel false state' rest := by
  rw [members, encode_append, nextEntry_first hgap (by decide) (by decide)]
  simp only [bind, Except.bind, string_escape, hmember]
  rfl

theorem members_later (fuel : Nat) :
    members member (fuel + 1) false state (',' :: (gap ++ (encode key.toList ++ s))) =
      members member fuel false state' rest := by
  rw [members, encode_append, nextEntry_later hgap (by decide) (by decide)]
  simp only [bind, Except.bind, string_escape, hmember]
  rfl

end

end ScopedStyles.Json
