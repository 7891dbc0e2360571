import Mathlib.Data.List.DropRight
import ScopedStyles.Text.Split
/-!
# Parts of texts

What is left of a text in front of one of its ends, which words start it, and what trimming leaves.
-/

namespace ScopedStyles.Text

/-! ## Starts -/

theorem upTo_append_right (front rest : List Char) : upTo (front ++ rest) rest = front := by
  rw [upTo, List.length_append, Nat.add_sub_cancel, List.take_left]

theorem upTo_append_left {front text rest : List Char} (h : rest <:+ text) :
    upTo (front ++ text) rest = front ++ upTo text rest := by
  obtain ⟨mid, rfl⟩ := h
  rw [← List.append_assoc, upTo_append_right, upTo_append_right]

/-- A word does not reach over a character that it does not hold. -/
theorem prefix_of_prefix_append_cons {word cs rest : List Char} {stop : Char} (hword : stop ∉ word)
    (h : word <+: cs ++ stop :: rest) : word <+: cs := by
  have hstop : cs ++ [stop] <+: cs ++ stop :: rest := ⟨rest, by simp⟩
  rcases List.prefix_or_prefix_of_prefix h hstop with hfits | hover
  · rcases List.prefix_concat_iff.1 hfits with rfl | hfits
    · exact absurd (List.mem_append_right _ List.mem_cons_self) hword
    · exact hfits
  · exact absurd (hover.subset (List.mem_append_right _ List.mem_cons_self)) hword

/-- Behind the characters that are dropped, the same is left whatever follows it. -/
theorem exists_dropWhile_append {p : Char → Bool} {cs front rest : List Char} (hne : front ≠ [])
    (h : cs.dropWhile p = front ++ rest) :
    ∃ gap, cs = gap ++ front ++ rest ∧
      ∀ rest', (gap ++ front ++ rest').dropWhile p = front ++ rest' := by
  refine ⟨cs.takeWhile p, ?_, fun rest' => ?_⟩
  · rw [List.append_assoc, ← h, List.takeWhile_append_dropWhile]
  · rw [List.append_assoc, List.dropWhile_append_of_pos fun _ => List.mem_takeWhile_imp]
    cases front with
    | nil => exact absurd rfl hne
    | cons c front =>
        have hhead := List.head?_dropWhile_not p cs
        rw [h] at hhead
        refine List.dropWhile_cons_of_neg ?_
        simpa using hhead

/-! ## Trimmed texts -/

theorem trimEnd_eq_rdropWhile (cs : List Char) : trimEnd cs = cs.rdropWhile isBlank := rfl

theorem trimEnd_prefix (cs : List Char) : trimEnd cs <+: cs := by
  rw [trimEnd_eq_rdropWhile]
  exact List.rdropWhile_prefix isBlank cs

theorem trimEnd_trimEnd (cs : List Char) : trimEnd (trimEnd cs) = trimEnd cs := by
  simp only [trimEnd_eq_rdropWhile]
  exact List.rdropWhile_idempotent isBlank cs

theorem trimStart_cons_eq_self_iff {c : Char} {cs : List Char} :
    trimStart (c :: cs) = c :: cs ↔ isBlank c = false := by
  rw [trimStart, List.dropWhile_eq_self_iff]
  constructor
  · intro h
    exact Bool.eq_false_iff.2 (h (Nat.succ_pos _))
  · intro h _
    exact Bool.eq_false_iff.1 h

theorem trimStart_trimEnd {cs : List Char} (h : trimStart cs = cs) :
    trimStart (trimEnd cs) = trimEnd cs := by
  have hfront := trimEnd_prefix cs
  cases hcs : trimEnd cs with
  | nil => rfl
  | cons d ds =>
      rw [hcs] at hfront
      obtain ⟨tail, rfl⟩ := hfront
      exact trimStart_cons_eq_self_iff.2 (trimStart_cons_eq_self_iff.1 h)

theorem trim_trim (cs : List Char) : trim (trim cs) = trim cs := by
  have hstart : trimStart (trimStart cs) = trimStart cs := List.dropWhile_idempotent isBlank cs
  rw [trim, trim, trimStart_trimEnd hstart, trimEnd_trimEnd]

theorem trimStart_eq_self_of_trim {cs : List Char} (h : trim cs = cs) : trimStart cs = cs := by
  have hfront : trim cs <+: trimStart cs := trimEnd_prefix (trimStart cs)
  rw [h] at hfront
  exact (trimStart_suffix cs).eq_of_length
    (Nat.le_antisymm (trimStart_suffix cs).length_le hfront.length_le)

theorem trim_blanks_append {cs gap : List Char} (hgap : ∀ c ∈ gap, isBlank c = true) :
    trim (gap ++ cs) = trim cs := by
  rw [trim, trimStart, List.dropWhile_append_of_pos hgap]
  rfl

/-- Blanks behind a trimmed text do not matter. -/
theorem trim_append_blanks {cs gap : List Char} (h : trim cs = cs)
    (hgap : ∀ c ∈ gap, isBlank c = true) : trim (cs ++ gap) = cs := by
  have hend : trimEnd (cs ++ gap) = trimEnd cs := by
    have hgap : ∀ c ∈ gap.reverse, isBlank c = true := fun c hc => hgap c (List.mem_reverse.1 hc)
    rw [trimEnd, List.reverse_append, List.dropWhile_append_of_pos hgap]
    rfl
  have hstart := trimStart_eq_self_of_trim h
  cases cs with
  | nil =>
      have hall : trimStart ([] ++ gap) = [] := List.dropWhile_eq_nil_iff.2 hgap
      rw [trim, hall]
      rfl
  | cons c cs =>
      have hc := trimStart_cons_eq_self_iff.1 hstart
      rw [List.cons_append, trim, trimStart_cons_eq_self_iff.2 hc, ← List.cons_append, hend]
      rw [trim, hstart] at h
      exact h

end ScopedStyles.Text
