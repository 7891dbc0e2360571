import Mathlib.Data.List.TakeWhile
import ScopedStyles.Import.Specifier
/-!
# Specifiers without their queries

A specifier names what stands in front of its first `?`. Text without a `?` in front of a specifier
is kept when the query is dropped, and a text that has no query stays as it is.
-/

namespace ScopedStyles.Specifier

/-- `name` is the specifier, or what stands in front of its first `?`. -/
def Names (specifier : String) (name : List Char) : Prop :=
  '?' ∉ name ∧ (specifier.toList = name ∨ ∃ query, specifier.toList = name ++ '?' :: query)

theorem forall_bne_question_iff {chars : List Char} :
    (∀ c ∈ chars, (c != '?') = true) ↔ '?' ∉ chars := by
  constructor
  · intro hall hmem
    exact absurd (hall '?' hmem) (by decide)
  · intro hnot c hc
    apply bne_iff_ne.2
    rintro rfl
    exact hnot hc

theorem question_not_mem_withoutQuery (s : String) : '?' ∉ (withoutQuery s).toList := by
  rw [withoutQuery, String.toList_ofList]
  intro hmem
  exact absurd (List.mem_takeWhile_imp hmem) (by decide)

theorem withoutQuery_eq_self_iff {text : String} :
    withoutQuery text = text ↔ '?' ∉ text.toList := by
  rw [withoutQuery, ← String.toList_inj, String.toList_ofList, List.takeWhile_eq_self_iff,
    forall_bne_question_iff]

/-- Text without a query in front of a specifier is not touched when the query is dropped. -/
theorem withoutQuery_append_left {front : String} (hfront : '?' ∉ front.toList) (rest : String) :
    withoutQuery (front ++ rest) = front ++ withoutQuery rest := by
  have hstays := forall_bne_question_iff.2 hfront
  rw [← String.toList_inj, withoutQuery, withoutQuery, String.toList_append, String.toList_append,
    String.toList_ofList, String.toList_ofList, List.takeWhile_append_of_pos hstays]

theorem withoutQuery_append {s : String} (hs : '?' ∉ s.toList) (query : String) :
    withoutQuery (s ++ "?" ++ query) = s := by
  have hnone : withoutQuery ("?" ++ query) = "" := by
    rw [withoutQuery, String.toList_append]
    rfl
  rw [String.append_assoc, withoutQuery_append_left hs, hnone, String.append_empty]

theorem names_iff {specifier : String} {name : List Char} :
    Names specifier name ↔ (withoutQuery specifier).toList = name := by
  rw [withoutQuery, String.toList_ofList]
  constructor
  · rintro ⟨hname, hwhole | ⟨query, hquery⟩⟩
    · rw [hwhole, List.takeWhile_eq_self_iff]
      exact forall_bne_question_iff.2 hname
    · rw [hquery, List.takeWhile_append_of_pos (forall_bne_question_iff.2 hname),
        List.takeWhile_cons_of_neg (by decide), List.append_nil]
  · rintro rfl
    have hsplit := List.takeWhile_append_dropWhile (p := (· != '?')) (l := specifier.toList)
    refine ⟨fun hmem => absurd (List.mem_takeWhile_imp hmem) (by decide), ?_⟩
    cases hrest : specifier.toList.dropWhile (· != '?') with
    | nil =>
        rw [hrest, List.append_nil] at hsplit
        exact .inl hsplit.symm
    | cons c query =>
        have hne : specifier.toList.dropWhile (· != '?') ≠ [] := hrest ▸ List.cons_ne_nil c query
        have hc := List.head_dropWhile_not (· != '?') hne
        simp only [hrest, List.head_cons, bne_eq_false_iff_eq] at hc
        subst hc
        rw [hrest] at hsplit
        exact .inr ⟨query, hsplit.symm⟩

end ScopedStyles.Specifier
