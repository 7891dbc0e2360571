import ScopedStyles.Module.Transform
import ScopedStyles.Proofs.ExportKey.Letters
import ScopedStyles.Proofs.Module.Exports
/-!
# Separators that keys keep

A key has separators only in front of a sign that is neither a letter nor a digit. So it neither
starts nor ends with one, and the key of a name of ASCII letters, digits and separators has none.
-/

namespace ScopedStyles.ExportKey

open Text

/-! ## Kept separators -/

theorem exists_keptBehind_of_append {run front cs : List Char}
    (h : keptBehind run (front ++ cs) = true) : ∃ run', keptBehind run' cs = true := by
  induction front generalizing run with
  | nil => exact ⟨run, h⟩
  | cons c front ih =>
      rw [List.cons_append, keptBehind] at h
      split at h
      · exact ih h
      · exact ih (Bool.and_eq_true_iff.1 h).2

/-- A run of separators that is kept goes on up to a character that cannot be raised. -/
theorem exists_of_keptBehind {run cs : List Char} (hne : run ≠ [])
    (h : keptBehind run cs = true) :
    ∃ gap c back, cs = gap ++ c :: back ∧ (∀ d ∈ gap, isSeparator d = true) ∧
      isSeparator c = false ∧ isWordChar c = false := by
  induction cs generalizing run with
  | nil => exact absurd (List.isEmpty_iff.1 h) hne
  | cons c cs ih =>
      rw [keptBehind] at h
      split at h
      · next hsep =>
        obtain ⟨gap, d, back, rfl, hgap, hd⟩ := ih (by simp) h
        exact ⟨c :: gap, d, back, rfl, List.forall_mem_cons.2 ⟨hsep, hgap⟩, hd⟩
      · next hsep =>
        have hempty : run.isEmpty = false := Bool.eq_false_iff.2 (mt List.isEmpty_iff.1 hne)
        simp only [hempty, Bool.false_or, Bool.and_eq_true, Bool.not_eq_true'] at h
        exact ⟨[], c, cs, rfl, List.forall_mem_nil _, Bool.eq_false_iff.2 hsep, h.1.1⟩

theorem exists_behind_separator {name front back : List Char} {c : Char}
    (hkey : camelCaseTrimmed name = front ++ c :: back) (hc : isSeparator c = true) :
    ∃ gap d rest, back = gap ++ d :: rest ∧ (∀ e ∈ gap, isSeparator e = true) ∧
      isSeparator d = false ∧ isWordChar d = false := by
  have hkept := keptBehind_camelCaseTrimmed name
  rw [hkey] at hkept
  obtain ⟨run, hrun⟩ := exists_keptBehind_of_append hkept
  rw [keptBehind, if_pos hc] at hrun
  exact exists_of_keptBehind (by simp) hrun

/-- A key ends with no separator. -/
theorem isSeparator_getLast?_camelCaseTrimmed (name : List Char) :
    ∀ c ∈ (camelCaseTrimmed name).getLast?, isSeparator c = false := by
  intro c hlast
  refine Bool.eq_false_iff.2 fun hsep => ?_
  obtain ⟨front, hkey⟩ := List.getLast?_eq_some_iff.1 hlast
  obtain ⟨gap, d, rest, hnil, -⟩ := exists_behind_separator hkey hsep
  exact absurd hnil (by simp)

/-- The separators `run` stand between `front` and `back` in `cs`, and no separator is next to
them. -/
structure SeparatorRun (cs front run back : List Char) : Prop where
  split : cs = front ++ run ++ back
  nonempty : run ≠ []
  separators : ∀ c ∈ run, isSeparator c = true
  starts : ∀ c ∈ front.getLast?, isSeparator c = false
  ends : ∀ c ∈ back.head?, isSeparator c = false

theorem SeparatorRun.exists_head? {name front run back : List Char}
    (h : SeparatorRun (camelCaseTrimmed name) front run back) :
    ∃ c ∈ back.head?, isSeparator c = false ∧ isWordChar c = false := by
  obtain ⟨run', c, hrun⟩ := List.eq_nil_or_concat run |>.resolve_left h.nonempty
  rw [List.concat_eq_append] at hrun
  have hc : isSeparator c = true := h.separators c (by simp [hrun])
  have hkey : camelCaseTrimmed name = front ++ run' ++ c :: back := by
    rw [h.split, hrun]
    simp
  obtain ⟨gap, d, rest, hback, hgap, hd⟩ := exists_behind_separator hkey hc
  cases gap with
  | nil => exact ⟨d, by rw [hback]; rfl, hd⟩
  | cons e gap =>
      have he := h.ends e (by rw [hback]; rfl)
      rw [hgap e List.mem_cons_self] at he
      cases he

/-! ## Names without other signs -/

theorem caseClosed_isAlphanum_or_isSeparator :
    CaseClosed fun c => c.isAlphanum = true ∨ isSeparator c = true := by
  have hascii (c : Char) (h : c.isAlphanum = true ∨ isSeparator c = true) : c.toNat < 0x80 :=
    h.elim toNat_lt_of_isAlphanum fun hsep => (toLower_of_mem (mem_of_isSeparator hsep)).1
  constructor
  case ascii => exact hascii
  case hyphen => decide
  case lower =>
      intro c h
      exact of_ascii (P := fun c => c.isAlphanum = true ∨ isSeparator c = true →
        c.toLower.isAlphanum = true ∨ isSeparator c.toLower = true) (by decide) (hascii c h) h
  case upper =>
      intro c h
      exact of_ascii (P := fun c => c.isAlphanum = true ∨ isSeparator c = true →
        c.toUpper.isAlphanum = true ∨ isSeparator c.toUpper = true) (by decide) (hascii c h) h

theorem isWordChar_of_isAlphanum {c : Char} (h : c.isAlphanum = true) : isWordChar c = true :=
  of_ascii (P := fun c => c.isAlphanum = true → isWordChar c = true) (by decide)
    (toNat_lt_of_isAlphanum h) h

theorem isSeparator_eq_false_of_mem {name : List Char}
    (hname : ∀ c ∈ name, c.isAlphanum = true ∨ isSeparator c = true) :
    ∀ c ∈ camelCaseTrimmed name, isSeparator c = false := by
  intro c hc
  refine Bool.eq_false_iff.2 fun hsep => ?_
  obtain ⟨front, back, hkey⟩ := List.append_of_mem hc
  obtain ⟨gap, d, rest, rfl, -, hd, hword⟩ := exists_behind_separator hkey hsep
  -- What stands behind the separators would have to be raised or be one of them.
  have hmem : d ∈ camelCaseTrimmed name := by
    rw [hkey]
    simp
  rcases caseClosed_isAlphanum_or_isSeparator.forall_mem_camelCaseTrimmed hname d hmem with h | h
  · rw [isWordChar_of_isAlphanum h] at hword
    cases hword
  · rw [h] at hd
    cases hd

/-! ## Keys -/

theorem camelCase_ne_of_head {key : String} (hkey : key.toList.head?.any isSeparator = true)
    (name : String) : camelCase name ≠ key := by
  rintro rfl
  obtain ⟨c, hc, hsep⟩ := (Option.any_eq_true _ _).1 hkey
  rw [camelCase, String.toList_ofList] at hc
  rw [isSeparator_head?_camelCaseTrimmed _ c hc] at hsep
  cases hsep

/-- A key neither starts nor ends with a separator, and behind its separators stands a sign that is
neither a letter nor a digit. So the key of ASCII letters, digits and separators has no separator,
and no class is exported as `__proto__`. -/
theorem separators_camelCase (name : String) :
    (∀ c ∈ (camelCase name).toList.head?, isSeparator c = false) ∧
      (∀ c ∈ (camelCase name).toList.getLast?, isSeparator c = false) ∧
      (∀ front run back, SeparatorRun (camelCase name).toList front run back →
        ∃ c ∈ back.head?, isSeparator c = false ∧ isAlphanumeric c = false) ∧
      ((∀ c ∈ name.toList, c.isAlphanum = true ∨ isSeparator c = true) →
        ∀ c ∈ (camelCase name).toList, isSeparator c = false) ∧
      ∀ exports : Option (List (String × Engine.Export)),
        "__proto__" ∉ (ResolvedImport.exportKeys exports).entries.map Prod.fst := by
  simp only [camelCase, String.toList_ofList]
  refine ⟨isSeparator_head?_camelCaseTrimmed _, isSeparator_getLast?_camelCaseTrimmed _, ?_, ?_, ?_⟩
  · intro front run back hrun
    obtain ⟨c, hc, hsep, hword⟩ := hrun.exists_head?
    exact ⟨c, hc, hsep, (Bool.or_eq_false_iff.1 hword).1⟩
  · intro hname
    exact isSeparator_eq_false_of_mem fun c hc => hname c (trim_subset _ hc)
  · intro exports hproto
    obtain ⟨e, -, hkey⟩ := mem_keys_camelCaseKeys_iff.1 hproto
    exact camelCase_ne_of_head (by decide) e.1 hkey

example : camelCase "a-_(b" = "a_(b" := by decide

end ScopedStyles.ExportKey
