import ScopedStyles.Proofs.Text.Parts
import ScopedStyles.Proofs.ExportKey.Keys
/-!
# What a key keeps of its name

Apart from lowercasing, the conversion raises characters, drops separators and does nothing else. So
a name of ASCII has the letters, digits and other signs of its key, in the same order.
-/

namespace ScopedStyles.ExportKey

open Text

/-! ## Marks -/

theorem forall_mem_mark {P : Char → Prop} (hmark : P '-') (before : Option Char)
    (cs : List Char) : ∀ c ∈ mark before cs, P c := by
  rw [mark]
  split
  · exact List.forall_mem_singleton.2 hmark
  · exact List.forall_mem_nil _

theorem forall_mem_withMarks {P : Char → Prop} (hmark : P '-') (before : Option Char)
    {cs : List Char} (hcs : ∀ c ∈ cs, P c) : ∀ c ∈ withMarks before cs, P c := by
  induction cs generalizing before with
  | nil => exact hcs
  | cons c cs ih =>
      obtain ⟨hc, hcs⟩ := List.forall_mem_cons.1 hcs
      exact List.forall_mem_append.2 ⟨forall_mem_mark hmark _ _,
        List.forall_mem_cons.2 ⟨hc, ih (some c) hcs⟩⟩

/-- Dropping its marks leaves the text that was marked. -/
theorem raised_withMarks (before : Option Char) (cs : List Char) :
    Raised cs (withMarks before cs) := by
  induction cs generalizing before with
  | nil => exact .nil
  | cons c cs ih =>
      exact .dropAll (forall_mem_mark (by decide) _ _) ((ih (some c)).keep c)

theorem raised_dropWhile (cs : List Char) : Raised (cs.dropWhile isSeparator) cs := by
  have hdropped : Raised (cs.dropWhile isSeparator)
      (cs.takeWhile isSeparator ++ cs.dropWhile isSeparator) :=
    .dropAll (fun _ => List.mem_takeWhile_imp) (.refl _)
  rwa [List.takeWhile_append_dropWhile] at hdropped

/-! ## Names in ASCII -/

/-- Classes of ASCII characters that hold `-`, and a letter in both of its cases or in neither. -/
structure CaseClosed (P : Char → Prop) : Prop where
  ascii : ∀ c, P c → c.toNat < 0x80
  hyphen : P '-'
  lower : ∀ c, P c → P c.toLower
  upper : ∀ c, P c → P c.toUpper

theorem caseClosed_ascii : CaseClosed fun c => c.toNat < 0x80 where
  ascii _ := id
  hyphen := by decide
  lower _ := of_ascii (P := fun c => c.toLower.toNat < 0x80) (by decide)
  upper _ := of_ascii (P := fun c => c.toUpper.toNat < 0x80) (by decide)

/-- A name in small letters with a separator in front of every word but the first. -/
def smallWords (cs : List Char) : List Char :=
  lowercase ((withMarks none cs).dropWhile isSeparator)

theorem camelCaseTrimmed_eq_raise (cs : List Char) :
    camelCaseTrimmed cs = raiseAfterSeparators [] (raiseAfterDigits false (smallWords cs)) :=
  camelCaseTrimmed_eq cs

namespace CaseClosed

variable {P : Char → Prop} (hP : CaseClosed P) {cs : List Char} (hcs : ∀ c ∈ cs, P c)

include hP

theorem forall_mem_of_raised {out : List Char} (h : Raised out cs) (hcs : ∀ c ∈ cs, P c) :
    ∀ c ∈ out, P c := by
  refine h.forall_mem (fun c hc => ?_) hcs
  rw [upperChar_of_lt (hP.ascii c hc)]
  exact List.forall_mem_singleton.2 (hP.upper c hc)

include hcs

theorem forall_mem_withMarks (before : Option Char) : ∀ c ∈ withMarks before cs, P c :=
  ExportKey.forall_mem_withMarks hP.hyphen before hcs

theorem forall_mem_dropWhile_withMarks :
    ∀ c ∈ (withMarks none cs).dropWhile isSeparator, P c :=
  hP.forall_mem_of_raised (raised_dropWhile _) (hP.forall_mem_withMarks hcs none)

theorem forall_mem_smallWords : ∀ c ∈ smallWords cs, P c := by
  have hname := hP.forall_mem_dropWhile_withMarks hcs
  rw [smallWords, lowercase_of_lt fun c hc => hP.ascii c (hname c hc)]
  exact List.forall_mem_map.2 fun c hc => hP.lower c (hname c hc)

theorem forall_mem_raiseAfterDigits (afterDigit : Bool) :
    ∀ c ∈ raiseAfterDigits afterDigit cs, P c :=
  hP.forall_mem_of_raised (raised_raiseAfterDigits afterDigit cs) hcs

/-- The key of a name has no other characters than the name may have. -/
theorem forall_mem_camelCaseTrimmed : ∀ c ∈ camelCaseTrimmed cs, P c := by
  rw [camelCaseTrimmed_eq_raise]
  exact hP.forall_mem_of_raised (raised_raiseAfterSeparators (List.forall_mem_nil _) _)
    (hP.forall_mem_raiseAfterDigits (hP.forall_mem_smallWords hcs) false)

end CaseClosed

/-! ## Letters -/

/-- A text without its separators. -/
def withoutSeparators (cs : List Char) : List Char :=
  cs.filter fun c => !isSeparator c

/-- The characters of an ASCII text that are no separators, without regard to case. -/
def letters (cs : List Char) : List Char :=
  withoutSeparators (cs.map Char.toLower)

theorem letters_append (front back : List Char) :
    letters (front ++ back) = letters front ++ letters back := by
  rw [letters, List.map_append, withoutSeparators, List.filter_append]
  rfl

theorem letters_cons (c : Char) (cs : List Char) : letters (c :: cs) = letters [c] ++ letters cs :=
  letters_append [c] cs

section

variable {c : Char} (hc : c.toNat < 0x80)

include hc

theorem letters_upperChar : letters (upperChar c) = letters [c] := by
  have hcase : c.toUpper.toLower = c.toLower :=
    of_ascii (P := fun c => c.toUpper.toLower = c.toLower) (by decide) hc
  rw [upperChar_of_lt hc, letters, List.map_singleton, hcase]
  rfl

theorem isSeparator_toLower : isSeparator c.toLower = isSeparator c :=
  of_ascii (P := fun c => isSeparator c.toLower = isSeparator c) (by decide) hc

end

theorem letters_of_isSeparator {c : Char} (hc : isSeparator c = true) : letters [c] = [] :=
  of_separators (P := fun c => letters [c] = []) (by decide) (mem_of_isSeparator hc)

section

variable {cs : List Char} (hcs : ∀ c ∈ cs, c.toNat < 0x80)

include hcs

theorem letters_eq_nil_iff : letters cs = [] ↔ ∀ c ∈ cs, isSeparator c = true := by
  rw [letters, withoutSeparators, List.filter_eq_nil_iff, List.forall_mem_map]
  refine forall₂_congr fun c hc => ?_
  rw [isSeparator_toLower (hcs c hc), Bool.not_eq_true', Bool.not_eq_false]

theorem letters_lowercase : letters (lowercase cs) = letters cs := by
  rw [lowercase_of_lt hcs, letters, letters, List.map_map]
  refine congrArg withoutSeparators (List.map_congr_left fun c hc => ?_)
  exact of_ascii (P := fun c => c.toLower.toLower = c.toLower) (by decide) (hcs c hc)

/-- Raising characters and dropping separators keeps all letters. -/
theorem Raised.letters_eq {out : List Char} (h : Raised out cs) : letters out = letters cs := by
  induction h with
  | nil => rfl
  | @keep out cs c h ih =>
      rw [letters_cons c out, letters_cons c cs, ih (List.forall_mem_cons.1 hcs).2]
  | @raise out cs c h ih =>
      obtain ⟨hc, hcs⟩ := List.forall_mem_cons.1 hcs
      rw [letters_append, letters_upperChar hc, ih hcs, letters_cons c cs]
  | @drop out cs c hc h ih =>
      rw [letters_cons c cs, letters_of_isSeparator hc, ih (List.forall_mem_cons.1 hcs).2,
        List.nil_append]

/-! ## Keys -/

theorem letters_smallWords : letters (smallWords cs) = letters cs := by
  have hmarked := caseClosed_ascii.forall_mem_withMarks hcs none
  calc
    letters (smallWords cs) = letters ((withMarks none cs).dropWhile isSeparator) :=
      letters_lowercase (caseClosed_ascii.forall_mem_dropWhile_withMarks hcs)
    _ = letters (withMarks none cs) := (raised_dropWhile _).letters_eq hmarked
    _ = letters cs := ((raised_withMarks none cs).letters_eq hmarked).symm

theorem letters_camelCaseTrimmed : letters (camelCaseTrimmed cs) = letters cs := by
  have hsmall := caseClosed_ascii.forall_mem_smallWords hcs
  have hdigits := caseClosed_ascii.forall_mem_raiseAfterDigits hsmall false
  calc
    letters (camelCaseTrimmed cs) = letters (raiseAfterDigits false (smallWords cs)) := by
      rw [camelCaseTrimmed_eq_raise]
      exact (raised_raiseAfterSeparators (List.forall_mem_nil _) _).letters_eq hdigits
    _ = letters (smallWords cs) := (raised_raiseAfterDigits false _).letters_eq hsmall
    _ = letters cs := letters_smallWords hcs

theorem camelCaseTrimmed_eq_nil_iff :
    camelCaseTrimmed cs = [] ↔ ∀ c ∈ cs, isSeparator c = true := by
  rw [← letters_eq_nil_iff hcs, ← letters_camelCaseTrimmed hcs]
  constructor
  · intro hkey
    rw [hkey]
    rfl
  · intro hletters
    -- Without letters the key has nothing but separators, but it starts with none.
    have hseps := (letters_eq_nil_iff (caseClosed_ascii.forall_mem_camelCaseTrimmed hcs)).1 hletters
    have hhead := isSeparator_head?_camelCaseTrimmed cs
    cases hkey : camelCaseTrimmed cs with
    | nil => rfl
    | cons c key =>
        rw [hkey] at hseps hhead
        have hnot := hhead c rfl
        rw [hseps c List.mem_cons_self] at hnot
        cases hnot

end

/-- The key of a name in ASCII has the characters of the name in the same order, but for separators
and for the case of letters. It is empty if there is nothing but separators in the name. -/
theorem letters_camelCase (name : String) (hname : ∀ c ∈ name.toList, c.toNat < 0x80) :
    withoutSeparators (lowercase (camelCase name).toList) =
        withoutSeparators (lowercase (trim name.toList)) ∧
      (camelCase name = "" ↔ ∀ c ∈ trim name.toList, isSeparator c = true) := by
  have htrim : ∀ c ∈ trim name.toList, c.toNat < 0x80 := fun c hc => hname c (trim_subset _ hc)
  have hkey := caseClosed_ascii.forall_mem_camelCaseTrimmed htrim
  constructor
  · rw [camelCase, String.toList_ofList, lowercase_of_lt hkey, lowercase_of_lt htrim]
    exact letters_camelCaseTrimmed htrim
  · rw [camelCase, ← String.toList_eq_nil_iff, String.toList_ofList]
    exact camelCaseTrimmed_eq_nil_iff htrim

/-- A name whose key keeps one of its separators. -/
theorem letters_camelCase_gridArea :
    (∀ c ∈ " Grid_3x-(b.".toList, c.toNat < 0x80) ∧
      withoutSeparators (lowercase (camelCase " Grid_3x-(b.").toList) = "grid3x(b".toList ∧
      camelCase " Grid_3x-(b." ≠ "" := by
  have hascii : ∀ c ∈ " Grid_3x-(b.".toList, c.toNat < 0x80 :=
    List.all_iff_forall_prop.1 (by decide)
  obtain ⟨hletters, hempty⟩ := letters_camelCase " Grid_3x-(b." hascii
  refine ⟨hascii, hletters.trans (by decide), mt hempty.1 ?_⟩
  intro hseps
  exact absurd (hseps 'G' (by decide)) (by decide)

end ScopedStyles.ExportKey
