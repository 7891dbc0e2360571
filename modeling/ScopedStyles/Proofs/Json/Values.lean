import Mathlib.Data.List.DropRight
import ScopedStyles.Json.Skip
import ScopedStyles.Proofs.Json.Numbers
import ScopedStyles.Proofs.Json.Strings
/-!
# Values that are skipped

How values are spelled, with blanks wherever they may stand, and that skipping a value stops right
behind it, however deep it nests.
-/

namespace ScopedStyles.Json

/-! ## Strings -/

namespace Literal

/-- The spellings of texts between quotes. The digits may be any unit of UTF-16. -/
inductive IsBody : List Char → Prop where
  | nil : IsBody []
  | plain {c : Char} {s : List Char} (hquote : c ≠ '"') (hescape : c ≠ '\\')
      (hcontrol : ¬ c.toNat < 0x20) (hs : IsBody s) : IsBody (c :: s)
  | short {c : Char} {s : List Char} (hc : c ∈ ['"', '\\', '/', 'b', 'f', 'n', 'r', 't'])
      (hs : IsBody s) : IsBody ('\\' :: c :: s)
  | unit {a b c d : Char} {s : List Char}
      (hdigits : ∀ x ∈ [a, b, c, d], x ∈ "0123456789abcdefABCDEF".toList) (hs : IsBody s) :
      IsBody ('\\' :: 'u' :: a :: b :: c :: d :: s)

theorem exists_unescape? {c : Char} (hc : c ∈ ['"', '\\', '/', 'b', 'f', 'n', 'r', 't']) :
    ∃ value, unescape? c = some value := by
  simp only [List.mem_cons, List.not_mem_nil, or_false] at hc
  rcases hc with rfl | rfl | rfl | rfl | rfl | rfl | rfl | rfl <;> exact ⟨_, rfl⟩

theorem exists_unit? {a b c d : Char}
    (hdigits : ∀ x ∈ [a, b, c, d], x ∈ "0123456789abcdefABCDEF".toList) :
    ∃ n, unit? a b c d = some n := by
  have hhex : ∀ x ∈ "0123456789abcdefABCDEF".toList, (Text.hexValue? x).isSome = true :=
    List.all_eq_true.1 (by decide)
  have hall : [a, b, c, d].all (fun x => (Text.hexValue? x).isSome) = true :=
    List.all_eq_true.2 fun x hx => hhex x (hdigits x hx)
  exact ⟨_, if_pos hall⟩

theorem skip_ofText {s : List Char} (hs : IsBody s) (rest : List Char) :
    (ofText (s ++ '"' :: rest)).skip = .ok rest := by
  induction hs with
  | nil => rfl
  | plain hquote hescape hcontrol _ ih =>
      rw [List.cons_append, ofText_plain hquote hescape hcontrol, skip, ih]
  | short hc _ ih =>
      obtain ⟨value, hvalue⟩ := exists_unescape? hc
      rw [List.cons_append, List.cons_append, ofText_short hvalue, skip, ih]
  | @unit a b c d s hdigits _ ih =>
      obtain ⟨n, hn⟩ := exists_unit? hdigits
      have hunit : ofText ('\\' :: 'u' :: a :: b :: c :: d :: (s ++ '"' :: rest)) =
          unit n (ofText (s ++ '"' :: rest)) := by
        simp only [ofText, hn]
      rw [List.cons_append, List.cons_append, List.cons_append, List.cons_append, List.cons_append,
        List.cons_append, hunit, skip, ih]

end Literal

/-! ## Values -/

/-- Blanks. -/
def IsGap (gap : List Char) : Prop :=
  ∀ c ∈ gap, isBlank c = true

/-- What a text can spell: a value, with or without blanks around it, or what stands between the
brackets of one that has entries. -/
inductive Extent where
  | value
  | element
  | elements
  | member
  | members

/-- The spellings of values. -/
inductive Spells : Extent → List Char → Prop where
  | word {s : List Char}
      (hs : s ∈ [['n', 'u', 'l', 'l'], ['t', 'r', 'u', 'e'], ['f', 'a', 'l', 's', 'e']]) :
      Spells .value s
  | number {sign s : List Char} (hsign : sign = [] ∨ sign = ['-']) (hs : Number.IsMagnitude s) :
      Spells .value (sign ++ s)
  | string {s : List Char} (hs : Literal.IsBody s) : Spells .value ('"' :: (s ++ ['"']))
  | emptyArray {gap : List Char} (hgap : IsGap gap) : Spells .value ('[' :: (gap ++ [']']))
  | array {s : List Char} (hs : Spells .elements s) : Spells .value ('[' :: (s ++ [']']))
  | emptyObject {gap : List Char} (hgap : IsGap gap) : Spells .value ('{' :: (gap ++ ['}']))
  | object {s : List Char} (hs : Spells .members s) : Spells .value ('{' :: (s ++ ['}']))
  | element {front s back : List Char} (hfront : IsGap front) (hs : Spells .value s)
      (hback : IsGap back) : Spells .element (front ++ (s ++ back))
  | oneElement {s : List Char} (hs : Spells .element s) : Spells .elements s
  | moreElements {s later : List Char} (hs : Spells .element s) (hlater : Spells .elements later) :
      Spells .elements (s ++ ',' :: later)
  | member {front key back s : List Char} (hfront : IsGap front) (hkey : Literal.IsBody key)
      (hback : IsGap back) (hs : Spells .element s) :
      Spells .member (front ++ '"' :: (key ++ '"' :: (back ++ ':' :: s)))
  | oneMember {s : List Char} (hs : Spells .member s) : Spells .members s
  | moreMembers {s later : List Char} (hs : Spells .member s) (hlater : Spells .members later) :
      Spells .members (s ++ ',' :: later)

/-! ## What skipping does at each sign -/

section

variable {gap s rest : List Char} {c : Char} (fuel : Nat)

theorem skipBlank_gap (hgap : IsGap gap) (s : List Char) : skipBlank (gap ++ s) = skipBlank s :=
  List.dropWhile_append_of_pos hgap

theorem skipBlank_cons (hc : isBlank c = false) (s : List Char) : skipBlank (c :: s) = c :: s :=
  List.dropWhile_cons_of_neg (Bool.eq_false_iff.1 hc)

theorem skipBlank_skipBlank (s : List Char) : skipBlank (skipBlank s) = skipBlank s :=
  List.dropWhile_idempotent isBlank s

theorem skipWithin_congr (h : skipBlank s = skipBlank rest) :
    skipWithin fuel s = skipWithin fuel rest := by
  cases fuel with
  | zero => rfl
  | succ fuel => rw [skipWithin, skipWithin, h]

theorem skipElements_congr (h : skipBlank s = skipBlank rest) :
    skipElements fuel s = skipElements fuel rest := by
  cases fuel with
  | zero => rfl
  | succ fuel => rw [skipElements, skipElements, skipWithin_congr fuel h]

theorem skipMembers_congr (h : skipBlank s = skipBlank rest) :
    skipMembers fuel s = skipMembers fuel rest := by
  cases fuel with
  | zero => rfl
  | succ fuel => rw [skipMembers, skipMembers, h]

theorem skipWithin_string (hs : Literal.IsBody s) (rest : List Char) :
    skipWithin (fuel + 1) ('"' :: (s ++ '"' :: rest)) = .ok rest :=
  Literal.skip_ofText hs rest

theorem opens_of_isDigit (hc : c.isDigit = true) : isBlank c = false ∧ c ≠ ']' ∧ c ≠ '}' := by
  simp only [isBlank, Bool.or_eq_false_iff, beq_eq_false_iff_ne]
  refine ⟨⟨⟨⟨?_, ?_⟩, ?_⟩, ?_⟩, ?_, ?_⟩ <;> (rintro rfl; exact absurd hc (by decide))

theorem skipWithin_digit (hc : c.isDigit = true) (s : List Char) :
    skipWithin (fuel + 1) (c :: s) = Number.skip (c :: s) := by
  rw [skipWithin, skipBlank_cons (opens_of_isDigit hc).1]
  split
  case h_9 => simp_all
  all_goals simp_all [Char.isDigit]

theorem skipWithin_number {sign : List Char} (hsign : sign = [] ∨ sign = ['-'])
    (hs : Number.IsMagnitude s) (hrest : Number.Ends rest) :
    skipWithin (fuel + 1) (sign ++ (s ++ rest)) = .ok rest := by
  have hskip := Number.skip_append hs hrest
  rcases hsign with rfl | rfl
  · obtain ⟨c, cs, hcons, hc⟩ := hs.exists_cons
    rw [List.nil_append]
    rw [hcons, List.cons_append] at hskip ⊢
    rw [skipWithin_digit fuel hc, hskip]
  · exact hskip

theorem skipWithin_emptyArray (hgap : IsGap gap) (rest : List Char) :
    skipWithin (fuel + 1) ('[' :: (gap ++ ']' :: rest)) = .ok rest := by
  rw [skipWithin, skipBlank_cons (by decide)]
  simp only [skipBlank_gap hgap, skipBlank_cons (c := ']') (by decide)]

theorem skipWithin_array (hs : skipBlank s = c :: rest) (hc : c ≠ ']') :
    skipWithin (fuel + 1) ('[' :: s) = skipElements fuel s := by
  have hcongr : skipElements fuel s = skipElements fuel (c :: rest) :=
    skipElements_congr fuel (by rw [← hs, skipBlank_skipBlank])
  rw [skipWithin, skipBlank_cons (by decide), hcongr]
  simp only [hs]
  split <;> simp_all

theorem skipWithin_emptyObject (hgap : IsGap gap) (rest : List Char) :
    skipWithin (fuel + 1) ('{' :: (gap ++ '}' :: rest)) = .ok rest := by
  rw [skipWithin, skipBlank_cons (by decide)]
  simp only [skipBlank_gap hgap, skipBlank_cons (c := '}') (by decide)]

theorem skipWithin_object (hs : skipBlank s = c :: rest) (hc : c ≠ '}') :
    skipWithin (fuel + 1) ('{' :: s) = skipMembers fuel s := by
  have hcongr : skipMembers fuel s = skipMembers fuel (c :: rest) :=
    skipMembers_congr fuel (by rw [← hs, skipBlank_skipBlank])
  rw [skipWithin, skipBlank_cons (by decide), hcongr]
  simp only [hs]
  split <;> simp_all

theorem skipElements_of_skipWithin {later : List Char} (h : skipWithin fuel s = .ok later) :
    (∀ rest, skipBlank later = ',' :: rest → skipElements (fuel + 1) s = skipElements fuel rest) ∧
      ∀ rest, skipBlank later = ']' :: rest → skipElements (fuel + 1) s = .ok rest := by
  constructor
  · intro rest hlater
    simp only [skipElements, h, bind, Except.bind, hlater]
  · intro rest hlater
    simp only [skipElements, h, bind, Except.bind, hlater]

theorem colon_gap {gap : List Char} (hgap : IsGap gap) (s : List Char) :
    colon (gap ++ ':' :: s) = .ok ((), s) := by
  rw [colon, skipBlank_gap hgap, skipBlank_cons (by decide)]
  rfl

theorem skipMembers_of_skipWithin {front key back later : List Char} (hfront : IsGap front)
    (hkey : Literal.IsBody key) (hback : IsGap back) (h : skipWithin fuel s = .ok later) :
    (∀ rest, skipBlank later = ',' :: rest → skipMembers (fuel + 1)
        (front ++ '"' :: (key ++ '"' :: (back ++ ':' :: s))) = skipMembers fuel rest) ∧
      ∀ rest, skipBlank later = '}' :: rest → skipMembers (fuel + 1)
        (front ++ '"' :: (key ++ '"' :: (back ++ ':' :: s))) = .ok rest := by
  have hcolon := colon_gap hback s
  have hopen : skipBlank (front ++ '"' :: (key ++ '"' :: (back ++ ':' :: s))) =
      '"' :: (key ++ '"' :: (back ++ ':' :: s)) := by
    rw [skipBlank_gap hfront, skipBlank_cons (by decide)]
  constructor
  · intro rest hlater
    simp only [skipMembers, hopen, Literal.skip_ofText hkey, bind, Except.bind, hcolon, h, hlater]
  · intro rest hlater
    simp only [skipMembers, hopen, Literal.skip_ofText hkey, bind, Except.bind, hcolon, h, hlater]

end

/-! ## Whole values -/

/-- What stands in front of `rest`, where a value may end. -/
theorem ends_append {gap : List Char} (hgap : IsGap gap) {c : Char} (hc : c ∈ [',', ']', '}'])
    (rest : List Char) : Number.Ends (gap ++ c :: rest) := by
  have hblank : ∀ d, isBlank d = true → d.isDigit = false ∧ d ≠ '.' ∧ d ≠ 'e' ∧ d ≠ 'E' := by
    intro d hd
    simp only [isBlank, Bool.or_eq_true, beq_iff_eq] at hd
    rcases hd with ((rfl | rfl) | rfl) | rfl <;> decide
  cases gap with
  | nil =>
      intro d hd
      obtain rfl := Option.some.inj hd
      simp only [List.mem_cons, List.not_mem_nil, or_false] at hc
      rcases hc with rfl | rfl | rfl <;> decide
  | cons d gap =>
      intro d' hd'
      obtain rfl := Option.some.inj hd'
      exact hblank d (hgap d List.mem_cons_self)

/-- A value, an entry or entries start with neither a blank nor a closing bracket. -/
theorem Spells.exists_cons {e : Extent} {s : List Char} (h : Spells e s) (rest : List Char) :
    ∃ c cs, skipBlank (s ++ rest) = c :: cs ∧ c ≠ ']' ∧ c ≠ '}' := by
  induction h generalizing rest with
  | word hs =>
      simp only [List.mem_cons, List.not_mem_nil, or_false] at hs
      rcases hs with rfl | rfl | rfl <;> exact ⟨_, _, rfl, by decide, by decide⟩
  | number hsign hs =>
      rcases hsign with rfl | rfl
      · obtain ⟨c, cs, rfl, hc⟩ := hs.exists_cons
        have hopens := opens_of_isDigit hc
        exact ⟨c, cs ++ rest, skipBlank_cons hopens.1 _, hopens.2⟩
      · exact ⟨_, _, rfl, by decide, by decide⟩
  | string | emptyArray | array | emptyObject | object =>
      exact ⟨_, _, rfl, by decide, by decide⟩
  | element hfront _ _ ih =>
      rw [List.append_assoc, skipBlank_gap hfront, List.append_assoc]
      exact ih _
  | oneElement _ ih | oneMember _ ih => exact ih rest
  | moreElements _ _ ih | moreMembers _ _ ih =>
      rw [List.append_assoc]
      exact ih _
  | member hfront =>
      rw [List.append_assoc, skipBlank_gap hfront]
      exact ⟨_, _, rfl, by decide, by decide⟩

/-- Where `e` is spelled `s`, it is skipped with as much fuel as `s` is long. -/
def Skips : Extent → List Char → Prop
  | .value, s => ∀ fuel rest, s.length ≤ fuel → Number.Ends rest →
      skipWithin (fuel + 1) (s ++ rest) = .ok rest
  | .element, s => ∀ fuel c rest, s.length ≤ fuel → c ∈ [',', ']', '}'] →
      ∃ back, IsGap back ∧ skipWithin (fuel + 1) (s ++ c :: rest) = .ok (back ++ c :: rest)
  | .elements, s => ∀ fuel rest, s.length ≤ fuel →
      skipElements (fuel + 2) (s ++ ']' :: rest) = .ok rest
  | .member, s => ∀ fuel rest, s.length ≤ fuel →
      skipMembers (fuel + 2) (s ++ ',' :: rest) = skipMembers (fuel + 1) rest ∧
        skipMembers (fuel + 2) (s ++ '}' :: rest) = .ok rest
  | .members, s => ∀ fuel rest, s.length ≤ fuel →
      skipMembers (fuel + 2) (s ++ '}' :: rest) = .ok rest

theorem Spells.skips {e : Extent} {s : List Char} (h : Spells e s) : Skips e s := by
  -- Every constructor consumes a sign that pays for the fuel of the parts.
  induction h with
  | word hs =>
      intro fuel rest _ _
      simp only [List.mem_cons, List.not_mem_nil, or_false] at hs
      rcases hs with rfl | rfl | rfl <;> rfl
  | number hsign hs =>
      intro fuel rest _ hrest
      rw [List.append_assoc, skipWithin_number fuel hsign hs hrest]
  | string hs =>
      intro fuel rest _ _
      rw [List.cons_append, List.append_assoc, List.singleton_append, skipWithin_string fuel hs]
  | emptyArray hgap =>
      intro fuel rest _ _
      rw [List.cons_append, List.append_assoc, List.singleton_append,
        skipWithin_emptyArray fuel hgap]
  | emptyObject hgap =>
      intro fuel rest _ _
      rw [List.cons_append, List.append_assoc, List.singleton_append,
        skipWithin_emptyObject fuel hgap]
  | array hs ih =>
      intro fuel rest hfuel _
      simp only [List.length_cons, List.length_append, List.length_nil] at hfuel
      obtain ⟨fuel, rfl⟩ := Nat.exists_eq_add_of_le' (Nat.le_of_add_left_le hfuel : 2 ≤ fuel)
      obtain ⟨c, cs, hopens, hc, -⟩ := hs.exists_cons (']' :: rest)
      rw [List.cons_append, List.append_assoc, List.singleton_append,
        skipWithin_array (fuel + 2) hopens hc]
      exact ih fuel rest (by omega)
  | object hs ih =>
      intro fuel rest hfuel _
      simp only [List.length_cons, List.length_append, List.length_nil] at hfuel
      obtain ⟨fuel, rfl⟩ := Nat.exists_eq_add_of_le' (Nat.le_of_add_left_le hfuel : 2 ≤ fuel)
      obtain ⟨c, cs, hopens, -, hc⟩ := hs.exists_cons ('}' :: rest)
      rw [List.cons_append, List.append_assoc, List.singleton_append,
        skipWithin_object (fuel + 2) hopens hc]
      exact ih fuel rest (by omega)
  | element hfront _ hback ih =>
      intro fuel c rest hfuel hc
      simp only [List.length_append] at hfuel
      refine ⟨_, hback, ?_⟩
      rw [List.append_assoc, skipWithin_congr (fuel + 1) (skipBlank_gap hfront _),
        List.append_assoc]
      exact ih fuel _ (by omega) (ends_append hback hc rest)
  | oneElement _ ih =>
      intro fuel rest hfuel
      obtain ⟨back, hback, hskip⟩ := ih fuel ']' rest hfuel (by decide)
      exact (skipElements_of_skipWithin (fuel + 1) hskip).2 rest (skipBlank_gap hback _)
  | moreElements _ _ ih ihlater =>
      intro fuel rest hfuel
      simp only [List.length_append, List.length_cons] at hfuel
      obtain ⟨fuel, rfl⟩ := Nat.exists_eq_add_of_le' (by omega : 1 ≤ fuel)
      rw [List.append_assoc, List.cons_append]
      obtain ⟨back, hback, hskip⟩ := ih (fuel + 1) ',' _ (by omega) (by decide)
      rw [(skipElements_of_skipWithin (fuel + 2) hskip).1 _ (skipBlank_gap hback _)]
      exact ihlater fuel rest (by omega)
  | member hfront hkey hback _ ih =>
      intro fuel rest hfuel
      simp only [List.length_append, List.length_cons] at hfuel
      obtain ⟨gap, hgap, hcomma⟩ := ih fuel ',' rest (by omega) (by decide)
      obtain ⟨gap', hgap', hclose⟩ := ih fuel '}' rest (by omega) (by decide)
      simp only [List.append_assoc, List.cons_append]
      exact ⟨(skipMembers_of_skipWithin (fuel + 1) hfront hkey hback hcomma).1 rest
          (skipBlank_gap hgap _),
        (skipMembers_of_skipWithin (fuel + 1) hfront hkey hback hclose).2 rest
          (skipBlank_gap hgap' _)⟩
  | oneMember _ ih => exact fun fuel rest hfuel => (ih fuel rest hfuel).2
  | moreMembers _ _ ih ihlater =>
      intro fuel rest hfuel
      simp only [List.length_append, List.length_cons] at hfuel
      obtain ⟨fuel, rfl⟩ := Nat.exists_eq_add_of_le' (by omega : 1 ≤ fuel)
      rw [List.append_assoc, List.cons_append, (ih (fuel + 1) _ (by omega)).1]
      exact ihlater fuel rest (by omega)

/-- Skipping a value leaves what stands behind it. -/
theorem skip_value {s : List Char} (h : Spells .value s) {rest : List Char}
    (hrest : Number.Ends rest) : skip (s ++ rest) = .ok rest := by
  refine h.skips _ rest ?_ hrest
  rw [List.length_append]
  omega

end ScopedStyles.Json
