import ScopedStyles.Json.Decode
import ScopedStyles.Except
import ScopedStyles.Proofs.Json.Objects
import ScopedStyles.Proofs.Json.Values
/-!
# Where readers stop

A reader of values of one type accepts only some of the values, but where it accepts one it stops
where skipping the value stops. So what a member of an object is read as does not decide where the
next member starts.
-/

namespace ScopedStyles.Json

theorem Literal.skip_of_read {l : Literal} {text rest : List Char}
    (h : l.read = .ok (text, rest)) : l.skip = .ok rest := by
  fun_induction Literal.read l generalizing text rest with
  | case1 =>
      cases h
      rfl
  | case2 | case4 | case6 | case7 | case8 => cases h
  | case3 c next ih | case9 n next _ _ ih =>
      obtain ⟨_, hnext, h⟩ := bind_eq_ok h
      cases h
      exact ih hnext
  | case5 n _ _ m next _ ih =>
      obtain ⟨_, hnext, h⟩ := bind_eq_ok h
      cases h
      exact ih hnext

theorem skip_of_string {s rest : List Char} {text : String} (h : string s = .ok (text, rest)) :
    (Literal.ofText s).skip = .ok rest := by
  obtain ⟨_, hread, h⟩ := bind_eq_ok h
  cases h
  exact Literal.skip_of_read hread

/-- Where a value is read and skipped, both stop at the same place. -/
def StopsWithSkip {α : Type} (read : Reader α) : Prop :=
  ∀ {fuel : Nat} {s rest later : List Char} {a : α},
    read s = .ok (a, rest) → skipWithin fuel s = .ok later → rest = later

theorem wrongType_ne_ok {α : Type} {expected : String} {s : List Char} {r : α × List Char} :
    wrongType expected s ≠ .ok r := by
  intro h
  unfold wrongType at h
  split at h
  · cases h
  · cases h
  · obtain ⟨_, -, h⟩ := bind_eq_ok h
    cases h

theorem text_stopsWithSkip (expected : String) : StopsWithSkip (text expected) := by
  intro fuel s rest later a hread hskip
  cases fuel with
  | zero => cases hskip
  | succ fuel =>
      unfold text at hread
      unfold skipWithin at hskip
      split at hread
      · next hquote =>
          rw [hquote] at hskip
          exact Except.ok.inj ((skip_of_string hread).symm.trans hskip)
      · exact absurd hread wrongType_ne_ok

theorem eq_of_map_word {α : Type} {expected s rest later : List Char} {a b : α}
    (hread : (fun r => (a, r.2)) <$> word expected s = .ok (b, rest))
    (hskip : (·.2) <$> word expected s = .ok later) : rest = later := by
  cases hword : word expected s with
  | error e =>
      rw [hword] at hskip
      cases hskip
  | ok r =>
      rw [hword] at hread hskip
      cases hread
      exact Except.ok.inj hskip

theorem boolean_stopsWithSkip (expected : String) : StopsWithSkip (boolean expected) := by
  intro fuel s rest later a hread hskip
  cases fuel with
  | zero => cases hskip
  | succ fuel =>
      unfold boolean at hread
      unfold skipWithin at hskip
      split at hread
      · next hword =>
          rw [hword] at hskip
          exact eq_of_map_word hread hskip
      · next hword =>
          rw [hword] at hskip
          exact eq_of_map_word hread hskip
      · exact absurd hread wrongType_ne_ok

theorem unit_stopsWithSkip (expected : String) : StopsWithSkip (unit expected) := by
  intro fuel s rest later a hread hskip
  cases fuel with
  | zero => cases hskip
  | succ fuel =>
      unfold unit at hread
      unfold skipWithin at hskip
      split at hread
      · next hword =>
          rw [hword] at hskip
          simp only [hread] at hskip
          exact Except.ok.inj hskip
      · exact absurd hread wrongType_ne_ok

theorem nullable_stopsWithSkip {α : Type} {read : Reader α} (hread : StopsWithSkip read) :
    StopsWithSkip (nullable read) := by
  intro fuel s rest later a h hskip
  cases fuel with
  | zero => cases hskip
  | succ fuel =>
      unfold nullable at h
      split at h
      · next hword =>
          unfold skipWithin at hskip
          rw [hword] at hskip
          exact eq_of_map_word h hskip
      · have hblank := skipBlank_skipBlank s
        rw [← skipWithin_congr (fuel + 1) hblank] at hskip
        cases hvalue : read (skipBlank s) with
        | error e =>
            rw [hvalue] at h
            cases h
        | ok r =>
            rw [hvalue] at h
            cases h
            exact hread hvalue hskip

/-! ## Arrays -/

theorem skipWithin_of_skipBlank (fuel : Nat) {s inside : List Char} {c : Char}
    (hs : skipBlank s = c :: inside) : skipWithin fuel s = skipWithin fuel (c :: inside) := by
  rw [← skipWithin_congr fuel (skipBlank_skipBlank s), hs]

theorem skipWithin_emptyArray_of_skipBlank (fuel : Nat) {inside rest : List Char}
    (hclose : skipBlank inside = ']' :: rest) :
    skipWithin (fuel + 1) ('[' :: inside) = .ok rest := by
  rw [skipWithin, skipBlank_cons (by decide)]
  simp only [hclose]

theorem nextEntry_eq_ok {close : Char} {first more : Bool} {s s' : List Char}
    (h : nextEntry close first s = .ok (more, s')) :
    (more = false ∧ skipBlank s = close :: s') ∨
    (more = true ∧ first = true ∧ ∃ c cs, skipBlank s = c :: cs ∧ c ≠ close ∧ s' = c :: cs) ∨
    (more = true ∧ first = false ∧ ∃ cs, skipBlank s = ',' :: cs ∧ s' = skipBlank cs) := by
  unfold nextEntry at h
  split at h
  · cases h
  · next c cs hs =>
    split at h
    · next hclose =>
        cases h
        exact .inl ⟨rfl, hclose ▸ hs⟩
    · next hclose =>
        split at h
        · next hfirst =>
            cases h
            exact .inr (.inl ⟨rfl, hfirst, c, cs, hs, hclose, rfl⟩)
        · next hfirst =>
            split at h
            · next hcomma =>
                split at h
                · cases h
                · cases h
                  exact .inr (.inr ⟨rfl, Bool.eq_false_iff.2 hfirst, cs, hcomma ▸ hs, rfl⟩)
            · cases h

/-- Behind an element, the array ends or goes on to where skipping stops, too. -/
def GoesOnTo (rest s : List Char) : Prop :=
  skipBlank s = ']' :: rest ∨
    ∃ cs, skipBlank s = ',' :: cs ∧ ∀ fuel later, skipElements fuel cs = .ok later → rest = later

section

variable {α : Type} {read : Reader α} (hread : StopsWithSkip read)

include hread

theorem GoesOnTo.eq_of_skipElements {s s' rest later : List Char} {a : α} {fuel : Nat}
    (hs' : GoesOnTo rest s') (hfirst : read (skipBlank s) = .ok (a, s'))
    (hskip : skipElements fuel s = .ok later) : rest = later := by
  cases fuel with
  | zero => cases hskip
  | succ fuel =>
      rw [skipElements, ← skipWithin_congr fuel (skipBlank_skipBlank s)] at hskip
      cases hwithin : skipWithin fuel (skipBlank s) with
      | error e =>
          rw [hwithin] at hskip
          cases hskip
      | ok behind =>
          obtain rfl : s' = behind := hread hfirst hwithin
          rw [hwithin] at hskip
          rcases hs' with hclose | ⟨cs, hcomma, hlater⟩
          · simp only [bind, Except.bind, hclose] at hskip
            exact Except.ok.inj hskip
          · simp only [bind, Except.bind, hcomma] at hskip
            exact hlater fuel later hskip

theorem goesOnTo_of_elements {n : Nat} {s rest : List Char} {as : List α}
    (h : elements read n false s = .ok (as, rest)) : GoesOnTo rest s := by
  induction n generalizing s as with
  | zero => cases h
  | succ n ih =>
      obtain ⟨⟨more, s'⟩, hnext, h⟩ := bind_eq_ok h
      rcases nextEntry_eq_ok hnext with ⟨rfl, hclose⟩ | ⟨-, hfirst, -⟩ | ⟨rfl, -, cs, hcomma, rfl⟩
      · cases h
        exact .inl hclose
      · cases hfirst
      · obtain ⟨⟨a, behind⟩, hfirst, h⟩ := bind_eq_ok h
        obtain ⟨⟨as', rest'⟩, hothers, h⟩ := bind_eq_ok h
        cases h
        refine .inr ⟨cs, hcomma, fun fuel later hskip => ?_⟩
        exact (ih hothers).eq_of_skipElements hread hfirst hskip

theorem array_stopsWithSkip (expected : String) : StopsWithSkip (array expected read) := by
  intro fuel s rest later as h hskip
  cases fuel with
  | zero => cases hskip
  | succ fuel =>
      unfold array at h
      split at h
      · next inside hopen =>
          rw [skipWithin_of_skipBlank _ hopen] at hskip
          obtain ⟨⟨more, s'⟩, hnext, h⟩ := bind_eq_ok h
          rcases nextEntry_eq_ok hnext with
            ⟨rfl, hclose⟩ | ⟨rfl, -, c, cs, hopens, hne, rfl⟩ | ⟨-, hfirst, -⟩
          · cases h
            rw [skipWithin_emptyArray_of_skipBlank fuel hclose] at hskip
            exact Except.ok.inj hskip
          · obtain ⟨⟨a, behind⟩, hfirst, h⟩ := bind_eq_ok h
            obtain ⟨⟨as', rest'⟩, hothers, h⟩ := bind_eq_ok h
            cases h
            rw [skipWithin_array fuel hopens hne] at hskip
            rw [← hopens] at hfirst
            exact (goesOnTo_of_elements hread hothers).eq_of_skipElements hread hfirst hskip
          · cases hfirst
      · exact absurd h wrongType_ne_ok

end

/-! ## Variants -/

theorem variant_stopsWithSkip {α : Type} (name : α → String) (first second : α) :
    StopsWithSkip (variant name first second) := by
  intro fuel s rest later a h hskip
  cases fuel with
  | zero => cases hskip
  | succ fuel =>
      unfold variant at h
      split at h
      · next hquote =>
          rw [skipWithin, hquote] at hskip
          obtain ⟨⟨text, s'⟩, hstring, h⟩ := bind_eq_ok h
          obtain ⟨value, -, h⟩ := bind_eq_ok h
          cases h
          exact Except.ok.inj ((skip_of_string hstring).symm.trans hskip)
      · next inside hbrace =>
          rw [skipWithin_of_skipBlank _ hbrace] at hskip
          split at h
          · next key hquote =>
              obtain ⟨⟨text, behindKey⟩, hstring, h⟩ := bind_eq_ok h
              obtain ⟨value, -, h⟩ := bind_eq_ok h
              obtain ⟨⟨_, behindColon⟩, hcolon, h⟩ := bind_eq_ok h
              obtain ⟨⟨_, behindNull⟩, hnull, h⟩ := bind_eq_ok h
              rw [skipWithin_object fuel hquote (by decide)] at hskip
              cases fuel with
              | zero => cases hskip
              | succ fuel =>
                  simp only [skipMembers, hquote, skip_of_string hstring, bind, Except.bind,
                    hcolon] at hskip
                  cases hwithin : skipWithin fuel behindColon with
                  | error e =>
                      rw [hwithin] at hskip
                      cases hskip
                  | ok behind =>
                      obtain rfl := unit_stopsWithSkip "unit" hnull hwithin
                      rw [hwithin] at hskip
                      dsimp only at h
                      split at h
                      · next hclose =>
                          cases h
                          simp only [hclose] at hskip
                          exact Except.ok.inj hskip
                      · cases h
                      · cases h
          · cases h
          · cases h
      · cases h
      · cases h

/-! ## Objects -/

section

variable {σ : Type} {member : String → σ → Reader σ}

theorem members_congr {s s' : List Char} (h : skipBlank s = skipBlank s') (fuel : Nat)
    (first : Bool) (state : σ) :
    members member fuel first state s = members member fuel first state s' := by
  cases fuel with
  | zero => rfl
  | succ fuel => rw [members, members, nextEntry, nextEntry, h]

/-- A member is read in the same way behind a comma and at the start of an object. -/
theorem members_comma {gap : List Char} (hgap : IsGap gap) (fuel : Nat) (state : σ)
    (s : List Char) :
    members member fuel false state (',' :: (gap ++ '"' :: s)) =
      members member fuel true state (gap ++ '"' :: s) := by
  cases fuel with
  | zero => rfl
  | succ fuel =>
      rw [members, members, nextEntry_later hgap (by decide) (by decide),
        nextEntry_first hgap (by decide) (by decide)]

theorem members_key {gap key : List Char} {t : List Char} (hgap : IsGap gap)
    (hkey : Literal.Denotes key t) (fuel : Nat) (state : σ) (s : List Char) :
    members member (fuel + 1) true state (gap ++ '"' :: (key ++ '"' :: s)) =
      member (String.ofList t) state s >>= fun r => members member fuel false r.1 r.2 := by
  rw [members, nextEntry_first hgap (by decide) (by decide)]
  simp only [bind, Except.bind, string_of_denotes hkey, if_true]

end

end ScopedStyles.Json
