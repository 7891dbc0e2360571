import ScopedStyles.Json.Number
/-!
# Numbers that are skipped

How numbers are spelled, whatever their size, and that skipping a number stops right behind it.
-/

namespace ScopedStyles.Json.Number

/-- At least one digit. -/
structure IsDigits (ds : List Char) : Prop where
  nonempty : ds ≠ []
  digits : ∀ c ∈ ds, c.isDigit = true

/-- Digits in front of a point, of which only a lone zero is the first. -/
inductive IsIntegral : List Char → Prop where
  | zero : IsIntegral ['0']
  | digits {ds : List Char} (hds : IsDigits ds) (hzero : ds.head? ≠ some '0') : IsIntegral ds

/-- A point and digits, or nothing. -/
inductive IsFraction : List Char → Prop where
  | none : IsFraction []
  | digits {ds : List Char} (hds : IsDigits ds) : IsFraction ('.' :: ds)

/-- The letter of an exponent, a sign or none, and digits, or nothing. -/
inductive IsExponent : List Char → Prop where
  | none : IsExponent []
  | digits {letter : Char} {sign ds : List Char} (hletter : letter = 'e' ∨ letter = 'E')
      (hsign : sign ∈ [[], ['+'], ['-']]) (hds : IsDigits ds) : IsExponent (letter :: (sign ++ ds))

/-- The spellings of numbers behind their signs. -/
inductive IsMagnitude : List Char → Prop where
  | parts {integral fraction exponent : List Char} (hintegral : IsIntegral integral)
      (hfraction : IsFraction fraction) (hexponent : IsExponent exponent) :
      IsMagnitude (integral ++ (fraction ++ exponent))

/-- A number in front of `rest` does not go on with it. -/
def Ends (rest : List Char) : Prop :=
  ∀ c ∈ rest.head?, c.isDigit = false ∧ c ≠ '.' ∧ c ≠ 'e' ∧ c ≠ 'E'

variable {ds s rest : List Char}

theorem digits_append (hds : ∀ c ∈ ds, c.isDigit = true)
    (hrest : ∀ c ∈ rest.head?, c.isDigit = false) : digits (ds ++ rest) = (ds, rest) := by
  have hstop : rest.takeWhile Char.isDigit = [] ∧ rest.dropWhile Char.isDigit = rest := by
    cases rest with
    | nil => exact ⟨rfl, rfl⟩
    | cons c cs => simp [hrest c rfl]
  rw [digits, List.takeWhile_append_of_pos hds, List.dropWhile_append_of_pos hds, hstop.1, hstop.2,
    List.append_nil]

theorem integral_append (hs : IsIntegral s) (hrest : ∀ c ∈ rest.head?, c.isDigit = false) :
    integral (s ++ rest) = .ok (s, rest) := by
  cases hs with
  | zero =>
      have hzero : ∀ c ∈ ['0'], c.isDigit = true := List.all_eq_true.1 (by decide)
      rw [integral, digits_append hzero hrest]
      rfl
  | digits hds hzero =>
      obtain ⟨c, cs, rfl⟩ := List.exists_cons_of_ne_nil hds.nonempty
      have hc : c ≠ '0' := fun h => hzero (congrArg some h)
      rw [integral, digits_append hds.digits hrest]
      split <;> simp_all

theorem exists_fraction_append (hs : IsFraction s)
    (hrest : ∀ c ∈ rest.head?, c.isDigit = false ∧ c ≠ '.') :
    ∃ read, fraction (s ++ rest) = .ok (read, rest) := by
  cases hs with
  | none =>
      refine ⟨Option.none, ?_⟩
      cases rest with
      | nil => rfl
      | cons c cs => simp [fraction, (hrest c rfl).2]
  | digits hds =>
      obtain ⟨c, cs, rfl⟩ := List.exists_cons_of_ne_nil hds.nonempty
      refine ⟨some (c :: cs), ?_⟩
      rw [List.cons_append, fraction, digits_append hds.digits fun c hc => (hrest c hc).1]

theorem exists_exponent_append (hs : IsExponent s) (hrest : Ends rest) :
    ∃ read, exponent (s ++ rest) = .ok (read, rest) := by
  cases hs with
  | none =>
      refine ⟨Option.none, ?_⟩
      cases rest with
      | nil => rfl
      | cons c cs => simp [exponent, (hrest c rfl).2]
  | @digits letter sign ds hletter hsign hds =>
      obtain ⟨c, cs, rfl⟩ := List.exists_cons_of_ne_nil hds.nonempty
      have hdigits : digits (c :: (cs ++ rest)) = (c :: cs, rest) :=
        digits_append hds.digits fun c hc => (hrest c hc).1
      have hc : c ≠ '+' ∧ c ≠ '-' := by
        have hdigit := hds.digits c List.mem_cons_self
        constructor <;> (rintro rfl; exact absurd hdigit (by decide))
      simp only [List.mem_cons, List.not_mem_nil, or_false] at hsign
      rcases hsign with rfl | rfl | rfl
      all_goals simp [exponent, hletter, hdigits, hc]

/-- A number without its sign starts with a digit. -/
theorem IsMagnitude.exists_cons (hs : IsMagnitude s) :
    ∃ c cs, s = c :: cs ∧ c.isDigit = true := by
  obtain @⟨w, f, e, hw, -, -⟩ := hs
  cases hw with
  | zero => exact ⟨'0', _, rfl, rfl⟩
  | digits hds =>
      obtain ⟨c, cs, rfl⟩ := List.exists_cons_of_ne_nil hds.nonempty
      exact ⟨c, _, rfl, hds.digits c List.mem_cons_self⟩

theorem skip_append (hs : IsMagnitude s) (hrest : Ends rest) : skip (s ++ rest) = .ok rest := by
  obtain @⟨w, f, e, hw, hf, he⟩ := hs
  have hexponent : ∀ c ∈ (e ++ rest).head?, c.isDigit = false ∧ c ≠ '.' := by
    cases he with
    | none => exact fun c hc => ⟨(hrest c hc).1, (hrest c hc).2.1⟩
    | digits hletter =>
        intro c hc
        obtain rfl := Option.some.inj hc
        rcases hletter with rfl | rfl <;> decide
  have hfraction : ∀ c ∈ (f ++ (e ++ rest)).head?, c.isDigit = false := by
    cases hf with
    | none => exact fun c hc => (hexponent c hc).1
    | digits =>
        intro c hc
        obtain rfl := Option.some.inj hc
        decide
  obtain ⟨_, hreadf⟩ := exists_fraction_append hf hexponent
  obtain ⟨_, hreade⟩ := exists_exponent_append he hrest
  rw [skip, List.append_assoc, List.append_assoc, integral_append hw hfraction]
  simp only [bind, Except.bind, hreadf, hreade]
  rfl

end ScopedStyles.Json.Number
