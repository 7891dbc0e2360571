/-!
# Computations that may fail

How a result that is not a fault comes about, and what renaming faults does.
-/

namespace ScopedStyles

variable {ε ε' ε'' α β : Type}

theorem bind_eq_ok {x : Except ε α} {f : α → Except ε β} {b : β} (h : (x >>= f) = .ok b) :
    ∃ a, x = .ok a ∧ f a = .ok b := by
  cases x with
  | error e => cases h
  | ok a => exact ⟨a, rfl, h⟩

theorem mapError_mapError (f : ε → ε') (g : ε' → ε'') (x : Except ε α) :
    (x.mapError f).mapError g = x.mapError fun e => g (f e) := by
  cases x <;> rfl

end ScopedStyles
