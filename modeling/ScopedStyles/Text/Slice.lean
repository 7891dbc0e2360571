/-!
# Slices of texts

Texts are cut at byte offsets. An offset inside a character or behind the end of the text is no
place to cut.
-/

namespace ScopedStyles.Text

/-- Offsets between which no text can be cut out. -/
structure SliceFault where
  start : Nat
  stop : Nat
  deriving DecidableEq, Repr

/-- The text between two byte offsets. It is a fault if they are out of order, behind the end of
the text or inside a character. -/
def slice (text : String) (start stop : Nat) : Except SliceFault String :=
  if h : (⟨start⟩ : String.Pos.Raw).IsValid text ∧ (⟨stop⟩ : String.Pos.Raw).IsValid text ∧
      start ≤ stop then
    .ok (text.extract (text.pos ⟨start⟩ h.1) (text.pos ⟨stop⟩ h.2.1))
  else .error ⟨start, stop⟩

end ScopedStyles.Text
