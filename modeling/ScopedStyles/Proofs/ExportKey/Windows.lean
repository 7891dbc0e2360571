import ScopedStyles.ExportKey
import ScopedStyles.Proofs.Text.CaseTables
/-!
# Word boundaries as windows

Whether a word boundary lies at a place depends on three characters: the one in front of the place
and the two behind it. The search, which goes back over what it wrote, marks exactly these places.
-/

namespace ScopedStyles.ExportKey

open Text

/-- Whether a boundary lies in front of a text that stands behind `before`: at a capital behind a
small letter, and at a capital behind a capital and in front of a small letter. -/
def boundary (before : Option Char) : List Char → Bool
  | [] => false
  | c :: cs => isUppercase c &&
      (before.any isLowercase || before.any isUppercase && cs.head?.any isLowercase)

def mark (before : Option Char) (cs : List Char) : List Char :=
  if boundary before cs then ['-'] else []

/-- A text behind `before` with `-` at its boundaries. -/
def withMarks (before : Option Char) : List Char → List Char
  | [] => []
  | c :: cs => mark before (c :: cs) ++ c :: withMarks (some c) cs

namespace BoundaryScan

/-- What is written of the text in front of its last character `l` stays as it is, but for a mark in
front of `l` that the next character decides on. -/
theorem marked_foldl {s : BoundaryScan} {l : Char} {earlier : List Char}
    (hmarked : s.marked = l :: earlier) (hlower : s.lastLower = isLowercase l)
    (hupper : s.lastUpper = isUppercase l) (cs : List Char) :
    (cs.foldl step s).marked.reverse = earlier.reverse ++
      ((if s.lastUpper && s.secondLastUpper && cs.head?.any isLowercase then ['-'] else []) ++
        l :: withMarks (some l) cs) := by
  induction cs generalizing s l earlier with
  | nil => simp [hmarked, withMarks]
  | cons c cs ih =>
      rw [List.foldl_cons, withMarks, mark, boundary, Option.any_some, Option.any_some]
      by_cases hcapital : (isLowercase l && isUppercase c) = true
      · -- The mark is written at once.
        obtain ⟨hl, hc⟩ := Bool.and_eq_true_iff.1 hcapital
        have hl' := isUppercase_eq_false_of_isLowercase hl
        have hstep : s.step c = ⟨c :: '-' :: l :: earlier, false, true, false⟩ := by
          simp [step, hmarked, hlower, hupper, hl, hl', hc]
        rw [hstep, ih rfl (isLowercase_eq_false_of_isUppercase hc).symm hc.symm]
        simp [hupper, hl, hl', hc]
      · by_cases hsmall : (isUppercase l && s.secondLastUpper && isLowercase c) = true
        · -- The mark is written behind the character that it belongs in front of.
          simp only [Bool.and_eq_true] at hsmall
          obtain ⟨⟨hl, hsecond⟩, hc⟩ := hsmall
          have hl' := isLowercase_eq_false_of_isUppercase hl
          have hc' := isUppercase_eq_false_of_isLowercase hc
          have hstep : s.step c = ⟨c :: l :: '-' :: earlier, true, false, false⟩ := by
            simp [step, hmarked, hlower, hupper, hl, hl', hsecond, hc, hc']
          rw [hstep, ih rfl hc.symm hc'.symm]
          simp [hupper, hl, hsecond, hc, hc']
        · have hstep : s.step c =
              ⟨c :: l :: earlier, isLowercase c, isUppercase c, isUppercase l⟩ := by
            rw [← hlower] at hcapital
            rw [← hupper] at hsmall
            rw [step, if_neg hcapital, if_neg hsmall, hmarked, hupper]
          have hnow : (s.lastUpper && s.secondLastUpper && (c :: cs).head?.any isLowercase) =
              false := by
            rw [hupper]
            exact Bool.eq_false_iff.2 hsmall
          have hlater : (isUppercase c && (isLowercase l || isUppercase l &&
              cs.head?.any isLowercase)) =
              (isUppercase c && isUppercase l && cs.head?.any isLowercase) := by
            cases hc : isUppercase c
            · rfl
            · rw [hc, Bool.and_true] at hcapital
              simp [hcapital]
          rw [hstep, ih rfl rfl rfl, hnow, hlater]
          simp

end BoundaryScan

/-- The search finds the boundaries and changes nothing else. -/
theorem markBoundaries_eq_withMarks (cs : List Char) : markBoundaries cs = withMarks none cs := by
  cases cs with
  | nil => rfl
  | cons c cs =>
      have hstep : BoundaryScan.step {} c = ⟨[c], isLowercase c, isUppercase c, false⟩ := by
        simp [BoundaryScan.step]
      rw [markBoundaries, List.foldl_cons, hstep, BoundaryScan.marked_foldl rfl rfl rfl]
      simp [withMarks, mark, boundary]

/-! ## Boundaries at their places -/

/-- Whether a boundary lies in front of the character at a place of a text: a small letter and a
capital meet there, or it is the last of several capitals and a small letter follows. -/
def boundaryAt (cs : List Char) : Nat → Bool
  | 0 => false
  | i + 1 => cs[i]?.any isLowercase && cs[i + 1]?.any isUppercase ||
      cs[i]?.any isUppercase && cs[i + 1]?.any isUppercase && cs[i + 2]?.any isLowercase

theorem boundaryAt_length (front : List Char) (c : Char) (cs : List Char) :
    boundaryAt (front ++ c :: cs) front.length = boundary front.getLast? (c :: cs) := by
  rcases List.eq_nil_or_concat front with rfl | ⟨earlier, l, rfl⟩
  · simp [boundaryAt, boundary]
  · have hlast : (earlier ++ [l] ++ c :: cs)[earlier.length]? = some l := by simp
    have hhere : (earlier ++ [l] ++ c :: cs)[earlier.length + 1]? = some c := by simp
    have hnext : (earlier ++ [l] ++ c :: cs)[earlier.length + 2]? = cs.head? := by
      rw [List.getElem?_append_right (by simp), List.length_append, List.length_singleton,
        Nat.add_sub_add_left, List.head?_eq_getElem?]
      rfl
    rw [List.concat_eq_append, List.length_append, List.length_singleton, boundaryAt, hlast, hhere,
      hnext, List.getLast?_concat, boundary]
    simp only [Option.any_some]
    cases isUppercase c <;> simp

/-- The text behind `front` is marked at the places that it has behind it. -/
theorem withMarks_eq_flatMap (front cs : List Char) :
    withMarks front.getLast? cs = (cs.zipIdx front.length).flatMap fun (c, i) =>
      (if boundaryAt (front ++ cs) i then ['-'] else []) ++ [c] := by
  induction cs generalizing front with
  | nil => rfl
  | cons c cs ih =>
      have hrest := ih (front ++ [c])
      rw [List.getLast?_concat, List.length_append, List.length_singleton, List.append_assoc,
        List.singleton_append] at hrest
      rw [withMarks, mark, hrest, ← boundaryAt_length, List.zipIdx_cons, List.flatMap_cons,
        List.append_assoc, List.singleton_append]

/-- Marking writes `-` in front of the characters at whose places a boundary lies. It keeps all
characters in their order and writes nothing else. -/
theorem markBoundaries_eq_flatMap (cs : List Char) :
    markBoundaries cs =
      cs.zipIdx.flatMap fun (c, i) => (if boundaryAt cs i then ['-'] else []) ++ [c] := by
  rw [markBoundaries_eq_withMarks]
  exact withMarks_eq_flatMap [] cs

example : markBoundaries "aXMLHttp".toList = "a-XML-Http".toList := by decide

end ScopedStyles.ExportKey
