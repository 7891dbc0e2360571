import Mathlib.Data.List.Chain
import ScopedStyles.Proofs.ExportKey.Words
/-!
# Word boundaries

The search for word boundaries depends on nothing but the last two letters in front of a place. It
marks the start of every word that can be told from the word in front of it, and no other place.
-/

namespace ScopedStyles.ExportKey

open Text

/-- What stands in front of a place in a name, as far as word boundaries depend on it: no letter, a
small letter, or two capitals. -/
inductive Front where
  | none
  | small
  | capitals
  deriving DecidableEq

/-- What stands behind a word. -/
def LetterStyle.front : LetterStyle → Front
  | small | capitalized => .small
  | capitals => .capitals

namespace BoundaryScan

/-- What stands in front of the next character. -/
def Behind (s : BoundaryScan) : Front → Prop
  | .none => s.lastLower = false ∧ s.lastUpper = false
  | .small => s.lastLower = true ∧ s.lastUpper = false
  | .capitals => s.lastLower = false ∧ s.lastUpper = true ∧ s.secondLastUpper = true

/-- From `s` on, `cs` is written as `marked`, and `f` stands behind it. -/
structure Writes (s : BoundaryScan) (cs marked : List Char) (f : Front) : Prop where
  marked : (cs.foldl step s).marked = marked.reverse ++ s.marked
  behind : (cs.foldl step s).Behind f

variable {s : BoundaryScan} {c : Char} {cs ds out out' word gap : List Char} {f f' : Front}

theorem Writes.append (h : s.Writes cs out f) (h' : (cs.foldl step s).Writes ds out' f') :
    s.Writes (cs ++ ds) (out ++ out') f' where
  marked := by
    rw [List.foldl_append, h'.marked, h.marked, List.reverse_append, List.append_assoc]
  behind := by
    rw [List.foldl_append]
    exact h'.behind

theorem Writes.step (out : List Char) (hmarked : (s.step c).marked = out.reverse ++ s.marked)
    (h : (s.step c).Writes cs out' f) : s.Writes (c :: cs) (out ++ out') f where
  marked := by
    rw [List.foldl_cons, h.marked, hmarked, List.reverse_append, List.append_assoc]
  behind := h.behind

theorem step_caseless (hc : isUppercase c = false ∧ isLowercase c = false) :
    s.step c = ⟨c :: s.marked, false, false, s.lastUpper⟩ := by
  simp [BoundaryScan.step, hc]

theorem step_small (hc : isUppercase c = false ∧ isLowercase c = true)
    (hs : (s.lastUpper && s.secondLastUpper) = false) :
    s.step c = ⟨c :: s.marked, true, false, s.lastUpper⟩ := by
  simp [BoundaryScan.step, hc, hs]

theorem step_capital (hc : isUppercase c = true ∧ isLowercase c = false)
    (hs : s.lastLower = false) : s.step c = ⟨c :: s.marked, false, true, s.lastUpper⟩ := by
  simp [BoundaryScan.step, hc, hs]

theorem step_capital_behind_small (hc : isUppercase c = true) (hs : s.lastLower = true) :
    s.step c = ⟨c :: '-' :: s.marked, false, true, s.lastUpper⟩ := by
  simp [BoundaryScan.step, hc, hs]

theorem writes_gap (hgap : IsGap gap) (hne : gap ≠ []) : s.Writes gap gap .none := by
  induction gap generalizing s with
  | nil => exact absurd rfl hne
  | cons c cs ih =>
      obtain ⟨hc, hcs⟩ := List.forall_mem_cons.1 hgap
      have hstep := step_caseless (s := s) (caseless_of_mem hc)
      cases cs with
      | nil => exact ⟨congrArg marked hstep, by rw [List.foldl_cons, hstep]; exact ⟨rfl, rfl⟩⟩
      | cons d ds =>
          exact .step [c] (congrArg marked hstep) (ih hcs (List.cons_ne_nil d ds))

theorem writes_small (hword : ∀ c ∈ word, c.isLower = true) (hne : word ≠ [])
    (hs : (s.lastUpper && s.secondLastUpper) = false) : s.Writes word word .small := by
  induction word generalizing s with
  | nil => exact absurd rfl hne
  | cons c cs ih =>
      obtain ⟨hc, hcs⟩ := List.forall_mem_cons.1 hword
      have hsmall := small_of_isLower hc
      have hstep := step_small ⟨hsmall.1, hsmall.2.1⟩ hs
      cases cs with
      | nil => exact ⟨congrArg marked hstep, by rw [List.foldl_cons, hstep]; exact ⟨rfl, rfl⟩⟩
      | cons d ds =>
          have hlast : ((s.step c).lastUpper && (s.step c).secondLastUpper) = false := by
            rw [hstep]
            rfl
          exact .step [c] (congrArg marked hstep) (ih hcs (List.cons_ne_nil d ds) hlast)

/-- Capitals behind a capital. -/
theorem writes_capitals (hword : ∀ c ∈ word, c.isLower = true) (hne : word ≠ [])
    (hs : s.lastLower = false) (hs' : s.lastUpper = true) :
    s.Writes (word.map Char.toUpper) (word.map Char.toUpper) .capitals := by
  induction word generalizing s with
  | nil => exact absurd rfl hne
  | cons c cs ih =>
      obtain ⟨hc, hcs⟩ := List.forall_mem_cons.1 hword
      have hcapital := capital_of_isLower hc
      have hstep := step_capital ⟨hcapital.1, hcapital.2.1⟩ hs
      cases cs with
      | nil =>
          refine ⟨congrArg marked hstep, ?_⟩
          rw [List.map_cons, List.foldl_cons, hstep]
          exact ⟨rfl, rfl, hs'⟩
      | cons d ds =>
          exact .step [c.toUpper] (congrArg marked hstep)
            (ih hcs (List.cons_ne_nil d ds) (by rw [hstep]) (by rw [hstep]))

/-- The letters behind the first capital of a word. -/
theorem writes_tail {d : Char} {m : List Char} {style : LetterStyle} (hstyle : style ≠ .small)
    (hword : ∀ l ∈ d :: cs, l.isLower = true) :
    Writes ⟨m, false, true, false⟩ ((style.write (c :: d :: cs)).tail)
      ((style.write (c :: d :: cs)).tail) style.front := by
  cases style with
  | small => exact absurd rfl hstyle
  | capitalized => exact writes_small hword (List.cons_ne_nil d cs) rfl
  | capitals => exact writes_capitals hword (List.cons_ne_nil d cs) rfl rfl

theorem step_small_behind_capitals (last : Char) (earlier : List Char)
    (hc : isUppercase c = false ∧ isLowercase c = true) :
    BoundaryScan.step ⟨last :: earlier, false, true, true⟩ c =
      ⟨c :: last :: '-' :: earlier, true, false, false⟩ := by
  simp [BoundaryScan.step, hc]

theorem write_cons {style : LetterStyle} (hstyle : style ≠ .small) (c : Char) (cs : List Char) :
    style.write (c :: cs) = c.toUpper :: (style.write (c :: cs)).tail := by
  cases style with
  | small => exact absurd rfl hstyle
  | capitalized | capitals => rfl

theorem writes_word {style : LetterStyle} {d : Char}
    (hword : ∀ l ∈ c :: d :: cs, l.isLower = true) (hs : s.Behind .none) :
    s.Writes (style.write (c :: d :: cs)) (style.write (c :: d :: cs)) style.front := by
  obtain ⟨hlower, hupper⟩ := hs
  obtain ⟨hc, hcs⟩ := List.forall_mem_cons.1 hword
  by_cases hstyle : style = .small
  · subst hstyle
    exact writes_small hword (List.cons_ne_nil c (d :: cs)) (by rw [hupper]; rfl)
  · have hcapital := capital_of_isLower hc
    have hstep := step_capital ⟨hcapital.1, hcapital.2.1⟩ hlower
    rw [hupper] at hstep
    rw [write_cons hstyle]
    exact .step [c.toUpper] (congrArg marked hstep) (hstep ▸ writes_tail hstyle hcs)

theorem writes_word_behind_small {style : LetterStyle} {d : Char} (hstyle : style ≠ .small)
    (hword : ∀ l ∈ c :: d :: cs, l.isLower = true) (hs : s.Behind .small) :
    s.Writes (style.write (c :: d :: cs)) ('-' :: style.write (c :: d :: cs)) style.front := by
  obtain ⟨hlower, hupper⟩ := hs
  obtain ⟨hc, hcs⟩ := List.forall_mem_cons.1 hword
  have hstep := step_capital_behind_small (capital_of_isLower hc).1 hlower
  rw [hupper] at hstep
  rw [write_cons hstyle]
  exact .step ['-', c.toUpper] (congrArg marked hstep) (hstep ▸ writes_tail hstyle hcs)

theorem writes_capitalized_behind_capitals {d : Char}
    (hword : ∀ l ∈ c :: d :: cs, l.isLower = true) (hs : s.Behind .capitals) :
    s.Writes (capitalized (c :: d :: cs)) ('-' :: capitalized (c :: d :: cs)) .small := by
  obtain ⟨hlower, hupper, hsecond⟩ := hs
  obtain ⟨hc, hd, hcs⟩ := List.forall_mem_cons.1 hword |>.imp_right List.forall_mem_cons.1
  have hcapital := capital_of_isLower hc
  have hstep := step_capital ⟨hcapital.1, hcapital.2.1⟩ hlower
  have hsmall := small_of_isLower hd
  -- The hyphen goes in front of the capital only when the small letter behind it is seen.
  have hstep' := step_small_behind_capitals c.toUpper s.marked
    ⟨hsmall.1, hsmall.2.1⟩
  have htwo : [c.toUpper, d].foldl BoundaryScan.step s =
      ⟨d :: c.toUpper :: '-' :: s.marked, true, false, false⟩ := by
    rw [List.foldl_cons, hstep, hupper, List.foldl_cons, hstep', List.foldl_nil]
  have hfirst : s.Writes [c.toUpper, d] ['-', c.toUpper, d] .small :=
    ⟨congrArg marked htwo, by rw [htwo]; exact ⟨rfl, rfl⟩⟩
  cases cs with
  | nil => exact hfirst
  | cons e es =>
      refine hfirst.append (writes_small hcs (List.cons_ne_nil e es) ?_)
      rw [htwo]
      rfl

end BoundaryScan

namespace Part

/-- A part with the separators that are found in front of it behind `f`. -/
def marked (f : Front) (p : Part) : Part :=
  if p.gap = [] ∧ f ≠ .none then { p with gap := ['-'] } else p

/-- The parts of a name with all their separators. -/
def markAll : Front → List Part → List Part
  | _, [] => []
  | f, p :: ps => p.marked f :: markAll p.style.front ps

/-- Whether a part can be told from what stands in front of it. -/
def ApartFrom (f : Front) (p : Part) : Prop :=
  p.gap = [] → match f with
    | .none => True
    | .small => p.style ≠ .small
    | .capitals => p.style = .capitalized

theorem apartFrom_of_apart {p q : Part} (h : Apart p q) : q.ApartFrom p.style.front := by
  obtain hgap | ⟨hsmall, hcapitals⟩ := h
  · exact fun hnil => absurd hnil hgap
  · intro _
    cases hp : p.style with
    | small | capitalized => exact hsmall
    | capitals =>
        cases hq : q.style with
        | small => exact absurd hq hsmall
        | capitalized => rfl
        | capitals => exact absurd ⟨hp, hq⟩ hcapitals

theorem writes_text {s : BoundaryScan} {f : Front} {p : Part} (hp : p.IsLong) (hs : s.Behind f)
    (hapart : p.ApartFrom f) : s.Writes p.text (p.marked f).text p.style.front := by
  obtain ⟨gap, style, word⟩ := p
  obtain ⟨hgap, hletters, hlength⟩ := hp
  obtain ⟨c, d, cs, rfl⟩ : ∃ c d cs, word = c :: d :: cs := by
    match word, hlength with
    | c :: d :: cs, _ => exact ⟨c, d, cs, rfl⟩
  by_cases hnil : gap = []
  · subst hnil
    cases f with
    | none => exact BoundaryScan.writes_word hletters hs
    | small => exact BoundaryScan.writes_word_behind_small (hapart rfl) hletters hs
    | capitals =>
        obtain rfl : style = .capitalized := hapart rfl
        exact BoundaryScan.writes_capitalized_behind_capitals hletters hs
  · have hmarked : marked f ⟨gap, style, c :: d :: cs⟩ = ⟨gap, style, c :: d :: cs⟩ :=
      if_neg fun h => hnil h.1
    have hfront := BoundaryScan.writes_gap (s := s) hgap hnil
    rw [hmarked]
    exact hfront.append (BoundaryScan.writes_word hletters hfront.behind)

theorem exists_writes_flatMap {s : BoundaryScan} {f : Front} {parts : List Part}
    (hlong : ∀ p ∈ parts, p.IsLong) (hs : s.Behind f) (hfirst : ∀ p ∈ parts.head?, p.ApartFrom f)
    (hapart : parts.IsChain Apart) :
    ∃ f', s.Writes (parts.flatMap text) ((markAll f parts).flatMap text) f' := by
  induction parts generalizing s f with
  | nil => exact ⟨f, rfl, hs⟩
  | cons p ps ih =>
      obtain ⟨hp, hps⟩ := List.forall_mem_cons.1 hlong
      have hwrites := writes_text hp hs (hfirst p rfl)
      have hnext : ∀ q ∈ ps.head?, q.ApartFrom p.style.front := by
        intro q hq
        exact apartFrom_of_apart (hapart.rel_head? hq)
      obtain ⟨f', hrest⟩ := ih hps hwrites.behind hnext hapart.tail
      exact ⟨f', hwrites.append hrest⟩

theorem isGap_hyphen : IsGap ['-'] :=
  List.forall_mem_singleton.2 List.mem_cons_self

theorem markAll_eq {f : Front} (hf : f ≠ .none) (hps : ∀ p ∈ ps, p.IsPlain) :
    (∀ p ∈ markAll f ps, p.IsPlain ∧ p.gap ≠ []) ∧
      (markAll f ps).map Part.word = ps.map Part.word := by
  induction ps generalizing f with
  | nil => exact ⟨List.forall_mem_nil _, rfl⟩
  | cons p ps ih =>
      obtain ⟨hp, hps⟩ := List.forall_mem_cons.1 hps
      have hfront : p.style.front ≠ .none := by cases p.style <;> decide
      obtain ⟨hmarked, hwords⟩ := ih hfront hps
      rw [markAll, List.forall_mem_cons, List.map_cons, List.map_cons, hwords]
      by_cases hgap : p.gap = []
      · have hp' : p.marked f = { p with gap := ['-'] } := if_pos ⟨hgap, hf⟩
        rw [hp']
        exact ⟨⟨⟨⟨isGap_hyphen, hp.word⟩, List.cons_ne_nil _ _⟩, hmarked⟩, rfl⟩
      · have hp' : p.marked f = p := if_neg fun h => hgap h.1
        rw [hp']
        exact ⟨⟨⟨hp, hgap⟩, hmarked⟩, rfl⟩

theorem exists_markBoundaries (hp : p.IsLong) (hps : ∀ p ∈ ps, p.IsLong)
    (hapart : (p :: ps).IsChain Apart) (hback : IsGap back) :
    markBoundaries ((p :: ps).flatMap text ++ back) =
      (p :: markAll p.style.front ps).flatMap text ++ back := by
  have hfirst : ∀ q ∈ (p :: ps).head?, q.ApartFrom .none := fun _ _ _ => trivial
  obtain ⟨f, hwrites⟩ := exists_writes_flatMap (s := {}) (f := .none)
    (List.forall_mem_cons.2 ⟨hp, hps⟩) ⟨rfl, rfl⟩ hfirst hapart
  have hmarked : p.marked .none = p := if_neg fun h => h.2 rfl
  rw [markAll, hmarked] at hwrites
  have hall : ∃ f', BoundaryScan.Writes {} ((p :: ps).flatMap text ++ back)
      ((p :: markAll p.style.front ps).flatMap text ++ back) f' := by
    by_cases hnil : back = []
    · rw [hnil, List.append_nil, List.append_nil]
      exact ⟨f, hwrites⟩
    · exact ⟨_, hwrites.append (BoundaryScan.writes_gap hback hnil)⟩
  obtain ⟨f', hall⟩ := hall
  rw [markBoundaries, hall.marked, List.append_nil, List.reverse_reverse]

end Part

theorem foldl_step_of_small {cs : List Char} {s : BoundaryScan} (hs : s.lastUpper = false)
    (hcs : ∀ c ∈ cs, isUppercase c = false) :
    (cs.foldl BoundaryScan.step s).marked = cs.reverse ++ s.marked := by
  induction cs generalizing s with
  | nil => rfl
  | cons c cs ih =>
      obtain ⟨hc, hcs⟩ := List.forall_mem_cons.1 hcs
      have hstep : s.step c = ⟨c :: s.marked, isLowercase c, false, false⟩ := by
        simp [BoundaryScan.step, hc, hs]
      rw [List.foldl_cons, hstep, ih rfl hcs, List.reverse_cons, List.append_assoc,
        List.singleton_append]

/-- A name without capitals has no boundaries to be marked. -/
theorem markBoundaries_of_small {cs : List Char} (hcs : ∀ c ∈ cs, isUppercase c = false) :
    markBoundaries cs = cs := by
  rw [markBoundaries, foldl_step_of_small rfl hcs, List.append_nil, List.reverse_reverse]

end ScopedStyles.ExportKey
