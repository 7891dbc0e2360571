import ScopedStyles.Path
import ScopedStyles.Proofs.Text.Parts
/-!
# Names and parents

A path's names are what stands between its slashes, less the empty names and `.`, which lead
nowhere. The parent of a path has the same names but the last, whatever is written around them, and
starts where the path does. Joining a path to a directory puts its names behind the directory's.
-/

namespace ScopedStyles.Path

open Text

/-! ## Names -/

/-- Names that do not stand for the directory that they stand in. -/
def leads (name : List UInt8) : Bool :=
  !name.isEmpty && name != [dot]

/-- The names between slashes that lead anywhere. -/
def names (bytes : List UInt8) : List (List UInt8) :=
  (splitOn slash bytes).filter leads

theorem leads_iff {name : List UInt8} : leads name = true ↔ name ≠ [] ∧ name ≠ [dot] := by
  rw [leads, Bool.and_eq_true, Bool.not_eq_true', List.isEmpty_eq_false_iff, bne_iff_ne]

theorem leads_reverse (name : List UInt8) : leads name.reverse = leads name := by
  rw [Bool.eq_iff_iff, leads_iff, leads_iff]
  simp [List.reverse_eq_iff]

theorem names_append_slash (front back : List UInt8) :
    names (front ++ slash :: back) = names front ++ names back := by
  rw [names, splitOn_append_sep, List.filter_append]
  rfl

theorem names_slash (bytes : List UInt8) : names (slash :: bytes) = names bytes :=
  names_append_slash [] bytes

theorem names_dot {bytes : List UInt8} (h : bytes = [] ∨ bytes.head? = some slash) :
    names (dot :: bytes) = names bytes := by
  rcases h with rfl | h
  · rfl
  · obtain ⟨rest, rfl⟩ := List.head?_eq_some_iff.1 h
    exact (names_append_slash [dot] rest).trans (names_slash rest).symm

theorem names_reverse (bytes : List UInt8) :
    names bytes.reverse = ((names bytes).map List.reverse).reverse := by
  have htest : leads ∘ List.reverse = leads := funext leads_reverse
  rw [names, splitOn_reverse, List.filter_reverse, List.filter_map, htest]
  rfl

theorem names_of_takeWhile {bytes : List UInt8} (hempty : bytes.takeWhile (· != slash) ≠ [])
    (hdot : bytes.takeWhile (· != slash) ≠ [dot]) :
    names bytes = bytes.takeWhile (· != slash) :: names (bytes.dropWhile (· != slash)) := by
  have hnot : slash ∉ bytes.takeWhile (· != slash) := by
    intro hmem
    simpa using List.mem_takeWhile_imp hmem
  have hkept : names (bytes.takeWhile (· != slash)) = [bytes.takeWhile (· != slash)] := by
    rw [names, splitOn_of_not_mem hnot, List.filter_singleton, leads_iff.2 ⟨hempty, hdot⟩]
    rfl
  have hsplit := List.takeWhile_append_dropWhile (p := (· != slash)) (l := bytes)
  cases hrest : bytes.dropWhile (· != slash) with
  | nil =>
      conv_lhs => rw [← hsplit, hrest, List.append_nil, hkept]
      rfl
  | cons b rest =>
      have hslash := List.head?_dropWhile_not (· != slash) bytes
      rw [hrest] at hslash
      obtain rfl : b = slash := by simpa using hslash
      conv_lhs => rw [← hsplit, hrest]
      rw [names_append_slash, hkept, names_slash, List.singleton_append]

/-! ## Parents -/

theorem names_dropTrivial (bytes : List UInt8) : names (dropTrivial bytes) = names bytes := by
  induction bytes with
  | nil => rfl
  | cons b rest ih =>
      rw [dropTrivial]
      split
      · next hslash => rw [ih, hslash, names_slash]
      · split
        · next hdot =>
            rw [Bool.and_eq_true, Bool.or_eq_true, decide_eq_true_iff, List.isEmpty_iff,
              beq_iff_eq] at hdot
            rw [ih, hdot.1, names_dot hdot.2]
        · rfl

/-- Behind what counts for nothing stands a name. -/
theorem takeWhile_dropTrivial {bytes : List UInt8} (h : dropTrivial bytes ≠ []) :
    (dropTrivial bytes).takeWhile (· != slash) ≠ [] ∧
      (dropTrivial bytes).takeWhile (· != slash) ≠ [dot] := by
  induction bytes with
  | nil => exact absurd rfl h
  | cons b rest ih =>
      rw [dropTrivial] at h ⊢
      split
      · next hslash =>
          rw [if_pos hslash] at h
          exact ih h
      · next hslash =>
          rw [if_neg hslash] at h
          split
          · next hdot =>
              rw [if_pos hdot] at h
              exact ih h
          · next hdot =>
              have hkept : (b :: rest).takeWhile (· != slash) = b :: rest.takeWhile (· != slash) :=
                List.takeWhile_cons_of_pos (bne_iff_ne.2 hslash)
              rw [hkept]
              refine ⟨List.cons_ne_nil _ _, fun hname => hdot ?_⟩
              obtain ⟨rfl, hrest⟩ := List.cons.inj hname
              cases rest with
              | nil => rfl
              | cons c cs =>
                  have hc : ¬ (c != slash) = true :=
                    List.takeWhile_eq_nil_iff.1 hrest (Nat.succ_pos cs.length)
                  simpa using hc

/-- What is left of the names is what stands in front of the last one. -/
theorem names_dropLast (body : List UInt8) (h : dropTrivial body.reverse ≠ []) :
    names (dropTrivial ((dropTrivial body.reverse).dropWhile (· != slash))).reverse =
      (names body).dropLast := by
  obtain ⟨hempty, hdot⟩ := takeWhile_dropTrivial h
  have htail : (names body.reverse).tail =
      names ((dropTrivial body.reverse).dropWhile (· != slash)) := by
    rw [← names_dropTrivial body.reverse, names_of_takeWhile hempty hdot, List.tail_cons]
  calc
    names (dropTrivial ((dropTrivial body.reverse).dropWhile (· != slash))).reverse =
        ((names body.reverse).tail.map List.reverse).reverse := by
      rw [names_reverse, names_dropTrivial, htail]
    _ = ((names body.reverse.reverse).reverse.tail).reverse := by
      rw [names_reverse body.reverse, List.reverse_reverse, List.map_tail]
    _ = (names body).dropLast := by
      rw [List.reverse_reverse, List.tail_reverse, List.reverse_reverse]

theorem names_eq_nil_iff {body : List UInt8} : names body = [] ↔ dropTrivial body.reverse = [] := by
  have hreverse : names (dropTrivial body.reverse) = ((names body).map List.reverse).reverse := by
    rw [names_dropTrivial, names_reverse]
  constructor
  · intro h
    by_contra hne
    obtain ⟨hempty, hdot⟩ := takeWhile_dropTrivial hne
    rw [names_of_takeWhile hempty hdot, h] at hreverse
    cases hreverse
  · intro h
    have hnone : names [] = [] := rfl
    rw [h, hnone, eq_comm, List.reverse_eq_nil_iff, List.map_eq_nil_iff] at hreverse
    exact hreverse

/-- A path starts with a slash, with a `.` of its own, or with neither. -/
theorem splitLead_cases (bytes : List UInt8) :
    (∃ rest, bytes = slash :: rest ∧ splitLead bytes = ([slash], rest)) ∨
    (∃ rest, bytes = dot :: rest ∧ (rest = [] ∨ rest.head? = some slash) ∧
      splitLead bytes = ([dot], rest)) ∨
    bytes.head? ≠ some slash ∧ splitLead bytes = ([], bytes) := by
  cases bytes with
  | nil => exact .inr (.inr ⟨Option.some_ne_none _ |>.symm, rfl⟩)
  | cons b rest =>
      rw [splitLead]
      split
      · next hslash => exact .inl ⟨rest, by rw [hslash], by rw [hslash]⟩
      · next hslash =>
          right
          split
          · next hdot =>
              rw [Bool.and_eq_true, Bool.or_eq_true, decide_eq_true_iff, List.isEmpty_iff,
                beq_iff_eq] at hdot
              exact .inl ⟨rest, by rw [hdot.1], hdot.2, by rw [hdot.1]⟩
          · exact .inr ⟨by simpa using hslash, rfl⟩

theorem eq_nil_or_head?_of_prefix {front bytes : List UInt8} (h : front <+: bytes) :
    front = [] ∨ front.head? = bytes.head? := by
  obtain ⟨back, rfl⟩ := h
  cases front with
  | nil => exact .inl rfl
  | cons b front => exact .inr rfl

/-- The start of a path stays with any part of what follows it. -/
theorem lead_append {bytes front : List UInt8} (h : front <+: (splitLead bytes).2) :
    names ((splitLead bytes).1 ++ front) = names front ∧
      isAbsolute ⟨(splitLead bytes).1 ++ front⟩ = isAbsolute ⟨bytes⟩ := by
  rcases splitLead_cases bytes with ⟨rest, rfl, hlead⟩ | ⟨rest, rfl, hrest, hlead⟩ | ⟨hhead, hlead⟩
  · rw [hlead]
    exact ⟨names_slash front, rfl⟩
  · rw [hlead] at h ⊢
    refine ⟨names_dot ?_, rfl⟩
    rcases hrest with rfl | hrest
    · exact .inl (List.prefix_nil.1 h)
    · rw [← hrest]
      exact eq_nil_or_head?_of_prefix h
  · rw [hlead] at h ⊢
    refine ⟨rfl, ?_⟩
    rw [List.nil_append, isAbsolute, isAbsolute]
    rcases eq_nil_or_head?_of_prefix h with rfl | hsame
    · rw [beq_eq_false_iff_ne.2 hhead]
      rfl
    · rw [hsame]

theorem components_names (p : Path) : p.components.2 = names p.bytes := by
  have hlead := (lead_append (List.prefix_refl (splitLead p.bytes).2)).1
  rw [splitLead_append] at hlead
  exact hlead.symm

/-- The parent of a path starts where the path does, and has its names but the last one. -/
theorem parent?_eq_some {p q : Path} (h : p.parent? = some q) :
    q.bytes <+: p.bytes ∧ q.isAbsolute = p.isAbsolute ∧
      q.components.2 = p.components.2.dropLast := by
  rw [components_names, components_names]
  have hnames := (lead_append (List.prefix_refl (splitLead p.bytes).2)).1
  have hsplit := splitLead_append p.bytes
  rw [hsplit] at hnames
  simp only [parent?] at h
  split at h
  · next hbody =>
      split at h
      · next hlead =>
          obtain rfl := Option.some.inj h
          have hnone : names p.bytes = [] := hnames.trans (names_eq_nil_iff.2 hbody)
          refine ⟨List.nil_prefix, ?_, ?_⟩
          · rw [isAbsolute, isAbsolute, ← hsplit, hlead]
            rfl
          · rw [hnone]
            rfl
      · cases h
  · next b rest hbody =>
      obtain rfl := Option.some.inj h
      have hfront : (dropTrivial ((b :: rest).dropWhile (· != slash))).reverse <+:
          (splitLead p.bytes).2 := by
        rw [← List.reverse_suffix, List.reverse_reverse]
        have hdropped := dropTrivial_suffix (splitLead p.bytes).2.reverse
        rw [hbody] at hdropped
        exact (dropTrivial_suffix _).trans ((List.dropWhile_suffix _).trans hdropped)
      obtain ⟨hlead, habsolute⟩ := lead_append hfront
      refine ⟨?_, habsolute, ?_⟩
      · conv_rhs => rw [← hsplit]
        exact List.prefix_append_right_inj _ |>.2 hfront
      · have hlast := names_dropLast (splitLead p.bytes).2 (by simp [hbody])
        rw [hbody] at hlast
        rw [hlead, hlast, hnames]

theorem parent?_eq_none {p : Path} (h : p.parent? = none) : p.components.2 = [] := by
  simp only [parent?] at h
  split at h
  · next hbody => exact names_eq_nil_iff.2 hbody
  · cases h

/-- An absolute path without names has no parent. -/
theorem parent?_of_isAbsolute {p : Path} (habsolute : p.isAbsolute = true)
    (h : p.components.2 = []) : p.parent? = none := by
  have hbody : dropTrivial (splitLead p.bytes).2.reverse = [] := names_eq_nil_iff.1 h
  have hlead : (splitLead p.bytes).1 ≠ [dot] := by
    intro hlead
    rw [isAbsolute, ← splitLead_append p.bytes, hlead] at habsolute
    cases habsolute
  simp only [parent?, hbody, if_neg hlead]

/-! ## Joining -/

/-- What stands between a directory and a path that is joined to it. -/
def gap (directory : List UInt8) : List UInt8 :=
  if directory.isEmpty || directory.getLast? == some slash then [] else [slash]

theorem gap_cases (directory : List UInt8) :
    (directory = [] ∨ directory.getLast? = some slash) ∧ gap directory = [] ∨
      directory ≠ [] ∧ gap directory = [slash] := by
  rw [gap]
  split
  · next h =>
      rw [Bool.or_eq_true, List.isEmpty_iff, beq_iff_eq] at h
      exact .inl ⟨h, rfl⟩
  · next h =>
      rw [Bool.or_eq_true, List.isEmpty_iff, not_or] at h
      exact .inr ⟨h.1, rfl⟩

theorem gap_append (front : List UInt8) {back : List UInt8} (h : back ≠ []) :
    gap (front ++ back) = gap back := by
  rw [gap, gap, List.getLast?_append_of_ne_nil front h, List.isEmpty_eq_false_iff.2 h,
    List.isEmpty_eq_false_iff.2 (List.append_ne_nil_of_right_ne_nil front h)]

section

variable {p q : Path} (hq : q.isAbsolute = false)

include hq

theorem join_of_relative : p.join q = ⟨p.bytes ++ gap p.bytes ++ q.bytes⟩ := by
  rw [join, if_neg (by rw [hq]; exact Bool.false_ne_true), gap]
  split
  · rw [List.append_nil]
  · rw [List.append_assoc, List.singleton_append]

theorem isAbsolute_join : (p.join q).isAbsolute = p.isAbsolute := by
  rw [join_of_relative hq, isAbsolute, isAbsolute]
  by_cases hempty : p.bytes = []
  · rw [hempty]
    exact hq
  · rw [List.append_assoc, List.head?_append_of_ne_nil p.bytes hempty]

theorem length_join_le : (p.join q).bytes.length ≤ p.bytes.length + 1 + q.bytes.length := by
  rw [join_of_relative hq, List.length_append, List.length_append]
  rcases gap_cases p.bytes with ⟨-, hgap⟩ | ⟨-, hgap⟩
  · rw [hgap, List.length_nil]
    omega
  · rw [hgap, List.length_singleton]

theorem mem_join_iff {b : UInt8} (hb : b ≠ slash) :
    b ∈ (p.join q).bytes ↔ b ∈ p.bytes ∨ b ∈ q.bytes := by
  have hgap : b ∉ gap p.bytes := by
    rcases gap_cases p.bytes with ⟨-, hgap⟩ | ⟨-, hgap⟩ <;> simp [hgap, hb]
  rw [join_of_relative hq, List.mem_append, List.mem_append, or_iff_left hgap]

end

theorem join_join {p q r : Path} (hq : q.isAbsolute = false) (hne : q.bytes ≠ [])
    (hr : r.isAbsolute = false) : (p.join q).join r = p.join (q.join r) := by
  have hjoined : (q.join r).isAbsolute = false := (isAbsolute_join hr).trans hq
  rw [join_of_relative hr, join_of_relative hjoined, join_of_relative hq, join_of_relative hr,
    gap_append _ hne]
  simp only [List.append_assoc]

theorem isAbsolute_append {p : Path} (hp : p.isAbsolute = false) (hne : p.bytes ≠ [])
    (s : String) : (p.append s).isAbsolute = false := by
  rw [isAbsolute, append, List.head?_append_of_ne_nil p.bytes hne]
  exact hp

theorem append_join {p q : Path} (hq : q.isAbsolute = false) (hne : q.bytes ≠ []) (s : String) :
    (p.join q).append s = p.join (q.append s) := by
  rw [join_of_relative (isAbsolute_append hq hne s), join_of_relative hq, append, append]
  simp only [List.append_assoc]

end ScopedStyles.Path
