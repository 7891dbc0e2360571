import ScopedStyles.Proofs.Import.Clauses
import ScopedStyles.Proofs.Import.Grammar
/-!
# Named imports and their gaps

A named import is a name, another name for it behind `as`, and the word `type` in front if it is one
of a type. Its words are told apart by literal spaces and not by blanks of any kind: the mark is
read only with a space right behind it, and `as` only with a space on either side.
-/

namespace ScopedStyles.Bindings

open Text Statement

/-! ## Names between braces -/

/-- Names that an import can bind. -/
abbrev Identifier := { name : List Char // isIdentifier name = true }

def typeWord : List Char := ['t', 'y', 'p', 'e']

def asWord : List Char := ['a', 's']

/-- One of the imports between braces. -/
structure NamedImport where
  imported : Identifier
  /-- The name behind `as`. -/
  renamed : Option Identifier
  /-- Whether `type` stands in front. -/
  marked : Bool

/-- The gaps of a named import. -/
inductive EntryGap where
  | front
  | afterType
  | beforeAs
  | afterAs
  | back
  deriving DecidableEq

namespace NamedImport

/-- The name that is bound. -/
def name (e : NamedImport) : Identifier :=
  e.renamed.getD e.imported

/-- The imported name and the one that is bound. -/
def pair (e : NamedImport) : String × String :=
  (String.ofList e.imported, String.ofList e.name)

/-- What stands behind the imported name. -/
def behind (e : NamedImport) (g : EntryGap → List Char) : List Char :=
  match e.renamed with
  | none => []
  | some name => g .beforeAs ++ (asWord ++ (g .afterAs ++ name))

/-- A named import without its mark and the gaps around it. -/
def body (e : NamedImport) (g : EntryGap → List Char) : List Char :=
  e.imported ++ e.behind g

def core (e : NamedImport) (g : EntryGap → List Char) : List Char :=
  if e.marked then typeWord ++ (g .afterType ++ e.body g) else e.body g

/-- A named import as it is written with the gaps `g`. -/
def text (e : NamedImport) (g : EntryGap → List Char) : List Char :=
  g .front ++ (e.core g ++ g .back)

/-- Gaps of blanks in which no two words run together. -/
structure Fits (e : NamedImport) (g : EntryGap → List Char) : Prop where
  blanks : ∀ p, ∀ c ∈ g p, isBlank c = true
  afterType : e.marked = true → g .afterType ≠ []
  beforeAs : e.renamed.isSome = true → g .beforeAs ≠ []
  afterAs : e.renamed.isSome = true → g .afterAs ≠ []

/-- Whether `as` has a space on either side. -/
def SpacedAs (e : NamedImport) (g : EntryGap → List Char) : Prop :=
  e.renamed.isSome = true → (g .beforeAs).getLast? = some ' ' ∧ (g .afterAs).head? = some ' '

/-- Gaps with a space right behind `type` and on either side of `as`. A name `type` that is not one
of a type must not look like the mark. -/
structure Spaced (e : NamedImport) (g : EntryGap → List Char) : Prop where
  afterType : e.marked = true → (g .afterType).head? = some ' '
  as : e.SpacedAs g
  unmarked : e.marked = false → e.renamed.isSome = true → e.imported.1 = typeWord →
    (g .beforeAs).head? ≠ some ' '

end NamedImport

theorem Identifier.isBlank_eq_false (name : Identifier) : ∀ c ∈ name.1, isBlank c = false :=
  fun c hc => isBlank_eq_false_of_isNameChar (isNameChar_of_mem name.2 c hc)

theorem Identifier.ne_nil (name : Identifier) : name.1 ≠ [] :=
  ne_nil_of_isIdentifier name.2

theorem isBlank_eq_false_of_mem_asWord : ∀ c ∈ asWord, isBlank c = false :=
  List.all_iff_forall_prop.1 (by decide)

/-! ## Where `as` is found -/

/-- What is looked for between two names. -/
def asSeparator : List Char := ' ' :: (asWord ++ [' '])

theorem splitAtFirst?_append_of_not_mem {first : Char} {sep cs : List Char} (h : first ∉ cs)
    (rest : List Char) : splitAtFirst? (first :: sep) (cs ++ rest) =
      (splitAtFirst? (first :: sep) rest).map fun (before, after) => (cs ++ before, after) := by
  induction cs with
  | nil => simp
  | cons c cs ih =>
      have hlead : ¬ (first :: sep).isPrefixOf (c :: (cs ++ rest)) = true := by
        simp [List.ne_of_not_mem_cons h]
      rw [List.cons_append, splitAtFirst?, if_neg hlead, ih (List.not_mem_of_not_mem_cons h),
        Option.map_map]
      rfl

theorem splitAtFirst?_as_of_word {word : List Char} (hword : ∀ c ∈ word, isBlank c = false)
    (rest : List Char) : splitAtFirst? asSeparator (word ++ rest) =
      (splitAtFirst? asSeparator rest).map fun (before, after) => (word ++ before, after) :=
  splitAtFirst?_append_of_not_mem (fun hmem => absurd (hword ' ' hmem) (by decide)) rest

theorem splitAtFirst?_as_of_name {word : List Char} (hword : ∀ c ∈ word, isBlank c = false) :
    splitAtFirst? asSeparator word = none := by
  have hsplit := splitAtFirst?_as_of_word hword []
  rwa [List.append_nil] at hsplit

/-- A gap is searched up to its last blank only, since no other one has a word behind it. -/
theorem splitAtFirst?_as_gap {gap : List Char} (hgap : ∀ c ∈ gap, isBlank c = true)
    (rest : List Char) : splitAtFirst? asSeparator (gap ++ rest) =
      if gap.getLast? = some ' ' ∧ asWord ++ [' '] <+: rest then
        some (gap.dropLast, rest.drop 3)
      else (splitAtFirst? asSeparator rest).map fun (before, after) => (gap ++ before, after) := by
  induction gap with
  | nil => simp
  | cons c gap ih =>
      obtain ⟨-, hgap⟩ := List.forall_mem_cons.1 hgap
      rw [List.cons_append, splitAtFirst?]
      cases gap with
      | nil =>
          have hlead : asSeparator.isPrefixOf (c :: ([] ++ rest)) = true ↔
              [c].getLast? = some ' ' ∧ asWord ++ [' '] <+: rest := by
            rw [List.isPrefixOf_iff_prefix, asSeparator, List.nil_append, List.cons_prefix_cons]
            simp [eq_comm]
          by_cases h : asSeparator.isPrefixOf (c :: ([] ++ rest)) = true
          · rw [if_pos h, if_pos (hlead.1 h)]
            rfl
          · rw [if_neg h, if_neg (mt hlead.2 h)]
            rfl
      | cons d gap =>
          have hd : ¬ 'a' = d := by
            rintro rfl
            exact absurd (hgap 'a' List.mem_cons_self) (by decide)
          have hlead : ¬ asSeparator.isPrefixOf (c :: (d :: gap ++ rest)) = true := by
            simp [asSeparator, asWord, hd]
          rw [if_neg hlead, ih hgap, List.getLast?_cons_cons]
          split
          · rfl
          · rw [Option.map_map]
            rfl

/-- No `as` is found in a word, a gap and a name. -/
theorem splitAtFirst?_as_gap_name {gap name : List Char} (hgap : ∀ c ∈ gap, isBlank c = true)
    (hname : ∀ c ∈ name, isBlank c = false) : splitAtFirst? asSeparator (gap ++ name) = none := by
  have hlead : ¬ asWord ++ [' '] <+: name := fun h =>
    absurd (hname ' ' (h.subset (by decide))) (by decide)
  rw [splitAtFirst?_as_gap hgap, if_neg fun h => hlead h.2, splitAtFirst?_as_of_name hname]
  rfl

theorem splitAtFirst?_as {word gap gap' name : List Char} (hword : ∀ c ∈ word, isBlank c = false)
    (hgap : ∀ c ∈ gap, isBlank c = true) (hgap' : ∀ c ∈ gap', isBlank c = true) (hne : gap' ≠ [])
    (hname : ∀ c ∈ name, isBlank c = false) :
    splitAtFirst? asSeparator (word ++ (gap ++ (asWord ++ (gap' ++ name)))) =
      if gap.getLast? = some ' ' ∧ gap'.head? = some ' ' then
        some (word ++ gap.dropLast, gap'.tail ++ name)
      else none := by
  obtain ⟨c, gap', rfl⟩ := List.exists_cons_of_ne_nil hne
  have hlead : asWord ++ [' '] <+: asWord ++ (c :: gap' ++ name) ↔
      (c :: gap').head? = some ' ' := by
    rw [List.prefix_append_right_inj, List.cons_append, List.cons_prefix_cons]
    simp [eq_comm]
  rw [splitAtFirst?_as_of_word hword, splitAtFirst?_as_gap hgap]
  simp only [hlead]
  split
  · rfl
  · rw [splitAtFirst?_as_of_word isBlank_eq_false_of_mem_asWord,
      splitAtFirst?_as_gap_name hgap' hname]
    rfl

/-! ## How an entry is read -/

/-- What is read of an entry without its mark. -/
def entryPair (entry : List Char) : String × String :=
  match splitAtFirst? asSeparator entry with
  | some (imported, name) => (String.ofList (trim imported), String.ofList (trim name))
  | none => (String.ofList entry, String.ofList entry)

theorem entryPair_of_none {entry : List Char} (h : splitAtFirst? asSeparator entry = none) :
    entryPair entry = (String.ofList entry, String.ofList entry) := by
  rw [entryPair, h]

theorem entryPair_of_some {entry before after : List Char}
    (h : splitAtFirst? asSeparator entry = some (before, after)) :
    entryPair entry = (String.ofList (trim before), String.ofList (trim after)) := by
  rw [entryPair, h]

/-- A mark is passed over if a space stands right behind it. -/
def withoutMark (entry : List Char) : List Char :=
  ((dropLead? (typeWord ++ [' ']) entry).map trimStart).getD entry

theorem namedEntry?_of_trim {part entry : List Char} (htrim : trim part = entry)
    (hne : withoutMark entry ≠ []) : namedEntry? part = some (entryPair (withoutMark entry)) := by
  have hsome : (withoutMark entry).isEmpty = false := by simpa using hne
  have hread : namedEntry? part = if (withoutMark entry).isEmpty then none else
      match splitAtFirst? asSeparator (withoutMark entry) with
      | some (imported, name) => some (String.ofList (trim imported), String.ofList (trim name))
      | none => some (String.ofList (withoutMark entry), String.ofList (withoutMark entry)) := by
    rw [← htrim]
    rfl
  rw [hread, hsome, if_neg Bool.false_ne_true, entryPair]
  cases splitAtFirst? asSeparator (withoutMark entry) <;> rfl

theorem withoutMark_append {gap rest : List Char} (hgap : ∀ c ∈ gap, isBlank c = true)
    (hspace : gap.head? = some ' ') (hrest : trimStart rest = rest) :
    withoutMark (typeWord ++ (gap ++ rest)) = rest := by
  obtain ⟨gap, rfl⟩ := List.head?_eq_some_iff.1 hspace
  have hlead : dropLead? (typeWord ++ [' ']) (typeWord ++ (' ' :: gap ++ rest)) =
      some (gap ++ rest) := dropLead?_eq_some_iff.2 rfl
  rw [withoutMark, hlead, Option.map_some, Option.getD_some, trimStart,
    List.dropWhile_append_of_pos (List.forall_mem_cons.1 hgap).2]
  exact hrest

theorem withoutMark_of_not_prefix {entry : List Char} (h : ¬ typeWord ++ [' '] <+: entry) :
    withoutMark entry = entry := by
  rw [withoutMark, dropLead?, if_neg (mt List.isPrefixOf_iff_prefix.1 h)]
  rfl

/-- Blanks alone do not follow a mark in a trimmed text. -/
theorem withoutMark_ne_nil {entry : List Char} (hne : entry ≠ [])
    (hlast : ∀ c ∈ entry.getLast?, isBlank c = false) : withoutMark entry ≠ [] := by
  rw [withoutMark]
  cases hlead : dropLead? (typeWord ++ [' ']) entry with
  | none => exact hne
  | some rest =>
      intro hnil
      have hblanks : ∀ c ∈ ' ' :: rest, isBlank c = true :=
        List.forall_mem_cons.2 ⟨by decide, List.dropWhile_eq_nil_iff.1 hnil⟩
      have hentry : entry = typeWord ++ ' ' :: rest := by
        rw [dropLead?_eq_some hlead, List.append_assoc]
        rfl
      have hend : entry.getLast? = some ((' ' :: rest).getLast (List.cons_ne_nil ' ' rest)) := by
        rw [hentry, List.getLast?_append_of_ne_nil _ (List.cons_ne_nil ' ' rest),
          List.getLast?_eq_some_getLast]
      have hplain := hlast _ hend
      rw [hblanks _ (List.getLast_mem _)] at hplain
      cases hplain

/-- A mark stands in front of a text exactly if the text's first word is the mark. -/
theorem mark_prefix_iff {word gap rest : List Char} (hword : ∀ c ∈ word, isBlank c = false)
    (hgap : ∀ c ∈ gap, isBlank c = true) (hne : gap ≠ []) :
    typeWord ++ [' '] <+: word ++ (gap ++ rest) ↔ word = typeWord ∧ gap.head? = some ' ' := by
  obtain ⟨c, gap, rfl⟩ := List.exists_cons_of_ne_nil hne
  have hc := hgap c List.mem_cons_self
  constructor
  · rintro ⟨tail, htail⟩
    -- Both sides start with the first word of the text, which ends at the first blank.
    have hmark : (typeWord ++ [' '] ++ tail).takeWhile (!isBlank ·) = typeWord := by
      rw [List.append_assoc, List.takeWhile_append_of_pos (List.all_eq_true.1 (by decide))]
      simp [show isBlank ' ' = true by decide]
    have hfirst : (word ++ (c :: gap ++ rest)).takeWhile (!isBlank ·) = word := by
      rw [List.takeWhile_append_of_pos fun d hd => by simpa using hword d hd]
      simp [hc]
    obtain rfl : word = typeWord := by rw [← hfirst, ← htail, hmark]
    rw [List.append_assoc, List.append_cancel_left_eq] at htail
    exact ⟨rfl, congrArg some (List.cons.inj htail).1.symm⟩
  · rintro ⟨rfl, hspace⟩
    obtain rfl : c = ' ' := Option.some.inj hspace
    exact ⟨gap ++ rest, by simp⟩

namespace NamedImport

variable {e : NamedImport} {g : EntryGap → List Char}

theorem exists_body_append (e : NamedImport) (g : EntryGap → List Char) :
    ∃ front, e.body g = front ++ e.name := by
  obtain ⟨imported, renamed, marked⟩ := e
  cases renamed with
  | none => exact ⟨[], List.append_nil _⟩
  | some name => exact ⟨imported ++ (g .beforeAs ++ (asWord ++ g .afterAs)), by
      simp [body, behind, NamedImport.name]⟩

theorem head?_body (e : NamedImport) (g : EntryGap → List Char) :
    ∀ c ∈ (e.body g).head?, isBlank c = false := by
  intro c hc
  rw [body, List.head?_append_of_ne_nil _ e.imported.ne_nil] at hc
  exact e.imported.isBlank_eq_false c (List.mem_of_head? hc)

theorem getLast?_body (e : NamedImport) (g : EntryGap → List Char) :
    ∀ c ∈ (e.body g).getLast?, isBlank c = false := by
  intro c hc
  obtain ⟨front, hbody⟩ := exists_body_append e g
  rw [hbody, List.getLast?_append_of_ne_nil _ e.name.ne_nil] at hc
  exact e.name.isBlank_eq_false c (List.mem_of_getLast? hc)

theorem body_ne_nil (e : NamedImport) (g : EntryGap → List Char) : e.body g ≠ [] :=
  List.append_ne_nil_of_left_ne_nil e.imported.ne_nil _

theorem trim_body (e : NamedImport) (g : EntryGap → List Char) : trim (e.body g) = e.body g :=
  trim_eq_self (head?_body e g) (getLast?_body e g)

theorem core_ne_nil (e : NamedImport) (g : EntryGap → List Char) : e.core g ≠ [] := by
  rw [core]
  split
  · exact List.append_ne_nil_of_left_ne_nil (by decide) _
  · exact body_ne_nil e g

theorem getLast?_core (e : NamedImport) (g : EntryGap → List Char) :
    ∀ c ∈ (e.core g).getLast?, isBlank c = false := by
  rw [core]
  split
  · rw [← List.append_assoc, List.getLast?_append_of_ne_nil _ (body_ne_nil e g)]
    exact getLast?_body e g
  · exact getLast?_body e g

theorem trim_text (hg : e.Fits g) : trim (e.text g) = e.core g := by
  rw [text, trim_blanks_append (hg.blanks .front), trim_append_gap _ (hg.blanks .back)]
  refine trim_eq_self (fun c hc => ?_) (getLast?_core e g)
  rw [core] at hc
  split at hc
  · obtain rfl : 't' = c := Option.some.inj hc
    decide
  · exact head?_body e g c hc

/-- What is read of a named import. -/
def read (e : NamedImport) (g : EntryGap → List Char) : String × String :=
  entryPair (withoutMark (e.core g))

theorem namedEntry?_text (hg : e.Fits g) : namedEntry? (e.text g) = some (e.read g) :=
  namedEntry?_of_trim (trim_text hg) (withoutMark_ne_nil (core_ne_nil e g) (getLast?_core e g))

theorem entryPair_body (hg : e.Fits g) (h : e.SpacedAs g) : entryPair (e.body g) = e.pair := by
  obtain ⟨imported, renamed, marked⟩ := e
  cases renamed with
  | none =>
      have hbody : body ⟨imported, none, marked⟩ g = imported := List.append_nil _
      rw [hbody, entryPair_of_none (splitAtFirst?_as_of_name imported.isBlank_eq_false)]
      rfl
  | some name =>
      obtain ⟨hlast, hhead⟩ := h rfl
      have hsplit := splitAtFirst?_as imported.isBlank_eq_false (hg.blanks .beforeAs)
        (hg.blanks .afterAs) (hg.afterAs rfl) name.isBlank_eq_false
      rw [if_pos ⟨hlast, hhead⟩] at hsplit
      have hbefore : ∀ c ∈ (g .beforeAs).dropLast, isBlank c = true :=
        fun c hc => hg.blanks .beforeAs c (List.dropLast_subset _ hc)
      have hafter : ∀ c ∈ (g .afterAs).tail, isBlank c = true :=
        fun c hc => hg.blanks .afterAs c (List.mem_of_mem_tail hc)
      refine (entryPair_of_some hsplit).trans ?_
      rw [trim_append_gap _ hbefore, trim_blanks_append hafter, trim_of_isIdentifier imported.2,
        trim_of_isIdentifier name.2]
      rfl

/-- A name with blanks inside is not one that is imported. -/
def Garbled (p : String × String) : Prop :=
  ∃ c ∈ p.1.toList, isBlank c = true

theorem garbled_entryPair_of_none {entry : List Char}
    (h : splitAtFirst? asSeparator entry = none) {c : Char} (hc : c ∈ entry)
    (hblank : isBlank c = true) : Garbled (entryPair entry) := by
  rw [entryPair_of_none h]
  exact ⟨c, by simpa using hc, hblank⟩

theorem garbled_body (hg : e.Fits g) (h : ¬ e.SpacedAs g) : Garbled (entryPair (e.body g)) := by
  obtain ⟨imported, renamed, marked⟩ := e
  cases renamed with
  | none => exact absurd (fun hsome => nomatch hsome) h
  | some name =>
      have hne : g .afterAs ≠ [] := hg.afterAs rfl
      have hsplit := splitAtFirst?_as imported.isBlank_eq_false (hg.blanks .beforeAs)
        (hg.blanks .afterAs) hne name.isBlank_eq_false
      rw [if_neg fun hspaces => h fun _ => hspaces] at hsplit
      obtain ⟨c, gap, hgap⟩ := List.exists_cons_of_ne_nil hne
      refine garbled_entryPair_of_none hsplit (c := c) ?_
        (hg.blanks .afterAs c (hgap ▸ List.mem_cons_self))
      rw [body, behind, hgap]
      simp

theorem withoutMark_core_of_marked (hg : e.Fits g) (hmarked : e.marked = true)
    (hspace : (g .afterType).head? = some ' ') : withoutMark (e.core g) = e.body g := by
  rw [core, if_pos hmarked]
  exact withoutMark_append (hg.blanks .afterType) hspace (trimStart_eq_self_of_trim (trim_body e g))

/-- Without a mark nothing is passed over, unless the name itself looks like one. -/
theorem withoutMark_core_of_unmarked (hg : e.Fits g) (hmarked : e.marked = false)
    (hname : e.renamed.isSome = true → e.imported.1 = typeWord →
      (g .beforeAs).head? ≠ some ' ') : withoutMark (e.core g) = e.body g := by
  rw [core, hmarked, if_neg Bool.false_ne_true]
  refine withoutMark_of_not_prefix fun hlead => ?_
  obtain ⟨imported, renamed, marked⟩ := e
  cases renamed with
  | none =>
      have hspace := hlead.subset (show ' ' ∈ typeWord ++ [' '] by decide)
      have hmem : ' ' ∈ imported.1 := by simpa [body, behind] using hspace
      exact absurd (imported.isBlank_eq_false ' ' hmem) (by decide)
  | some name =>
      obtain ⟨htype, hhead⟩ := (mark_prefix_iff imported.isBlank_eq_false (hg.blanks .beforeAs)
        (hg.beforeAs rfl)).1 hlead
      exact hname rfl htype hhead

theorem read_of_spaced (hg : e.Fits g) (h : e.Spaced g) : e.read g = e.pair := by
  rw [read]
  cases hmarked : e.marked with
  | true => rw [withoutMark_core_of_marked hg hmarked (h.afterType hmarked), entryPair_body hg h.as]
  | false =>
      rw [withoutMark_core_of_unmarked hg hmarked (h.unmarked hmarked), entryPair_body hg h.as]

/-- The words of what stands in front of `as` and the words behind it. -/
theorem words_of_splitAtFirst? {entry before after : List Char}
    (h : splitAtFirst? asSeparator entry = some (before, after)) :
    words entry = words before ++ asWord :: words after := by
  have hspace : isBlank ' ' = true := by decide
  rw [splitAtFirst?_eq_some h, asSeparator, List.append_assoc, List.cons_append,
    words_append_blank before hspace, List.append_assoc, List.singleton_append,
    words_append_cons (by decide) isBlank_eq_false_of_mem_asWord hspace]
  have hblank : words ([' '] ++ after) = words after :=
    words_blanks_append (List.forall_mem_singleton.2 hspace) after
  exact congrArg (words before ++ asWord :: ·) hblank

theorem words_trim (cs : List Char) : words (trim cs) = words cs := by
  obtain ⟨front, back, hcs, hfront, hback⟩ := exists_trim_append cs
  have hwords := congrArg words hcs
  rw [words_append_blanks hback, words_blanks_append hfront] at hwords
  exact hwords.symm

/-- The imported name is the first word of what follows the mark. -/
theorem words_body (hg : e.Fits g) : ∃ more, words (e.body g) = e.imported.1 :: more := by
  have hbehind : (e.behind g).takeWhile (!isBlank ·) = [] := by
    obtain ⟨imported, renamed, marked⟩ := e
    cases renamed with
    | none => rfl
    | some name =>
        obtain ⟨c, gap, hgap⟩ := List.exists_cons_of_ne_nil (hg.beforeAs rfl)
        have hc : isBlank c = true := hg.blanks .beforeAs c (hgap ▸ List.mem_cons_self)
        have hbehind : behind ⟨imported, some name, marked⟩ g =
            c :: (gap ++ (asWord ++ (g .afterAs ++ name))) := congrArg (· ++ _) hgap
        rw [hbehind, List.takeWhile_cons_of_neg (by simp [hc])]
  have hwords := words_append e.imported.ne_nil e.imported.isBlank_eq_false (e.behind g)
  rw [hbehind, List.append_nil] at hwords
  exact ⟨_, hwords⟩

/-- Where the mark has another blank behind it than a space, it is taken for a part of the name, or
for the whole name if the name is `as`. -/
theorem entryPair_of_unread_mark (hg : e.Fits g) (hmarked : e.marked = true) :
    Garbled (entryPair (e.core g)) ∨
      (entryPair (e.core g)).1 = String.ofList typeWord ∧ e.imported.1 = asWord := by
  have hcore : e.core g = typeWord ++ (g .afterType ++ e.body g) := by rw [core, if_pos hmarked]
  obtain ⟨c, gap, hgap⟩ := List.exists_cons_of_ne_nil (hg.afterType hmarked)
  have hc : isBlank c = true := hg.blanks .afterType c (hgap ▸ List.mem_cons_self)
  cases hsplit : splitAtFirst? asSeparator (e.core g) with
  | none => exact .inl (garbled_entryPair_of_none hsplit (by rw [hcore, hgap]; simp) hc)
  | some parts =>
      obtain ⟨before, after⟩ := parts
      have htype : ∀ c ∈ typeWord, isBlank c = false := List.all_iff_forall_prop.1 (by decide)
      obtain ⟨more, himported⟩ := words_body hg
      have hwords := words_of_splitAtFirst? hsplit
      rw [hcore, hgap, List.cons_append, words_append_cons (by decide) htype hc, ← List.cons_append,
        ← hgap, words_blanks_append (hg.blanks .afterType), himported, ← words_trim] at hwords
      rw [entryPair_of_some hsplit]
      by_cases hgarbled : ∃ d ∈ trim before, isBlank d = true
      · obtain ⟨d, hd, hblank⟩ := hgarbled
        exact .inl ⟨d, by simpa using hd, hblank⟩
      · -- The text in front of `as` is at most one word, so it is the mark.
        have hplain : ∀ d ∈ trim before, isBlank d = false := fun d hd =>
          Bool.eq_false_iff.2 fun hblank => hgarbled ⟨d, hd, hblank⟩
        by_cases hnil : trim before = []
        · rw [hnil] at hwords
          exact absurd (List.cons.inj hwords).1 (by decide)
        · have hone := words_append hnil hplain []
          rw [List.append_nil, List.takeWhile_nil, List.append_nil, List.dropWhile_nil] at hone
          rw [hone] at hwords
          obtain ⟨hmark, hrest⟩ := List.cons.inj hwords
          exact .inr ⟨congrArg String.ofList hmark.symm, (List.cons.inj hrest).1⟩

/-- An entry that looks like a marked one is read as `as` and what follows it. -/
theorem garbled_of_false_mark (hg : e.Fits g) (hmarked : e.marked = false)
    (hrenamed : e.renamed.isSome = true) (htype : e.imported.1 = typeWord)
    (hspace : (g .beforeAs).head? = some ' ') : Garbled (e.read g) := by
  obtain ⟨name, hname⟩ := Option.isSome_iff_exists.1 hrenamed
  obtain ⟨c, gap, hgap⟩ := List.exists_cons_of_ne_nil (hg.afterAs hrenamed)
  have hcore : e.core g = typeWord ++ (g .beforeAs ++ (asWord ++ (g .afterAs ++ name))) := by
    rw [core, hmarked, if_neg Bool.false_ne_true, body, behind, hname, htype]
  have hstart : trimStart (asWord ++ (g .afterAs ++ name)) = asWord ++ (g .afterAs ++ name) :=
    trimStart_cons_eq_self_iff.2 (by decide)
  have hsplit : splitAtFirst? asSeparator (asWord ++ (g .afterAs ++ name)) = none := by
    rw [splitAtFirst?_as_of_word isBlank_eq_false_of_mem_asWord,
      splitAtFirst?_as_gap_name (hg.blanks .afterAs) name.isBlank_eq_false]
    rfl
  rw [read, hcore, withoutMark_append (hg.blanks .beforeAs) hspace hstart]
  refine garbled_entryPair_of_none hsplit (c := c) ?_
    (hg.blanks .afterAs c (hgap ▸ List.mem_cons_self))
  rw [hgap]
  simp

theorem read_of_not_spaced (hg : e.Fits g) (h : ¬ e.Spaced g) :
    Garbled (e.read g) ∨ (e.read g).1 = String.ofList typeWord ∧ e.imported.1 = asWord := by
  cases hmarked : e.marked with
  | true =>
      by_cases hspace : (g .afterType).head? = some ' '
      · have has : ¬ e.SpacedAs g := fun has =>
          h ⟨fun _ => hspace, has, fun hnot => absurd (hmarked.symm.trans hnot) (by decide)⟩
        rw [read, withoutMark_core_of_marked hg hmarked hspace]
        exact .inl (garbled_body hg has)
      · have hmark : withoutMark (e.core g) = e.core g := by
          refine withoutMark_of_not_prefix fun hlead => hspace ?_
          rw [core, if_pos hmarked] at hlead
          exact ((mark_prefix_iff (List.all_iff_forall_prop.1 (by decide)) (hg.blanks .afterType)
            (hg.afterType hmarked)).1 hlead).2
        rw [read, hmark]
        exact entryPair_of_unread_mark hg hmarked
  | false =>
      by_cases hlooks : e.renamed.isSome = true ∧ e.imported.1 = typeWord ∧
          (g .beforeAs).head? = some ' '
      · obtain ⟨hrenamed, htype, hspace⟩ := hlooks
        exact .inl (garbled_of_false_mark hg hmarked hrenamed htype hspace)
      · have hname : e.renamed.isSome = true → e.imported.1 = typeWord →
            (g .beforeAs).head? ≠ some ' ' := fun hrenamed htype hspace =>
          hlooks ⟨hrenamed, htype, hspace⟩
        have has : ¬ e.SpacedAs g := fun has =>
          h ⟨fun hnot => absurd (hmarked.symm.trans hnot) (by decide), has, fun _ => hname⟩
        rw [read, withoutMark_core_of_unmarked hg hmarked hname]
        exact .inl (garbled_body hg has)

theorem not_garbled_pair (e : NamedImport) : ¬ Garbled e.pair := by
  rintro ⟨c, hc, hblank⟩
  rw [pair, String.toList_ofList] at hc
  rw [e.imported.isBlank_eq_false c hc] at hblank
  cases hblank

end NamedImport

end ScopedStyles.Bindings
