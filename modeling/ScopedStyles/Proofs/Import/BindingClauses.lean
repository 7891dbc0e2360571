import Mathlib.Data.List.NodupEquivFin
import ScopedStyles.Proofs.Import.NamedImports
import ScopedStyles.Proofs.NameMap
/-!
# Clauses and their layouts

A clause of identifiers, written as its tokens with gaps between them. Its default name and its
namespace are read in every layout. Its named imports are read as they are meant exactly if the gaps
around `type` and `as` have the spaces that tell their words apart.
-/

namespace ScopedStyles.Bindings

open Text Statement

/-! ## Clauses -/

/-- What a clause binds next to its default name. -/
inductive Others where
  | nothing
  | namespaced (name : Identifier)
  | list (entries : List NamedImport)

/-- The names that a clause binds, in the order in which they are written. -/
structure BindingClause where
  default : Option Identifier
  others : Others

/-- The gaps of a clause. -/
inductive ClauseGap where
  | afterName
  | afterComma
  | afterStar
  | afterAs
  | afterOpen
  | entry (i : Nat) (p : EntryGap)
  | beforeClose

/-- What stands in each gap, and whether a comma follows the last of the named imports. -/
structure ClauseLayout where
  gap : ClauseGap → List Char
  comma : Bool

/-- The gaps of the named import with the number `i`. -/
def ClauseLayout.entry (g : ClauseLayout) (i : Nat) : EntryGap → List Char :=
  fun p => g.gap (.entry i p)

/-- Named imports from the number `i` on, up to the brace that closes the list. -/
def listText (g : ClauseLayout) : Nat → List NamedImport → List Char
  | _, [] => g.gap .beforeClose
  | i, [e] => e.text (g.entry i) ++ ((if g.comma then [','] else []) ++ g.gap .beforeClose)
  | i, e :: e' :: es => e.text (g.entry i) ++ ',' :: listText g (i + 1) (e' :: es)

namespace Others

def text (g : ClauseLayout) : Others → List Char
  | nothing => []
  | namespaced name => '*' :: (g.gap .afterStar ++ (asWord ++ (g.gap .afterAs ++ name)))
  | list entries => '{' :: (g.gap .afterOpen ++ listText g 0 entries ++ ['}'])

def namespaceName : Others → Option String
  | namespaced name => some (String.ofList name)
  | _ => none

def entries : Others → List NamedImport
  | list entries => entries
  | _ => []

end Others

namespace BindingClause

/-- A clause as it is written in the layout `g`. -/
def text (c : BindingClause) (g : ClauseLayout) : List Char :=
  match c.default, c.others with
  | none, others => others.text g
  | some name, .nothing => name
  | some name, others =>
    name ++ g.gap .afterName ++ ',' :: (g.gap .afterComma ++ others.text g)

def entries (c : BindingClause) : List NamedImport :=
  c.others.entries

/-- What a clause means. -/
def bindings (c : BindingClause) : Bindings where
  default := c.default.map fun name => String.ofList name
  namespaceName := c.others.namespaceName
  named := .ofList (c.entries.map NamedImport.pair)

/-- Gaps of blanks in which no two words run together. -/
structure Fits (c : BindingClause) (g : ClauseLayout) : Prop where
  blanks : ∀ p, ∀ d ∈ g.gap p, isBlank d = true
  afterAs : ∀ name, c.others = .namespaced name → g.gap .afterAs ≠ []
  entries : ∀ i (e : NamedImport), c.entries[i]? = some e → e.Fits (g.entry i)

/-- All words of the named imports are told apart by spaces. -/
def Spaced (c : BindingClause) (g : ClauseLayout) : Prop :=
  ∀ i (e : NamedImport), c.entries[i]? = some e → e.Spaced (g.entry i)

end BindingClause

/-! ## Lists -/

theorem namedEntry?_congr {part part' : List Char} (h : trim part = trim part') :
    namedEntry? part = namedEntry? part' := by
  unfold namedEntry?
  rw [h]

theorem namedEntry?_blanks {gap : List Char} (hgap : ∀ c ∈ gap, isBlank c = true) :
    namedEntry? gap = none := by
  have hempty : namedEntry? [] = none := rfl
  rw [← hempty]
  exact namedEntry?_congr (trim_eq_nil hgap)

theorem namedEntries_blanks_append {gap : List Char} (hgap : ∀ c ∈ gap, isBlank c = true)
    (inside : List Char) : namedEntries (gap ++ inside) = namedEntries inside := by
  have hnot : ',' ∉ gap := not_mem_of_blanks (by decide) hgap
  have hsame (part : List Char) : namedEntry? (gap ++ part) = namedEntry? part :=
    namedEntry?_congr (trim_blanks_append hgap)
  rw [namedEntries, namedEntries]
  by_cases hcomma : ',' ∈ inside
  · obtain ⟨front, back, rfl, hfront, hsplit⟩ := exists_splitOn_of_mem hcomma
    rw [hsplit, ← List.append_assoc, splitOn_append_cons (List.not_mem_append hnot hfront),
      List.filterMap_cons, List.filterMap_cons, hsame]
  · rw [splitOn_of_not_mem hcomma, splitOn_of_not_mem (List.not_mem_append hnot hcomma),
      List.filterMap_cons, List.filterMap_cons, hsame]

theorem namedEntries_append_cons {part : List Char} {p : String × String} (hcomma : ',' ∉ part)
    (hread : namedEntry? part = some p) (inside : List Char) :
    namedEntries (part ++ ',' :: inside) = p :: namedEntries inside := by
  rw [namedEntries, splitOn_append_cons hcomma, List.filterMap_cons, hread]
  rfl

theorem namedEntries_of_not_mem {part : List Char} {found : Option (String × String)}
    (hcomma : ',' ∉ part) (hread : namedEntry? part = found) :
    namedEntries part = found.toList := by
  rw [namedEntries, splitOn_of_not_mem hcomma, List.filterMap_cons, hread]
  cases found <;> rfl

theorem NamedImport.not_mem_text {e : NamedImport} {g : EntryGap → List Char} (hg : e.Fits g)
    {c : Char} (hc : isNameChar c = false) (hblank : isBlank c = false)
    (hword : c ∉ typeWord ++ asWord) : c ∉ e.text g := by
  have hgap (p : EntryGap) : c ∉ g p := not_mem_of_blanks hblank (hg.blanks p)
  have hname (name : Identifier) : c ∉ name.1 := not_mem_of_isIdentifier name.2 hc
  rw [List.mem_append, not_or] at hword
  have hbehind : c ∉ e.behind g := by
    rw [behind]
    split
    · exact List.not_mem_nil
    · simp [hgap, hname, hword.2]
  rw [text, core, body]
  split <;> simp [hgap, hname, hbehind, hword.1]

/-- What is read of named imports from the number `i` on. -/
def readFrom (g : ClauseLayout) (i : Nat) (es : List NamedImport) : List (String × String) :=
  (es.zipIdx i).map fun (e, j) => e.read (g.entry j)

theorem namedEntries_listText {g : ClauseLayout}
    (hclose : ∀ c ∈ g.gap .beforeClose, isBlank c = true) {i : Nat} {es : List NamedImport}
    (hes : ∀ e j, (e, j) ∈ es.zipIdx i → e.Fits (g.entry j)) :
    namedEntries (listText g i es) = readFrom g i es := by
  have hblank : ',' ∉ g.gap .beforeClose := not_mem_of_blanks (by decide) hclose
  have hclosing : namedEntries (g.gap .beforeClose) = [] :=
    namedEntries_of_not_mem hblank (namedEntry?_blanks hclose)
  have hcomma {e : NamedImport} {j : Nat} (h : e.Fits (g.entry j)) : ',' ∉ e.text (g.entry j) :=
    NamedImport.not_mem_text h (by decide) (by decide) (by decide)
  fun_induction listText g i es with
  | case1 => exact hclosing
  | case2 i e =>
      have he : e.Fits (g.entry i) := hes e i List.mem_cons_self
      have hread := NamedImport.namedEntry?_text he
      cases g.comma with
      | true =>
          refine (namedEntries_append_cons (hcomma he) hread (g.gap .beforeClose)).trans ?_
          rw [hclosing]
          rfl
      | false =>
          have hsame : namedEntry? (e.text (g.entry i) ++ g.gap .beforeClose) =
              namedEntry? (e.text (g.entry i)) := namedEntry?_congr (trim_append_gap _ hclose)
          exact namedEntries_of_not_mem (List.not_mem_append (hcomma he) hblank)
            (hsame.trans hread)
  | case3 i e e' es ih =>
      have he : e.Fits (g.entry i) := hes e i List.mem_cons_self
      rw [namedEntries_append_cons (hcomma he) (NamedImport.namedEntry?_text he),
        ih fun d j h => hes d j (List.mem_cons_of_mem _ h)]
      rfl

/-! ## What a clause binds -/

theorem namespaceName?_namespace {front gap : List Char} (hfront : ∀ c ∈ front, isBlank c = true)
    (hgap : ∀ c ∈ gap, isBlank c = true) (hne : gap ≠ []) (name : Identifier) :
    namespaceName? (front ++ (asWord ++ (gap ++ name))) = some (String.ofList name) := by
  obtain ⟨c, gap, rfl⟩ := List.exists_cons_of_ne_nil hne
  have hname := words_append name.ne_nil name.isBlank_eq_false []
  have hread := namespaceName?_as hfront (hgap c List.mem_cons_self) (gap ++ name)
  rw [← List.cons_append, words_blanks_append hgap] at hread
  refine hread.trans ?_
  rw [List.append_nil, List.takeWhile_nil, List.append_nil] at hname
  rw [hname]
  rfl

theorem ofClause_list (inside : List Char) :
    ofClause ('{' :: (inside ++ ['}'])) = { named := .ofList (namedEntries inside) } := by
  have hsplit : splitBraces ([] ++ '{' :: (inside ++ '}' :: [])) = ([] ++ [], some inside) :=
    splitBraces_append List.not_mem_nil inside List.not_mem_nil
  rw [List.nil_append] at hsplit
  rw [ofClause, hsplit]
  rfl

namespace BindingClause

variable {c : BindingClause} {g : ClauseLayout}

theorem namedEntries_inside (hg : c.Fits g) :
    namedEntries (g.gap .afterOpen ++ listText g 0 c.entries) = readFrom g 0 c.entries := by
  rw [namedEntries_blanks_append (hg.blanks .afterOpen)]
  refine namedEntries_listText (hg.blanks .beforeClose) fun e j hmem => hg.entries j e ?_
  exact List.mem_zipIdx_iff_getElem?.1 hmem

theorem addPart_default (name : Identifier) {gap : List Char}
    (hgap : ∀ d ∈ gap, isBlank d = true) (b : Bindings) :
    addPart b (name ++ gap) = { b with default := some (String.ofList name) } :=
  addPart_identifier name.2 (List.forall_mem_nil _) hgap b

theorem addPart_namespaced {name : Identifier} (hg : c.Fits g) (h : c.others = .namespaced name)
    {front : List Char} (hfront : ∀ d ∈ front, isBlank d = true) (b : Bindings) :
    addPart b (front ++ (Others.namespaced name).text g) =
      { b with namespaceName := some (String.ofList name) } := by
  rw [Others.text, addPart_star hfront, namespaceName?_namespace (hg.blanks .afterStar)
    (hg.blanks .afterAs) (hg.afterAs name h)]
  rfl

theorem not_mem_namespaced (hg : c.Fits g) (name : Identifier) {d : Char}
    (hd : isNameChar d = false) (hblank : isBlank d = false) (hstar : d ∉ '*' :: asWord) :
    d ∉ (Others.namespaced name).text g := by
  have hgap (p : ClauseGap) : d ∉ g.gap p := not_mem_of_blanks hblank (hg.blanks p)
  rw [List.mem_cons, not_or] at hstar
  simp [Others.text, hgap, hstar, not_mem_of_isIdentifier name.2 hd]

/-- The default name and the namespace are read in every layout. -/
theorem ofClause_text (hg : c.Fits g) :
    ofClause (c.text g) = { c.bindings with named := .ofList (readFrom g 0 c.entries) } := by
  have hgap {p : ClauseGap} {d : Char} (hd : isBlank d = false) : d ∉ g.gap p :=
    not_mem_of_blanks hd (hg.blanks p)
  have hname (name : Identifier) {d : Char} (hd : isNameChar d = false) : d ∉ name.1 :=
    not_mem_of_isIdentifier name.2 hd
  have hfirst (name : Identifier) {d : Char} (hd : isNameChar d = false)
      (hblank : isBlank d = false) : d ∉ name.1 ++ g.gap .afterName :=
    List.not_mem_append (hname name hd) (hgap hblank)
  have hinside := namedEntries_inside hg
  obtain ⟨default, others⟩ := c
  cases default with
  | none =>
      cases others with
      | nothing => exact ofClause_one List.not_mem_nil List.not_mem_nil
      | namespaced name =>
          have hnot {d : Char} := not_mem_namespaced (d := d) hg name
          refine (ofClause_one (hnot (by decide) (by decide) (by decide))
            (hnot (by decide) (by decide) (by decide))).trans ?_
          exact addPart_namespaced hg rfl (List.forall_mem_nil _) {}
      | list es => rw [← hinside]; exact ofClause_list _
  | some first =>
      cases others with
      | nothing =>
          refine (ofClause_one (hname first (by decide)) (hname first (by decide))).trans ?_
          have hadd := addPart_default first (List.forall_mem_nil _) {}
          rwa [List.append_nil] at hadd
      | namespaced name =>
          have hnot {d : Char} := not_mem_namespaced (d := d) hg name
          refine (ofClause_two (hfirst first (by decide) (by decide))
            (List.not_mem_append (hgap (by decide)) (hnot (by decide) (by decide) (by decide)))
            (hfirst first (by decide) (by decide))
            (List.not_mem_append (hgap (by decide))
              (hnot (by decide) (by decide) (by decide)))).trans ?_
          rw [addPart_default first (hg.blanks .afterName),
            addPart_namespaced hg rfl (hg.blanks .afterComma)]
          rfl
      | list es =>
          have hblanks : ∀ d ∈ g.gap .afterComma ++ [], isBlank d = true := by
            rw [List.append_nil]
            exact hg.blanks .afterComma
          have hsecond : ',' ∉ g.gap .afterComma ++ [] := not_mem_of_blanks (by decide) hblanks
          refine (ofClause_braces (hfirst first (by decide) (by decide))
            (hfirst first (by decide) (by decide)) (hgap (by decide)) List.not_mem_nil _).trans ?_
          rw [splitOn_of_not_mem hsecond, List.foldl_cons, List.foldl_nil,
            addPart_default first (hg.blanks .afterName), addPart_blanks hblanks, ← hinside]
          rfl

/-! ## Layouts of one clause -/

theorem mem_readFrom_iff {p : String × String} : p ∈ readFrom g 0 c.entries ↔
    ∃ (i : Nat) (e : NamedImport), c.entries[i]? = some e ∧ e.read (g.entry i) = p := by
  rw [readFrom, List.mem_map]
  constructor
  · rintro ⟨⟨e, i⟩, hmem, hread⟩
    exact ⟨i, e, List.mem_zipIdx_iff_getElem?.1 hmem, hread⟩
  · rintro ⟨i, e, hget, hread⟩
    exact ⟨(e, i), (List.mk_mem_zipIdx_iff_getElem?).2 hget, hread⟩

theorem readFrom_of_spaced (hg : c.Fits g) (h : c.Spaced g) :
    readFrom g 0 c.entries = c.entries.map NamedImport.pair := by
  have hread : readFrom g 0 c.entries = c.entries.zipIdx.map fun p => p.1.pair := by
    refine List.map_congr_left fun ⟨e, i⟩ hmem => ?_
    have hget : c.entries[i]? = some e := List.mem_zipIdx_iff_getElem?.1 hmem
    exact NamedImport.read_of_spaced (hg.entries i e hget) (h i e hget)
  have hpairs := List.map_map (f := Prod.fst) (g := NamedImport.pair) (l := c.entries.zipIdx)
  rw [List.zipIdx_map_fst] at hpairs
  exact hread.trans hpairs.symm

/-- How often a clause imports the name `as`. -/
def countAs (c : BindingClause) : Nat :=
  (c.entries.map fun e => e.imported.1).count asWord

theorem two_le_countAs {i j : Nat} {e e' : NamedImport} (hlt : i < j)
    (hi : c.entries[i]? = some e) (hj : c.entries[j]? = some e') (he : e.imported.1 = asWord)
    (he' : e'.imported.1 = asWord) : 2 ≤ c.countAs := by
  have hget {k : Nat} {d : NamedImport} (hk : c.entries[k]? = some d) (hd : d.imported.1 = asWord) :
      (c.entries.map fun e => e.imported.1)[k]? = some asWord := by
    rw [List.getElem?_map, hk, Option.map_some, hd]
  obtain ⟨hi, hasi⟩ := List.getElem?_eq_some_iff.1 (hget hi he)
  obtain ⟨hj, hasj⟩ := List.getElem?_eq_some_iff.1 (hget hj he')
  have htwice : List.Duplicate asWord (c.entries.map fun e => e.imported.1) :=
    List.duplicate_iff_exists_distinct_get.2 ⟨⟨i, hi⟩, ⟨j, hj⟩, hlt, hasi.symm, hasj.symm⟩
  exact (List.duplicate_iff_sublist.1 htwice).count_le asWord

/-- A named import that is not read as it is meant changes the names that are imported. -/
theorem ofList_readFrom_ne (hg : c.Fits g) (hcount : c.countAs ≤ 1) (h : ¬ c.Spaced g) :
    NameMap.ofList (readFrom g 0 c.entries) ≠ .ofList (c.entries.map NamedImport.pair) := by
  intro hsame
  have hnames (name : String) : (∃ p ∈ readFrom g 0 c.entries, p.1 = name) ↔
      ∃ e ∈ c.entries, e.pair.1 = name := by
    have hname : name ∈ (NameMap.ofList (readFrom g 0 c.entries)).entries.map Prod.fst ↔
        name ∈ (readFrom g 0 c.entries).map Prod.fst := NameMap.mem_names_ofList_iff
    rw [hsame, NameMap.mem_names_ofList_iff] at hname
    simpa using hname.symm
  obtain ⟨i, e, hget, hspaced⟩ : ∃ (i : Nat) (e : NamedImport),
      c.entries[i]? = some e ∧ ¬ e.Spaced (g.entry i) := by
    simpa [Spaced] using h
  have hplain {j : Nat} {d : NamedImport} (hd : c.entries[j]? = some d) :
      ¬ NamedImport.Garbled (d.read (g.entry j)) := by
    rintro ⟨b, hb, hblank⟩
    obtain ⟨e', -, hname⟩ :=
      (hnames _).1 ⟨_, mem_readFrom_iff.2 ⟨j, d, hd, rfl⟩, rfl⟩
    exact NamedImport.not_garbled_pair e' ⟨b, hname ▸ hb, hblank⟩
  -- The entry is `as` behind a mark that is read as its name, and no other one is read as `as`.
  obtain ⟨-, has⟩ := (NamedImport.read_of_not_spaced (hg.entries i e hget) hspaced).resolve_left
    (hplain hget)
  obtain ⟨p, hp, hname⟩ := (hnames e.pair.1).2 ⟨e, List.mem_of_getElem? hget, rfl⟩
  obtain ⟨j, d, hd, rfl⟩ := mem_readFrom_iff.1 hp
  have hname : (d.read (g.entry j)).1 = String.ofList asWord := by rw [hname, NamedImport.pair, has]
  by_cases hd' : d.Spaced (g.entry j)
  · rw [NamedImport.read_of_spaced (hg.entries j d hd) hd', NamedImport.pair] at hname
    have hd'' : d.imported.1 = asWord := String.ofList_inj.1 hname
    rcases Nat.lt_trichotomy i j with hlt | rfl | hlt
    · exact absurd (two_le_countAs hlt hget hd has hd'') (by omega)
    · obtain rfl := Option.some.inj (hd.symm.trans hget)
      exact hspaced hd'
    · exact absurd (two_le_countAs hlt hd hget hd'' has) (by omega)
  · obtain ⟨htype, -⟩ := (NamedImport.read_of_not_spaced (hg.entries j d hd) hd').resolve_left
      (hplain hd)
    rw [htype] at hname
    exact absurd (String.ofList_inj.1 hname) (by decide)

/-- The import of a specifier under a clause in the layout `g`. -/
def written (c : BindingClause) (specifier : String) (g : ClauseLayout) : Import :=
  .of specifier (some (String.ofList (c.text g)))

theorem bindings_written (hg : c.Fits g) (specifier : String) :
    (c.written specifier g).bindings =
      { c.bindings with named := .ofList (readFrom g 0 c.entries) } := by
  rw [← ofClause_text hg]
  exact congrArg ofClause String.toList_ofList

theorem bindings_written_of_spaced (hg : c.Fits g) (h : c.Spaced g) (specifier : String) :
    (c.written specifier g).bindings = c.bindings := by
  rw [bindings_written hg, readFrom_of_spaced hg h]
  rfl

theorem bindings_written_eq_iff (hg : c.Fits g) (hcount : c.countAs ≤ 1) (specifier : String) :
    (c.written specifier g).bindings = c.bindings ↔ c.Spaced g := by
  refine ⟨fun hsame => ?_, fun h => bindings_written_of_spaced hg h specifier⟩
  rw [bindings_written hg] at hsame
  by_contra h
  exact ofList_readFrom_ne hg hcount h (congrArg Bindings.named hsame)

/-- The default name and the namespace of a clause do not depend on its layout. Its bindings are the
same in two layouts that tell the words of its named imports apart by spaces; and beside such a
layout any other one changes them, unless `as` is imported twice. -/
theorem bindings_written_layouts (c : BindingClause) (specifier : String) {g g' : ClauseLayout}
    (hg : c.Fits g) (hg' : c.Fits g') :
    (c.written specifier g).bindings.default = (c.written specifier g').bindings.default ∧
      (c.written specifier g).bindings.namespaceName =
        (c.written specifier g').bindings.namespaceName ∧
      (c.Spaced g → c.Spaced g' →
        (c.written specifier g).bindings = (c.written specifier g').bindings) ∧
      (c.countAs ≤ 1 → c.Spaced g →
        ((c.written specifier g).bindings = (c.written specifier g').bindings ↔ c.Spaced g')) := by
  refine ⟨?_, ?_, fun h h' => ?_, fun hcount h => ?_⟩
  · rw [bindings_written hg, bindings_written hg']
  · rw [bindings_written hg, bindings_written hg']
  · rw [bindings_written_of_spaced hg h, bindings_written_of_spaced hg' h']
  · rw [bindings_written_of_spaced hg h, eq_comm]
    exact bindings_written_eq_iff hg' hcount specifier

/-! ## A space in every gap -/

/-- A space behind every comma and every word, and inside braces. -/
def singleSpaced : ClauseLayout where
  gap
    | .afterName | .entry _ .back => []
    | .entry i .front => if i = 0 then [] else [' ']
    | _ => [' ']
  comma := false

/-- A tab in front of every `as` in braces. -/
def tabbed : ClauseLayout where
  gap
    | .entry _ .beforeAs => ['\t']
    | p => singleSpaced.gap p
  comma := false

theorem fits_of_ne_nil (hblanks : ∀ p, ∀ d ∈ g.gap p, isBlank d = true)
    (hafterAs : g.gap .afterAs ≠ [])
    (hentry : ∀ i, ∀ p ∈ [EntryGap.afterType, .beforeAs, .afterAs], g.entry i p ≠ [])
    (c : BindingClause) : c.Fits g where
  blanks := hblanks
  afterAs _ _ := hafterAs
  entries i _ _ := {
    blanks p := hblanks (.entry i p)
    afterType _ := hentry i .afterType (by decide)
    beforeAs _ := hentry i .beforeAs (by decide)
    afterAs _ := hentry i .afterAs (by decide) }

theorem mem_singleSpaced {p : ClauseGap} {d : Char} (h : d ∈ singleSpaced.gap p) : d = ' ' := by
  have hgap : singleSpaced.gap p ⊆ [' '] := by
    dsimp only [singleSpaced]
    split
    · exact List.nil_subset _
    · exact List.nil_subset _
    · split
      · exact List.nil_subset _
      · exact List.Subset.refl _
    · exact List.Subset.refl _
  exact List.mem_singleton.1 (hgap h)

theorem mem_tabbed {p : ClauseGap} {d : Char} (h : d ∈ tabbed.gap p) : d = ' ' ∨ d = '\t' := by
  dsimp only [tabbed] at h
  split at h
  · exact .inr (List.mem_singleton.1 h)
  · exact .inl (mem_singleSpaced h)

theorem fits_singleSpaced (c : BindingClause) : c.Fits singleSpaced := by
  refine fits_of_ne_nil (fun p d hd => ?_) (List.cons_ne_nil ' ' []) (fun i p hp => ?_) c
  · rw [mem_singleSpaced hd]
    decide
  · cases p with
    | front => simp at hp
    | back => simp at hp
    | _ => exact List.cons_ne_nil ' ' []

theorem fits_tabbed (c : BindingClause) : c.Fits tabbed := by
  refine fits_of_ne_nil (fun p d hd => ?_) (List.cons_ne_nil ' ' []) (fun i p hp => ?_) c
  · rcases mem_tabbed hd with rfl | rfl <;> decide
  · cases p with
    | front => simp at hp
    | back => simp at hp
    | beforeAs => exact List.cons_ne_nil '\t' []
    | _ => exact List.cons_ne_nil ' ' []

/-- The clause that gives the import `a` the name `b`. -/
def aAsB : BindingClause :=
  ⟨none, .list [⟨⟨['a'], by decide⟩, some ⟨['b'], by decide⟩, false⟩]⟩

theorem spaced_aAsB : aAsB.Spaced singleSpaced := by
  intro i e he
  obtain ⟨rfl, rfl⟩ : i = 0 ∧ e = ⟨⟨['a'], by decide⟩, some ⟨['b'], by decide⟩, false⟩ := by
    cases i with
    | zero => exact ⟨rfl, (Option.some.inj he).symm⟩
    | succ i => cases he
  exact ⟨fun h => (by cases h), fun _ => ⟨rfl, rfl⟩, fun _ _ h => absurd h (by decide)⟩

theorem not_spaced_aAsB : ¬ aAsB.Spaced tabbed := fun h =>
  absurd ((h 0 _ rfl).as rfl).1 (by decide)

theorem bindings_written_tabbed :
    aAsB.Fits singleSpaced ∧ aAsB.Fits tabbed ∧
      (aAsB.written "x" singleSpaced).bindings.default =
        (aAsB.written "x" tabbed).bindings.default ∧
      (aAsB.written "x" singleSpaced).bindings.namespaceName =
        (aAsB.written "x" tabbed).bindings.namespaceName ∧
      (aAsB.written "x" singleSpaced).bindings ≠ (aAsB.written "x" tabbed).bindings := by
  have hg := fits_singleSpaced aAsB
  have hg' := fits_tabbed aAsB
  obtain ⟨hdefault, hnamespace, -, hiff⟩ := bindings_written_layouts aAsB "x" hg hg'
  exact ⟨hg, hg', hdefault, hnamespace, fun hsame =>
    not_spaced_aAsB ((hiff (by decide) spaced_aAsB).1 hsame)⟩

/-- Runs of spaces, tabs and line feeds between the tokens of a clause are not alike. -/
theorem not_forall_layouts_same :
    ¬ ∀ (c : BindingClause) (specifier : String) (g g' : ClauseLayout), c.Fits g → c.Fits g' →
      (∀ p, ∀ d ∈ g.gap p ++ g'.gap p, d ∈ [' ', '\t', '\n']) →
      (∀ p, g.gap p = [] ↔ g'.gap p = []) → g.comma = g'.comma →
      (c.written specifier g).bindings = (c.written specifier g').bindings := by
  intro h
  have hblanks : ∀ p, ∀ d ∈ singleSpaced.gap p ++ tabbed.gap p, d ∈ [' ', '\t', '\n'] := by
    intro p d hd
    rcases List.mem_append.1 hd with hd | hd
    · rw [mem_singleSpaced hd]
      decide
    · rcases mem_tabbed hd with rfl | rfl <;> decide
  have hempty (p : ClauseGap) : singleSpaced.gap p = [] ↔ tabbed.gap p = [] := by
    dsimp only [tabbed]
    split
    · exact iff_of_false (List.cons_ne_nil ' ' []) (List.cons_ne_nil '\t' [])
    · exact Iff.rfl
  have hsame := h aAsB "x" singleSpaced tabbed (fits_singleSpaced _) (fits_tabbed _) hblanks hempty
    rfl
  rw [bindings_written_of_spaced (fits_singleSpaced _) spaced_aAsB] at hsame
  exact not_spaced_aAsB ((bindings_written_eq_iff (fits_tabbed _) (by decide) "x").1 hsame.symm)

end BindingClause

end ScopedStyles.Bindings
