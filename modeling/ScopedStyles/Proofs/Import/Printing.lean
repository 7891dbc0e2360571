import ScopedStyles.Proofs.Import.BindingClauses
/-!
# Printed clauses

A clause that is printed with one space behind every comma and every word is read as it was, also
where names are words of the syntax. Of several imports of one name the last one counts.
-/

namespace ScopedStyles.Bindings

open Text Statement

/-! ## Printing -/

/-- A named import as `a`, `a as b`, `type a` or `type a as b`. -/
def NamedImport.print (e : NamedImport) : List Char :=
  let names := match e.renamed with
    | none => e.imported.1
    | some name => e.imported ++ [' ', 'a', 's', ' '] ++ name
  if e.marked then ['t', 'y', 'p', 'e', ' '] ++ names else names

def Others.print : Others → List Char
  | nothing => []
  | namespaced name => ['*', ' ', 'a', 's', ' '] ++ name
  | list entries =>
    ['{', ' '] ++ [',', ' '].intercalate (entries.map NamedImport.print) ++ [' ', '}']

/-- A clause as `d`, `* as n`, `{ … }`, `d, * as n` or `d, { … }`. -/
def BindingClause.print (c : BindingClause) : List Char :=
  match c.default, c.others with
  | none, others => others.print
  | some name, .nothing => name
  | some name, others => name ++ [',', ' '] ++ others.print

/-! ## The printed layout -/

theorem NamedImport.text_singleSpaced (e : NamedImport) (i : Nat) :
    e.text (BindingClause.singleSpaced.entry i) =
      (if i = 0 then [] else [' ']) ++ e.print := by
  have hcore : e.core (BindingClause.singleSpaced.entry i) = e.print := by
    obtain ⟨imported, renamed, marked⟩ := e
    cases renamed <;> cases marked <;>
      simp [core, body, behind, print, typeWord, asWord, ClauseLayout.entry,
        BindingClause.singleSpaced]
  have hback : BindingClause.singleSpaced.entry i .back = [] := rfl
  rw [text, hcore, hback, List.append_nil]
  rfl

theorem listText_singleSpaced (i : Nat) (e : NamedImport) (es : List NamedImport) :
    listText BindingClause.singleSpaced i (e :: es) =
      (if i = 0 then [] else [' ']) ++
        [',', ' '].intercalate ((e :: es).map NamedImport.print) ++ [' '] := by
  induction es generalizing i e with
  | nil =>
      rw [listText, NamedImport.text_singleSpaced, List.map_singleton, List.intercalate_singleton]
      rfl
  | cons e' es ih =>
      rw [listText, ih, NamedImport.text_singleSpaced, if_neg (Nat.succ_ne_zero i), List.map_cons,
        List.map_cons, List.map_cons, List.intercalate_cons_cons]
      simp

namespace BindingClause

theorem print_others (o : Others) : o.text singleSpaced = o.print := by
  cases o with
  | nothing => rfl
  | namespaced name => rfl
  | list es =>
      cases es with
      | nil => rfl
      | cons e es =>
          rw [Others.text, listText_singleSpaced]
          simp [Others.print, singleSpaced]

theorem print_eq_text (c : BindingClause) : c.print = c.text singleSpaced := by
  obtain ⟨default, others⟩ := c
  cases default with
  | none => exact (print_others others).symm
  | some name =>
      cases others with
      | nothing => rfl
      | namespaced n => simp [print, text, ← print_others, singleSpaced]
      | list es => simp [print, text, ← print_others, singleSpaced]

theorem spaced_singleSpaced {c : BindingClause} (htype : ∀ e ∈ c.entries,
    e.imported.1 = typeWord → e.renamed.isSome = true → e.marked = true) :
    c.Spaced singleSpaced := by
  intro i e he
  refine ⟨fun _ => rfl, fun _ => ⟨rfl, rfl⟩, fun hmarked hrenamed hname => ?_⟩
  rw [htype e (List.mem_of_getElem? he) hname hrenamed] at hmarked
  cases hmarked

/-- Of several imports of one name the last one counts. -/
theorem mem_named_bindings_iff (c : BindingClause) {p : String × String} :
    p ∈ c.bindings.named.entries ↔ ∃ front e back, c.entries = front ++ e :: back ∧
      e.pair = p ∧ ∀ e' ∈ back, e'.imported ≠ e.imported := by
  have hname (e : NamedImport) (back : List NamedImport) :
      e.pair.1 ∉ (back.map NamedImport.pair).map Prod.fst ↔
        ∀ e' ∈ back, e'.imported ≠ e.imported := by
    rw [List.map_map, List.mem_map]
    simp [NamedImport.pair, Subtype.ext_iff, String.ofList_inj]
  rw [bindings, NameMap.mem_ofList_iff]
  constructor
  · rintro ⟨front, back, hsplit, hback⟩
    obtain ⟨front, rest, hentries, -, hrest⟩ := List.map_eq_append_iff.1 hsplit
    obtain ⟨e, back, rfl, rfl, rfl⟩ := List.map_eq_cons_iff.1 hrest
    exact ⟨front, e, back, hentries, rfl, (hname e back).1 hback⟩
  · rintro ⟨front, e, back, hentries, rfl, hback⟩
    refine ⟨front.map NamedImport.pair, back.map NamedImport.pair, ?_, (hname e back).2 hback⟩
    rw [hentries, List.map_append, List.map_cons]

/-- A clause is read as it was printed. -/
theorem bindings_print (c : BindingClause) (specifier : String) (htype : ∀ e ∈ c.entries,
    e.imported.1 = typeWord → e.renamed.isSome = true → e.marked = true) :
    let i := Import.of specifier (some (String.ofList c.print))
    i.specifier = specifier ∧
      i.bindings.default = c.default.map (fun name => String.ofList name) ∧
      i.bindings.namespaceName = c.others.namespaceName ∧
      ∀ imported name, (imported, name) ∈ i.bindings.named.entries ↔
        ∃ front e back, c.entries = front ++ e :: back ∧ e.pair = (imported, name) ∧
          ∀ e' ∈ back, e'.imported ≠ e.imported := by
  have hbindings :=
    bindings_written_of_spaced (fits_singleSpaced c) (spaced_singleSpaced htype) specifier
  rw [written, ← print_eq_text] at hbindings
  refine ⟨rfl, ?_, ?_, fun imported name => ?_⟩
  · rw [hbindings]
    rfl
  · rw [hbindings]
    rfl
  · rw [hbindings]
    exact mem_named_bindings_iff c

/-- The clause `d, { as, type as, type type as from, x, x as y }`. -/
def contextual : BindingClause :=
  let x : Identifier := ⟨['x'], by decide⟩
  let as : Identifier := ⟨asWord, by decide⟩
  let type : Identifier := ⟨typeWord, by decide⟩
  ⟨some ⟨['d'], by decide⟩, .list [⟨as, none, false⟩, ⟨as, none, true⟩,
    ⟨type, some ⟨['f', 'r', 'o', 'm'], by decide⟩, true⟩, ⟨x, none, false⟩,
    ⟨x, some ⟨['y'], by decide⟩, false⟩]⟩

theorem bindings_print_contextual :
    (∀ e ∈ contextual.entries, e.imported.1 = typeWord → e.renamed.isSome = true →
      e.marked = true) ∧
      String.ofList contextual.print =
        "d, \x7b as, type as, type type as from, x, x as y \x7d" ∧
      let i := Import.of "x" (some (String.ofList contextual.print))
      i.specifier = "x" ∧ i.bindings.default = some "d" ∧ i.bindings.namespaceName = none ∧
        ("as", "as") ∈ i.bindings.named.entries ∧ ("type", "from") ∈ i.bindings.named.entries ∧
        ("x", "y") ∈ i.bindings.named.entries ∧ ("x", "x") ∉ i.bindings.named.entries := by
  have htype : ∀ e ∈ contextual.entries, e.imported.1 = typeWord → e.renamed.isSome = true →
      e.marked = true := by decide
  obtain ⟨hspecifier, hdefault, hnamespace, hnamed⟩ := bindings_print contextual "x" htype
  have hxy := (hnamed "x" "y").2 ⟨contextual.entries.take 4, _, [], rfl, rfl, by simp⟩
  refine ⟨htype, by decide, hspecifier, hdefault, hnamespace, ?_, ?_, hxy, fun hxx => ?_⟩
  · exact (hnamed "as" "as").2 ⟨contextual.entries.take 1, _, contextual.entries.drop 2, rfl, rfl,
      by decide⟩
  · exact (hnamed "type" "from").2 ⟨contextual.entries.take 2, _, contextual.entries.drop 3, rfl,
      rfl, by decide⟩
  · exact absurd (NameMap.eq_of_mem hxy hxx rfl) (by decide)

end BindingClause

end ScopedStyles.Bindings
