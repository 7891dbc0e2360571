import ScopedStyles.FileSystem.Tree
import ScopedStyles.Except
import ScopedStyles.Proofs.Path.Parents
/-!
# Places in a tree without links

Where nothing is a link, a path leads where its names say: each name one place further in, and `..`
one place out. What a path says beside its names, and how it is written, does not matter as long as
it leads to a directory. So the parent of a path to a directory leads to a directory again, and a
path that is joined to a directory is followed from the place of the directory.
-/

namespace ScopedStyles

namespace FileSystem

variable (fs : FileSystem)

/-- The file that a path leads to, if there is one, in its canonical form. -/
def file? (p : Path) : Option Path :=
  if fs.isFile p then some (fs.canonical p) else none

theorem map_canonical_filter (paths : List Path) :
    (paths.filter fs.isFile).map fs.canonical = paths.filterMap fs.file? := by
  induction paths with
  | nil => rfl
  | cons p paths ih =>
      by_cases hfile : fs.isFile p = true
      · have hsome : fs.file? p = some (fs.canonical p) := if_pos hfile
        rw [List.filter_cons_of_pos hfile, List.map_cons, ih, List.filterMap_cons, hsome]
      · have hnone : fs.file? p = none := if_neg hfile
        rw [List.filter_cons_of_neg hfile, ih, List.filterMap_cons, hnone]

end FileSystem

/-- Whether a node is a symbolic link. -/
def FileNode.isLink : FileNode → Bool
  | .link _ => true
  | _ => false

namespace FileTree

variable {t : FileTree} {links : Nat} {here l l' : Location} {name : List UInt8}
  {rest : List (List UInt8)} {p q : Path}

/-- Nothing in the tree is a symbolic link. -/
def Linkless (t : FileTree) : Prop :=
  ∀ l target, t.node? l ≠ some (.link target)

theorem linkless_of_nodes (h : t.nodes.all (fun e => !e.2.isLink) = true) : t.Linkless := by
  intro l target hnode
  rw [node?] at hnode
  split at hnode
  · cases hnode
  · obtain ⟨front, back, hnodes, -⟩ := List.lookup_eq_some_iff.1 hnode
    have hlink := List.all_eq_true.1 h (l, .link target) (by simp [hnodes])
    cases hlink

/-- Where a name leads from a place. -/
def follow (here : Location) (name : List UInt8) : Location :=
  if name = [Path.dot, Path.dot] then here.tail else name :: here

/-- Where the names of a path say that it leads. -/
def place (t : FileTree) (p : Path) : Location :=
  p.components.2.foldl follow (start p t.current)

/-- A path leads to a directory. The empty path stands for the current one. -/
def LeadsTo (t : FileTree) (p : Path) (l : Location) : Prop :=
  t.node? l = some .directory ∧ (p.bytes = [] ∧ l = t.current ∨ t.locate p = .ok l)

theorem start_congr (h : q.isAbsolute = p.isAbsolute) (here : Location) :
    start q here = start p here := by
  rw [start, start, h]

theorem steps_of_empty (h : p.bytes = []) : steps p = [[]] := by
  rw [steps, h]
  rfl

/-! ## Following names -/

theorem not_trivial (hleads : Path.leads name = true) :
    ¬ (name.isEmpty || decide (name = [Path.dot])) = true := by
  rw [Bool.or_eq_true, decide_eq_true_iff, List.isEmpty_iff, not_or]
  exact Path.leads_iff.1 hleads

theorem walk_nil : t.walk links here [] = .ok here := by
  rw [walk]

theorem node?_of_walk_cons (h : t.walk links here (name :: rest) = .ok l) :
    t.node? here = some .directory := by
  rw [walk] at h
  split at h
  · cases h
  · cases h
  · cases h
  · next hnode => exact hnode

theorem node?_of_walk {names : List (List UInt8)} (hl : t.node? l = some .directory)
    (h : t.walk links here names = .ok l) : t.node? here = some .directory := by
  cases names with
  | nil =>
      obtain rfl := Except.ok.inj (walk_nil.symm.trans h)
      exact hl
  | cons name names => exact node?_of_walk_cons h

theorem walk_trivial (hhere : t.node? here = some .directory)
    (hname : name = [] ∨ name = [Path.dot]) :
    t.walk links here (name :: rest) = t.walk links here rest := by
  rw [walk, hhere]
  rcases hname with rfl | rfl <;> rfl

theorem walk_out (hhere : t.node? here = some .directory) :
    t.walk links here ([Path.dot, Path.dot] :: rest) = t.walk links here.tail rest := by
  rw [walk, hhere]
  rfl

/-- Whether a name is the name of something in a directory that is no link. -/
def holds (t : FileTree) (here : Location) (name : List UInt8) : Bool :=
  Path.leads name && name != [Path.dot, Path.dot] && decide (name.length ≤ maxName) &&
    (t.node? (name :: here)).any fun node => !node.isLink

theorem walk_in (hhere : t.node? here = some .directory) (hname : t.holds here name = true) :
    t.walk links here (name :: rest) = t.walk links (name :: here) rest := by
  rw [holds, Bool.and_eq_true, Bool.and_eq_true, Bool.and_eq_true, bne_iff_ne, decide_eq_true_iff,
    Option.any_eq_true] at hname
  obtain ⟨⟨⟨hleads, hforwards⟩, hlength⟩, node, hnode, hlink⟩ := hname
  rw [walk, hhere]
  simp only [if_neg (not_trivial hleads), if_neg hforwards, if_neg (Nat.not_lt.2 hlength), hnode]
  cases node with
  | file content => rfl
  | directory => rfl
  | link target => cases hlink

/-- An empty name asks for nothing that the next name does not ask for. -/
theorem walk_empty (hrest : rest ≠ []) :
    t.walk links here ([] :: rest) = t.walk links here rest := by
  obtain ⟨name, names, rfl⟩ := List.exists_cons_of_ne_nil hrest
  by_cases hhere : t.node? here = some .directory
  · exact walk_trivial hhere (.inl rfl)
  · rw [walk, walk]
    split
    · rfl
    · rfl
    · rfl
    · next hnode => exact absurd hnode hhere

theorem walk_append (ht : t.Linkless) (front back : List (List UInt8)) :
    t.walk links here (front ++ back) =
      (t.walk links here front).bind fun l => t.walk links l back := by
  induction front generalizing here with
  | nil =>
      rw [walk_nil]
      rfl
  | cons name front ih =>
      rw [List.cons_append, walk, walk]
      split
      · rfl
      · rfl
      · rfl
      · split
        · exact ih
        · split
          · exact ih
          · split
            · rfl
            · split
              · rfl
              · next target hnode => exact absurd hnode (ht _ target)
              · exact ih

theorem walk_cons (ht : t.Linkless) (name : List UInt8) (rest : List (List UInt8)) :
    t.walk links here (name :: rest) =
      (t.walk links here [name]).bind fun l => t.walk links l rest :=
  walk_append ht [name] rest

/-- A name that leads anywhere leads to the place that it says. -/
theorem walk_follow (ht : t.Linkless) (hleads : Path.leads name = true)
    (h : t.walk links here (name :: rest) = .ok l) :
    t.walk links (follow here name) rest = .ok l := by
  have hhere := node?_of_walk_cons h
  rw [walk, hhere] at h
  simp only [if_neg (not_trivial hleads)] at h
  rw [follow]
  split at h
  · next hout => rwa [if_pos hout]
  · next hin =>
      rw [if_neg hin]
      split at h
      · cases h
      · split at h
        · cases h
        · next target hnode => exact absurd hnode (ht _ target)
        · exact h

theorem eq_foldl_follow (ht : t.Linkless) {names : List (List UInt8)}
    (hnames : ∀ name ∈ names, Path.leads name = true)
    (h : t.walk links here names = .ok l) : l = names.foldl follow here := by
  induction names generalizing here with
  | nil => exact (Except.ok.inj (walk_nil.symm.trans h)).symm
  | cons name names ih =>
      obtain ⟨hleads, hrest⟩ := List.forall_mem_cons.1 hnames
      exact ih hrest (walk_follow ht hleads h)

/-- On the way to a directory, names that lead nowhere can be left out. -/
theorem walk_filter_iff (ht : t.Linkless) (hl : t.node? l = some .directory)
    (names : List (List UInt8)) :
    t.walk links here (names.filter Path.leads) = .ok l ↔ t.walk links here names = .ok l := by
  induction names generalizing here with
  | nil => rfl
  | cons name names ih =>
      by_cases hname : Path.leads name = true
      · rw [List.filter_cons_of_pos hname, walk_cons ht name (names.filter Path.leads),
          walk_cons ht name names]
        cases t.walk links here [name] with
        | error fault => rfl
        | ok there => exact ih
      · have htrivial : name = [] ∨ name = [Path.dot] := by
          rw [Path.leads_iff] at hname
          tauto
        rw [List.filter_cons_of_neg hname, ih]
        constructor
        · intro h
          rwa [walk_trivial (node?_of_walk hl h) htrivial]
        · intro h
          rwa [walk_trivial (node?_of_walk_cons h) htrivial] at h

theorem filter_steps (p : Path) : (steps p).filter Path.leads = p.components.2 :=
  (Path.components_names p).symm

/-! ## Paths to directories -/

theorem locate_eq_ok_iff :
    t.locate p = .ok l ↔ 0 ∉ p.bytes ∧ p.bytes ≠ [] ∧ p.bytes.length ≤ maxPath ∧
      t.walk maxLinks (start p t.current) (steps p) = .ok l := by
  simp only [locate, List.contains_iff_mem, List.isEmpty_iff]
  split
  · next hnul => exact iff_of_false (by simp) fun h => h.1 hnul
  · next hnul =>
      split
      · next hempty => exact iff_of_false (by simp) fun h => h.2.1 hempty
      · next hempty =>
          split
          · next hlong => exact iff_of_false (by simp) fun h => by omega
          · next hlong =>
              exact ⟨fun h => ⟨hnul, hempty, by omega, h⟩, fun h => h.2.2.2⟩

theorem leadsTo_iff :
    t.LeadsTo p l ↔ t.node? l = some .directory ∧ 0 ∉ p.bytes ∧ p.bytes.length ≤ maxPath ∧
      t.walk maxLinks (start p t.current) (steps p) = .ok l := by
  refine and_congr_right fun hl => ?_
  by_cases hempty : p.bytes = []
  · have hstart : start p t.current = t.current := by
      rw [start, Path.isAbsolute, hempty]
      rfl
    rw [steps_of_empty hempty, hstart, locate_eq_ok_iff]
    constructor
    · rintro (⟨-, rfl⟩ | ⟨-, hne, -⟩)
      · refine ⟨by simp [hempty], by simp [hempty], ?_⟩
        rw [walk_trivial hl (.inl rfl), walk_nil]
      · exact absurd hempty hne
    · rintro ⟨-, -, hwalk⟩
      rw [walk_trivial (node?_of_walk hl hwalk) (.inl rfl), walk_nil] at hwalk
      exact .inl ⟨hempty, (Except.ok.inj hwalk).symm⟩
  · rw [locate_eq_ok_iff]
    simp only [hempty, false_and, false_or, ne_eq, not_false_eq_true, true_and]

theorem LeadsTo.eq_place (ht : t.Linkless) (h : t.LeadsTo p l) : l = t.place p := by
  obtain ⟨hl, -, -, hwalk⟩ := leadsTo_iff.1 h
  rw [← walk_filter_iff ht hl, filter_steps] at hwalk
  refine eq_foldl_follow ht (fun name hname => ?_) hwalk
  rw [← filter_steps] at hname
  exact (List.mem_filter.1 hname).2

/-- The parent of a path to a directory leads to a directory. -/
theorem LeadsTo.parent (ht : t.Linkless) (h : t.LeadsTo p l) (hq : p.parent? = some q) :
    t.LeadsTo q (t.place q) := by
  obtain ⟨hfront, habsolute, hnames⟩ := Path.parent?_eq_some hq
  obtain ⟨hl, hnul, hlength, hwalk⟩ := leadsTo_iff.1 h
  obtain ⟨l', hl', hwalk'⟩ : ∃ l', t.node? l' = some .directory ∧
      t.walk maxLinks (start q t.current) q.components.2 = .ok l' := by
    rw [← walk_filter_iff ht hl, filter_steps] at hwalk
    rw [hnames, start_congr habsolute]
    rcases List.eq_nil_or_concat p.components.2 with hnone | ⟨names, last, hlast⟩
    · rw [hnone] at hwalk ⊢
      exact ⟨l, hl, hwalk⟩
    · rw [hlast, List.concat_eq_append, walk_append ht] at hwalk
      rw [hlast, List.concat_eq_append, List.dropLast_concat]
      obtain ⟨l', hinit, hlast⟩ := bind_eq_ok hwalk
      exact ⟨l', node?_of_walk_cons hlast, hinit⟩
  have hparent : t.LeadsTo q l' := by
    refine leadsTo_iff.2 ⟨hl', fun hmem => hnul (hfront.subset hmem), ?_, ?_⟩
    · exact hfront.length_le.trans hlength
    · rwa [← walk_filter_iff ht hl', filter_steps]
  rwa [← hparent.eq_place ht]

/-! ## Ancestors -/

/-- A name behind a path that is no `..` leads one place further in. -/
theorem place_parent (hq : p.parent? = some q) (hin : [Path.dot, Path.dot] ∉ p.components.2) :
    p.components.2 = [] ∧ t.place p = t.place q ∨
      ∃ name, t.place p = name :: t.place q := by
  obtain ⟨-, habsolute, hnames⟩ := Path.parent?_eq_some hq
  rw [place, place, hnames, start_congr habsolute]
  rcases List.eq_nil_or_concat p.components.2 with hnone | ⟨names, last, hlast⟩
  · rw [hnone]
    exact .inl ⟨rfl, rfl⟩
  · rw [List.concat_eq_append] at hlast
    have hne : last ≠ [Path.dot, Path.dot] := by
      rintro rfl
      exact hin (hlast ▸ List.mem_concat_self)
    right
    refine ⟨last, ?_⟩
    rw [hlast, List.dropLast_concat, List.foldl_concat, follow, if_neg hne]

/-! ## Joined paths -/

theorem walk_join (ht : t.Linkless) (hq : q.isAbsolute = false) :
    t.walk links here (steps (p.join q)) = t.walk links here (steps p ++ steps q) := by
  have hne : steps q ≠ [] := Text.splitOn_ne_nil Path.slash q.bytes
  rw [Path.join_of_relative hq, steps]
  rcases Path.gap_cases p.bytes with ⟨hempty | hslash, hgap⟩ | ⟨-, hgap⟩
  · rw [hgap, hempty, steps_of_empty hempty]
    exact (walk_empty hne).symm
  · obtain ⟨front, hfront⟩ := List.getLast?_eq_some_iff.1 hslash
    have hsteps : steps p = Text.splitOn Path.slash front ++ [[]] := by
      rw [steps, hfront, Text.splitOn_append_sep]
      rfl
    rw [hgap, List.append_nil, hfront, List.append_assoc, List.singleton_append,
      Text.splitOn_append_sep, hsteps, List.append_assoc, List.singleton_append, walk_append ht,
      walk_append ht]
    exact congrArg _ (funext fun l => (walk_empty hne).symm)
  · rw [hgap, List.append_assoc, List.singleton_append, Text.splitOn_append_sep]
    rfl

/-- A path is followed from the place of the directory that it is joined to. -/
theorem LeadsTo.locate_join_iff (ht : t.Linkless) (h : t.LeadsTo p l) (hq : q.isAbsolute = false)
    (hne : q.bytes ≠ []) (hlength : (p.join q).bytes.length ≤ maxPath) :
    t.locate (p.join q) = .ok l' ↔ 0 ∉ q.bytes ∧ t.walk maxLinks l (steps q) = .ok l' := by
  obtain ⟨hl, hnul, -, hwalk⟩ := leadsTo_iff.1 h
  have hjoined : (p.join q).bytes ≠ [] := by
    rw [Path.join_of_relative hq]
    exact List.append_ne_nil_of_right_ne_nil _ hne
  rw [locate_eq_ok_iff, Path.mem_join_iff hq (by decide), start_congr (Path.isAbsolute_join hq),
    walk_join ht hq, walk_append ht, hwalk, not_or]
  constructor
  · rintro ⟨⟨-, hnot⟩, -, -, hrest⟩
    exact ⟨hnot, hrest⟩
  · rintro ⟨hnot, hrest⟩
    exact ⟨⟨hnul, hnot⟩, hjoined, hlength, hrest⟩

/-! ## Files -/

theorem find_eq_ok_iff {node : FileNode} :
    t.find p = .ok node ↔ ∃ l, t.locate p = .ok l ∧ t.node? l = some node := by
  unfold find
  cases t.locate p with
  | error fault => simp [bind, Except.bind]
  | ok l =>
      cases hnode : t.node? l with
      | none => simp [bind, Except.bind, hnode]
      | some there => simp [bind, Except.bind, hnode]

theorem isFile_iff : t.toFileSystem.isFile p = true ↔
    ∃ l content, t.locate p = .ok l ∧ t.node? l = some (.file content) := by
  rw [FileSystem.isFile, beq_iff_eq]
  have hfind : t.toFileSystem.kind? p = some .file ↔ ∃ content, t.find p = .ok (.file content) := by
    simp only [toFileSystem]
    rcases t.find p with fault | (content | - | target) <;> simp
  rw [hfind, exists_comm]
  exact exists_congr fun content => find_eq_ok_iff

theorem isDirectory_iff : t.toFileSystem.isDirectory p = true ↔
    ∃ l, t.locate p = .ok l ∧ t.node? l = some .directory := by
  rw [FileSystem.isDirectory, beq_iff_eq, ← find_eq_ok_iff]
  simp only [toFileSystem]
  rcases t.find p with fault | (content | - | target) <;> simp

theorem canonical_of_locate (h : t.locate p = .ok l) : t.toFileSystem.canonical p = pathTo l := by
  simp only [FileSystem.canonical, toFileSystem, h, Option.getD_some]

/-- The place of the file that a path leads to from a directory. -/
def fileFrom? (t : FileTree) (l : Location) (q : Path) : Option Location :=
  if q.bytes.contains 0 then none
  else match t.walk maxLinks l (steps q) with
    | .error _ => none
    | .ok l' =>
      match t.node? l' with
      | some (.file _) => some l'
      | _ => none

theorem fileFrom?_eq_some_iff : t.fileFrom? l q = some l' ↔
    0 ∉ q.bytes ∧ t.walk maxLinks l (steps q) = .ok l' ∧
      ∃ content, t.node? l' = some (.file content) := by
  simp only [fileFrom?, List.contains_iff_mem]
  constructor
  · intro h
    split at h
    · cases h
    · next hnul =>
        split at h
        · cases h
        · next there hwalk =>
            split at h
            · next content hnode =>
                obtain rfl := Option.some.inj h
                exact ⟨hnul, hwalk, content, hnode⟩
            · cases h
  · rintro ⟨hnul, hwalk, content, hnode⟩
    simp only [if_neg hnul, hwalk, hnode]

theorem LeadsTo.file?_join (ht : t.Linkless) (h : t.LeadsTo p l) (hq : q.isAbsolute = false)
    (hne : q.bytes ≠ []) (hlength : (p.join q).bytes.length ≤ maxPath) :
    t.toFileSystem.file? (p.join q) = (t.fileFrom? l q).map pathTo := by
  cases hfile : t.fileFrom? l q with
  | none =>
      refine if_neg fun hjoined => ?_
      obtain ⟨l', content, hlocate, hnode⟩ := isFile_iff.1 hjoined
      obtain ⟨hnul, hwalk⟩ := (h.locate_join_iff ht hq hne hlength).1 hlocate
      rw [fileFrom?_eq_some_iff.2 ⟨hnul, hwalk, content, hnode⟩] at hfile
      cases hfile
  | some l' =>
      obtain ⟨hnul, hwalk, content, hnode⟩ := fileFrom?_eq_some_iff.1 hfile
      have hlocate := (h.locate_join_iff ht hq hne hlength).2 ⟨hnul, hwalk⟩
      have hjoined := isFile_iff.2 ⟨l', content, hlocate, hnode⟩
      rw [FileSystem.file?, if_pos hjoined, canonical_of_locate hlocate]
      rfl

end FileTree

end ScopedStyles
