import Mathlib.Data.List.Infix
import ScopedStyles.Proofs.FileSystem.Places
import ScopedStyles.Proofs.Resolver.Search
import ScopedStyles.Proofs.Text.Bytes
/-!
# Whose packages are looked through

A bare target is looked for in the packages of the importing file's directory and of the directories
above it, as the path of the directory is written. In a tree without links this comes to looking
through the places of these paths. An absolute path without `..` has the real ancestors of its
directory for parents, so how it is written otherwise does not matter. A path with `..` has parents
that are no ancestors, and a relative one has none above the current directory.
-/

namespace ScopedStyles

open Text

variable {t : FileTree} {l : Location} {p q : Path}

namespace FileTree

/-! ## Packages -/

/-- The name of a directory of packages. -/
def nodeModules : Path := .ofString "node_modules"

/-- Whether packages stand in a directory. -/
def hasPackages (t : FileTree) (l : Location) : Bool :=
  match t.node? (nodeModules.bytes :: l) with
  | some .directory => true
  | _ => false

theorem hasPackages_iff :
    t.hasPackages l = true ↔ t.node? (nodeModules.bytes :: l) = some .directory := by
  unfold hasPackages
  split
  · next hnode => exact iff_of_true rfl hnode
  · next hnode => exact iff_of_false Bool.false_ne_true hnode

theorem LeadsTo.isDirectory_nodeModules (ht : t.Linkless) (h : t.LeadsTo p l)
    (hlength : (p.join nodeModules).bytes.length ≤ maxPath) :
    t.toFileSystem.isDirectory (p.join nodeModules) = t.hasPackages l := by
  have hlocate (l' : Location) : t.locate (p.join nodeModules) = .ok l' ↔
      0 ∉ nodeModules.bytes ∧ t.walk maxLinks l (steps nodeModules) = .ok l' :=
    h.locate_join_iff ht (by decide) (by decide) hlength
  have hsteps : steps nodeModules = [nodeModules.bytes] := by decide
  rw [Bool.eq_iff_iff, isDirectory_iff, hasPackages_iff]
  simp only [hlocate, hsteps]
  constructor
  · rintro ⟨l', ⟨-, hwalk⟩, hnode⟩
    have hnames : ∀ name ∈ [nodeModules.bytes], Path.leads name = true := by decide
    obtain rfl : l' = nodeModules.bytes :: l := eq_foldl_follow ht hnames hwalk
    exact hnode
  · intro hnode
    refine ⟨nodeModules.bytes :: l, ⟨by decide, ?_⟩, hnode⟩
    have hholds : t.holds l nodeModules.bytes = true := by
      rw [holds, hnode]
      decide
    rw [walk_in h.1 hholds]
    exact walk_nil

end FileTree

/-! ## Ancestors -/

/-- A path is written from the root, and nothing in it leads back. -/
structure Path.Straight (p : Path) : Prop where
  absolute : p.isAbsolute = true
  forwards : [dot, dot] ∉ p.components.2

theorem Path.Upwards.suffix_of_forwards {directories : List Path} (h : Path.Upwards p directories)
    (t : FileTree) (hp : [Path.dot, Path.dot] ∉ p.components.2) :
    ∀ l ∈ directories.map t.place, l <:+ t.place p := by
  induction h with
  | top hnone => exact List.forall_mem_singleton.2 (List.suffix_refl _)
  | @up p q directories hparent _ ih =>
      obtain ⟨-, -, hnames⟩ := Path.parent?_eq_some hparent
      have hq : [Path.dot, Path.dot] ∉ q.components.2 := by
        rw [hnames]
        exact mt List.mem_of_mem_dropLast hp
      have hplace : t.place q <:+ t.place p := by
        rcases FileTree.place_parent hparent hp with ⟨-, hsame⟩ | ⟨name, hcons⟩
        · exact hsame ▸ List.suffix_refl _
        · rw [hcons]
          exact List.suffix_cons name _
      rw [List.map_cons]
      exact List.forall_mem_cons.2 ⟨List.suffix_refl _, fun l hl => (ih hq l hl).trans hplace⟩

/-- The ancestors of a straight path stand at the places above it, up to the root. -/
theorem Path.Upwards.map_place {directories : List Path} (h : Path.Upwards p directories)
    (t : FileTree) (hp : p.Straight) : directories.map t.place = (t.place p).tails := by
  induction h with
  | @top p hnone =>
      have hroot : t.place p = [] := by
        rw [FileTree.place, Path.parent?_eq_none hnone, FileTree.start, if_pos hp.absolute]
        rfl
      rw [List.map_singleton, hroot]
      rfl
  | @up p q directories hparent _ ih =>
      obtain ⟨-, habsolute, hnames⟩ := Path.parent?_eq_some hparent
      have hq : q.Straight := by
        refine ⟨habsolute.trans hp.absolute, ?_⟩
        rw [hnames]
        exact mt List.mem_of_mem_dropLast hp.forwards
      rcases FileTree.place_parent (t := t) hparent hp.forwards with ⟨hnone, -⟩ | ⟨name, hcons⟩
      · rw [Path.parent?_of_isAbsolute hp.absolute hnone] at hparent
        cases hparent
      · rw [List.map_cons, ih hq, hcons, List.tails_cons]

namespace Resolver.FileSearch

/-! ## Searches through packages -/

/-- A target that is neither relative nor absolute, and that a search does not refuse. -/
structure Bare (target : List Char) : Prop where
  accepts : ∀ reason, ¬ Refuses target reason
  notRelative : ¬ Relative target
  notAbsolute : ¬ Absolute target

theorem bare_of_tests {target : List Char} (hempty : target ≠ [])
    (hscheme : hasScheme target = false) (hrelative : isRelative target = false)
    (habsolute : isAbsolute target = false) : Bare target where
  accepts reason h := by
    cases h with
    | empty => exact hempty rfl
    | scheme h => exact Bool.eq_false_iff.1 hscheme (hasScheme_iff.2 h)
  notRelative := mt isRelative_iff.2 (Bool.eq_false_iff.1 hrelative)
  notAbsolute := mt isAbsolute_iff.2 (Bool.eq_false_iff.1 habsolute)

/-- The path of a target in a directory with packages. -/
def packaged (target : String) : Path :=
  FileTree.nodeModules.join (.ofString target)

/-- The files that a target names in the packages of directories, in the order of the search. -/
def filesIn (s : FileSearch) (t : FileTree) (target : String) (places : List Location) :
    List Location :=
  (places.filter t.hasPackages).flatMap fun l =>
    (s.forms (packaged target)).filterMap (t.fileFrom? l)

/-- What comes of looking through the packages of directories for a target. -/
def lookThrough (s : FileSearch) (t : FileTree) (target : String) (places : List Location) :
    Except Reason Path :=
  match (s.filesIn t target places).head? with
  | some l => .ok (FileTree.pathTo l)
  | none => .error (if places.any t.hasPackages then .notFound else .nodeModulesNotFound)

/-- A request for a target comes from a file in the directory at `l`, which is written `b`, and no
path that is looked at for it is too long. -/
structure ComesFrom (s : FileSearch) (t : FileTree) (r : Request) (target : String) (b : Path)
    (l : Location) : Prop where
  asks : ∃ anchor, s.AsksFor r target anchor
  directory : r.importerDirectory? = some b
  leads : t.LeadsTo b l
  fits : ∀ q ∈ s.forms (packaged target), b.bytes.length + 1 + q.bytes.length ≤ FileTree.maxPath

variable {s : FileSearch} {r : Request} {target : String} {b : Path}

theorem isAbsolute_ofString (h : ¬ Absolute target.toList) :
    (Path.ofString target).isAbsolute = false := by
  rw [Path.isAbsolute, Path.ofString, beq_eq_false_iff_ne]
  cases hchars : target.toList with
  | nil => exact Option.some_ne_none _ |>.symm
  | cons c cs =>
      rw [head?_encode_cons, ne_eq, Option.some.injEq]
      intro hslash
      obtain rfl : c = '/' := (firstByte_eq_iff (a := '/') (by decide)).1 hslash
      refine h (.inl ?_)
      rw [hchars]
      exact ⟨cs, rfl⟩

section

variable (h : ¬ Absolute target.toList)

include h

theorem isAbsolute_packaged : (packaged target).isAbsolute = false :=
  (Path.isAbsolute_join (isAbsolute_ofString h)).trans (by decide)

theorem bytes_packaged_ne_nil : (packaged target).bytes ≠ [] := by
  rw [packaged, Path.join_of_relative (isAbsolute_ofString h), List.append_assoc]
  exact List.append_ne_nil_of_left_ne_nil (by decide) _

/-- The forms of a target in the packages of a directory are joined to the directory. -/
theorem forms_packages (d : Path) :
    s.forms ((packages d).join (.ofString target)) = (s.forms (packaged target)).map d.join := by
  have hjoin : (packages d).join (.ofString target) = d.join (packaged target) :=
    Path.join_join (by decide) (by decide) (isAbsolute_ofString h)
  rw [hjoin, forms, forms, List.map_cons, List.map_map]
  refine congrArg _ (List.map_congr_left fun e _ => ?_)
  exact Path.append_join (isAbsolute_packaged h) (bytes_packaged_ne_nil h) e

theorem relative_of_mem_forms {q : Path} (hq : q ∈ s.forms (packaged target)) :
    q.isAbsolute = false ∧ q.bytes ≠ [] := by
  have hrelative := isAbsolute_packaged h
  have hne := bytes_packaged_ne_nil h
  rcases List.mem_cons.1 hq with rfl | hq
  · exact ⟨hrelative, hne⟩
  · obtain ⟨e, -, rfl⟩ := List.mem_map.1 hq
    exact ⟨Path.isAbsolute_append hrelative hne e, List.append_ne_nil_of_left_ne_nil hne _⟩

end

theorem leadsTo_of_mem_ancestors (ht : t.Linkless) (h : t.LeadsTo b l) :
    ∀ d ∈ b.ancestors, t.LeadsTo d (t.place d) ∧ d.bytes.length ≤ b.bytes.length := by
  have hupwards := Path.upwards_ancestors b
  generalize b.ancestors = directories at hupwards
  induction hupwards generalizing l with
  | top hnone =>
      refine List.forall_mem_singleton.2 ⟨?_, le_rfl⟩
      exact h.eq_place ht ▸ h
  | up hparent _ ih =>
      refine List.forall_mem_cons.2 ⟨⟨h.eq_place ht ▸ h, le_rfl⟩, fun d hd => ?_⟩
      obtain ⟨hd, hle⟩ := ih (h.parent ht hparent) d hd
      exact ⟨hd, hle.trans (Path.length_parent?_lt hparent).le⟩

theorem mapError_lookAt (fs : FileSystem) (before paths : List Path) (reason : Reason) :
    (lookAt fs before paths reason).mapError Miss.reason =
      match (paths.filterMap fs.file?).head? with
      | some p => .ok p
      | none => .error reason := by
  rw [← FileSystem.map_canonical_filter, List.head?_map, List.head?_filter, lookAt]
  cases paths.find? fs.isFile <;> rfl

section

variable (ht : t.Linkless) (hbare : Bare target.toList) (h : s.ComesFrom t r target b l)

include ht hbare h

theorem isDirectory_packages {d : Path} (hd : d ∈ b.ancestors) :
    t.toFileSystem.isDirectory (packages d) = t.hasPackages (t.place d) := by
  obtain ⟨hleads, hle⟩ := leadsTo_of_mem_ancestors ht h.leads d hd
  have hfits := h.fits (packaged target) List.mem_cons_self
  have hname : FileTree.nodeModules.bytes.length ≤ (packaged target).bytes.length := by
    rw [packaged, Path.join_of_relative (isAbsolute_ofString hbare.notAbsolute), List.length_append,
      List.length_append]
    omega
  have hlength : (d.join FileTree.nodeModules).bytes.length ≤
      d.bytes.length + 1 + FileTree.nodeModules.bytes.length :=
    Path.length_join_le (by decide)
  exact hleads.isDirectory_nodeModules ht (by omega)

/-- From each of the directories, the search finds the files that the target names there. -/
theorem files_packages {d : Path} (hd : d ∈ b.ancestors) :
    (s.forms ((packages d).join (.ofString target))).filterMap t.toFileSystem.file? =
      ((s.forms (packaged target)).filterMap (t.fileFrom? (t.place d))).map FileTree.pathTo := by
  obtain ⟨hleads, hle⟩ := leadsTo_of_mem_ancestors ht h.leads d hd
  rw [forms_packages hbare.notAbsolute, List.filterMap_map, List.map_filterMap]
  refine List.filterMap_congr fun q hq => ?_
  obtain ⟨hrelative, hne⟩ := relative_of_mem_forms hbare.notAbsolute hq
  have hfits := h.fits q hq
  have hlength := Path.length_join_le (p := d) hrelative
  exact hleads.file?_join ht hrelative hne (by omega)

theorem inPackages_ancestors :
    inPackages t.toFileSystem (.ofString target) b.ancestors =
      (b.ancestors.filter (t.hasPackages ∘ t.place)).map fun d =>
        (packages d).join (.ofString target) := by
  have hfilter : (b.ancestors.filter fun d =>
      t.toFileSystem.kind? (packages d) = some .directory) =
        b.ancestors.filter (t.hasPackages ∘ t.place) := by
    apply List.filter_congr
    intro d hd
    rw [Function.comp_apply, ← isDirectory_packages ht hbare h hd, FileSystem.isDirectory]
    rw [Bool.eq_iff_iff, decide_eq_true_iff, beq_iff_eq]
  rw [← hfilter]
  rfl

theorem candidates_ancestors :
    (s.candidates (inPackages t.toFileSystem (.ofString target) b.ancestors)).filterMap
        t.toFileSystem.file? =
      (s.filesIn t target (b.ancestors.map t.place)).map FileTree.pathTo := by
  have hcandidates (bases : List Path) : s.candidates bases = bases.flatMap s.forms := rfl
  rw [inPackages_ancestors ht hbare h, hcandidates, filesIn, List.filter_map, List.flatMap_map,
    List.flatMap_map, List.filterMap_flatMap, List.map_flatMap]
  refine List.flatMap_congr fun d hd => ?_
  exact files_packages ht hbare h (List.mem_of_mem_filter hd)

/-- A search through packages looks through the places of the directories that the path has for
ancestors as it is written. -/
theorem mapError_resolve :
    (s.resolve t.toFileSystem r).mapError Failure.reason =
      s.lookThrough t target (b.ancestors.map t.place) := by
  obtain ⟨anchor, hasks⟩ := h.asks
  have hstart : s.start r = b := by
    have hdirectory : r.importer.bind Path.parent? = some b := h.directory
    rw [start, hdirectory]
    rfl
  have hlooks : LooksUnder t.toFileSystem target anchor b _ _ :=
    .bare hbare.notRelative hbare.notAbsolute (Path.upwards_ancestors b)
  have hnone : inPackages t.toFileSystem (.ofString target) b.ancestors = [] ↔
      ¬ (b.ancestors.map t.place).any t.hasPackages = true := by
    rw [inPackages_ancestors ht hbare h, List.map_eq_nil_iff, List.filter_eq_nil_iff, List.any_map,
      List.any_eq_true, not_exists]
    simp only [not_and]
  rw [resolve_of_asksFor s t.toFileSystem r hasks, hstart, search_of_looksUnder s _ hbare.accepts
    hlooks, mapError_mapError]
  refine (mapError_lookAt t.toFileSystem [] _ _).trans ?_
  rw [candidates_ancestors ht hbare h, lookThrough, List.head?_map]
  simp only [hnone, ite_not]
  cases (s.filesIn t target (b.ancestors.map t.place)).head? <;> rfl

end

/-- A bare target is looked for in the packages at the places that the importing file's directory
has for ancestors as it is written. If no `..` is written, these are the directory and directories
above it. If the path is absolute, too, these are all of them, so that two such paths to a directory
lead to the same file, or to none for the same reason. -/
theorem resolve_bare (ht : t.Linkless) (hbare : Bare target.toList)
    (h : s.ComesFrom t r target b l) :
    (s.resolve t.toFileSystem r).mapError Failure.reason =
      s.lookThrough t target (b.ancestors.map t.place) ∧
    ([Path.dot, Path.dot] ∉ b.components.2 → ∀ l' ∈ b.ancestors.map t.place, l' <:+ l) ∧
    (b.Straight → b.ancestors.map t.place = l.tails ∧
      ∀ r' b', s.ComesFrom t r' target b' l → b'.Straight →
        (s.resolve t.toFileSystem r').mapError Failure.reason =
          (s.resolve t.toFileSystem r).mapError Failure.reason) := by
  have hresolve := mapError_resolve ht hbare h
  have htails (b' : Path) (hb' : t.LeadsTo b' l) (hstraight : b'.Straight) :
      b'.ancestors.map t.place = l.tails := by
    rw [(Path.upwards_ancestors b').map_place t hstraight, ← hb'.eq_place ht]
  refine ⟨hresolve, fun hforwards => ?_, fun hstraight => ⟨htails b h.leads hstraight, ?_⟩⟩
  · rw [h.leads.eq_place ht]
    exact (Path.upwards_ancestors b).suffix_of_forwards t hforwards
  · intro r' b' h' hstraight'
    rw [hresolve, mapError_resolve ht hbare h', htails b h.leads hstraight,
      htails b' h'.leads hstraight']

/-- The name that a text spells. -/
def nameOf (s : String) : List UInt8 :=
  (Path.ofString s).bytes

/-- A tree with a package in the directory `/a/b`. -/
def packageBelow : FileTree where
  nodes :=
    [([nameOf "a"], .directory),
      ([nameOf "b", nameOf "a"], .directory),
      ([nameOf "node_modules", nameOf "b", nameOf "a"], .directory),
      ([nameOf "pkg", nameOf "node_modules", nameOf "b", nameOf "a"], .directory),
      ([nameOf "c.css", nameOf "pkg", nameOf "node_modules", nameOf "b", nameOf "a"], .file [])]

/-- A search from the root. -/
def fromRoot : FileSearch := { root := .ofString "/" }

/-- A request for a file of the package, from a file with the path `importer`. -/
def packageRequest (importer : String) : Request :=
  { specifier := "#/c.css", importer := some (.ofString importer), matched := some ⟨"#/", "pkg/"⟩ }

theorem linkless_packageBelow : packageBelow.Linkless :=
  FileTree.linkless_of_nodes (by decide)

theorem bare_pkg : Bare "pkg/c.css".toList :=
  bare_of_tests (by decide) (by decide) (by decide) (by decide)

/-- The directory of a file is a place of the tree. -/
theorem comesFrom_packageRequest (importer : String) {b : Path} {l : Location}
    (hparent : (Path.ofString importer).parent? = some b) (hleads : packageBelow.LeadsTo b l)
    (hlength : b.bytes.length ≤ 4000) :
    fromRoot.ComesFrom packageBelow (packageRequest importer) "pkg/c.css" b l where
  asks := by
    have htarget : "pkg/" ++ String.ofList "c.css".toList = "pkg/c.css" := by decide
    have hname : Specifier.Names "#/c.css" ("#/".toList ++ "c.css".toList) :=
      ⟨by decide, .inl (by decide)⟩
    exact ⟨fromRoot.root, htarget ▸ .expanded (a := ⟨"#/", "pkg/"⟩) rfl hname⟩
  directory := hparent
  leads := hleads
  fits := by
    have hforms : ∀ q ∈ fromRoot.forms (packaged "pkg/c.css"), q.bytes.length ≤ 94 := by
      decide
    intro q hq
    have hle := hforms q hq
    have hmax : FileTree.maxPath = 4095 := rfl
    omega

theorem walk_a {links : Nat} {rest : List (List UInt8)} :
    packageBelow.walk links [] ([] :: nameOf "a" :: rest) =
      packageBelow.walk links [nameOf "a"] rest := by
  rw [FileTree.walk_trivial rfl (.inl rfl)]
  exact FileTree.walk_in rfl (by decide)

theorem walk_b {links : Nat} {rest : List (List UInt8)} :
    packageBelow.walk links [nameOf "a"] (nameOf "b" :: rest) =
      packageBelow.walk links [nameOf "b", nameOf "a"] rest :=
  FileTree.walk_in rfl (by decide)

theorem leadsTo_dotted : packageBelow.LeadsTo (.ofString "/a/./b") [nameOf "b", nameOf "a"] := by
  have hsteps : FileTree.steps (.ofString "/a/./b") =
      [[], nameOf "a", [Path.dot], nameOf "b"] := by
    decide
  refine FileTree.leadsTo_iff.2 ⟨rfl, by decide, by decide, ?_⟩
  rw [hsteps]
  calc
    packageBelow.walk FileTree.maxLinks [] [[], nameOf "a", [Path.dot], nameOf "b"] =
        packageBelow.walk FileTree.maxLinks [nameOf "a"] [[Path.dot], nameOf "b"] := walk_a
    _ = packageBelow.walk FileTree.maxLinks [nameOf "a"] [nameOf "b"] :=
      FileTree.walk_trivial rfl (.inr rfl)
    _ = packageBelow.walk FileTree.maxLinks [nameOf "b", nameOf "a"] [] := walk_b
    _ = .ok [nameOf "b", nameOf "a"] := FileTree.walk_nil

theorem leadsTo_back : packageBelow.LeadsTo (.ofString "/a/b/..") [nameOf "a"] := by
  have hsteps : FileTree.steps (.ofString "/a/b/..") =
      [[], nameOf "a", nameOf "b", [Path.dot, Path.dot]] := by
    decide
  refine FileTree.leadsTo_iff.2 ⟨rfl, by decide, by decide, ?_⟩
  rw [hsteps]
  calc
    packageBelow.walk FileTree.maxLinks []
        [[], nameOf "a", nameOf "b", [Path.dot, Path.dot]] =
        packageBelow.walk FileTree.maxLinks [nameOf "a"] [nameOf "b", [Path.dot, Path.dot]] :=
      walk_a
    _ = packageBelow.walk FileTree.maxLinks [nameOf "b", nameOf "a"] [[Path.dot, Path.dot]] :=
      walk_b
    _ = packageBelow.walk FileTree.maxLinks [nameOf "a"] [] := FileTree.walk_out rfl
    _ = .ok [nameOf "a"] := FileTree.walk_nil

theorem leadsTo_ab : packageBelow.LeadsTo (.ofString "/a/b") [nameOf "b", nameOf "a"] :=
  leadsTo_back.parent linkless_packageBelow (by decide)

theorem leadsTo_a : packageBelow.LeadsTo (.ofString "/a") [nameOf "a"] :=
  leadsTo_ab.parent linkless_packageBelow (by decide)

theorem fileFrom?_packageBelow :
    packageBelow.fileFrom? [nameOf "b", nameOf "a"] (packaged "pkg/c.css") =
      some [nameOf "c.css", nameOf "pkg", nameOf "node_modules", nameOf "b", nameOf "a"] := by
  have hsteps : FileTree.steps (packaged "pkg/c.css") =
      [nameOf "node_modules", nameOf "pkg", nameOf "c.css"] := by
    decide
  refine FileTree.fileFrom?_eq_some_iff.2 ⟨by decide, ?_, [], rfl⟩
  rw [hsteps, FileTree.walk_in rfl (by decide), FileTree.walk_in rfl (by decide),
    FileTree.walk_in rfl (by decide), FileTree.walk_nil]

theorem lookThrough_packageBelow {places : List Location}
    (h : places.filter packageBelow.hasPackages = [[nameOf "b", nameOf "a"]]) :
    fromRoot.lookThrough packageBelow "pkg/c.css" places =
      .ok (.ofString "/a/b/node_modules/pkg/c.css") := by
  have hfiles : (fromRoot.filesIn packageBelow "pkg/c.css" places).head? =
      some [nameOf "c.css", nameOf "pkg", nameOf "node_modules", nameOf "b", nameOf "a"] := by
    rw [filesIn, h, List.flatMap_singleton, forms, List.filterMap_cons, fileFrom?_packageBelow]
    rfl
  have hpath : FileTree.pathTo
      [nameOf "c.css", nameOf "pkg", nameOf "node_modules", nameOf "b", nameOf "a"] =
        .ofString "/a/b/node_modules/pkg/c.css" := by
    decide
  rw [lookThrough, hfiles]
  exact congrArg Except.ok hpath

/-- The package is found from `/a/b`, however this is written. -/
theorem resolve_bare_packageBelow :
    (fromRoot.resolve packageBelow.toFileSystem (packageRequest "/a/b/x.svelte")).mapError
        Failure.reason = .ok (.ofString "/a/b/node_modules/pkg/c.css") ∧
    (fromRoot.resolve packageBelow.toFileSystem (packageRequest "/a/./b//x.svelte")).mapError
        Failure.reason = .ok (.ofString "/a/b/node_modules/pkg/c.css") := by
  have hplain := comesFrom_packageRequest "/a/b/x.svelte" (b := .ofString "/a/b")
    (by decide) leadsTo_ab (by decide)
  have hdotted := comesFrom_packageRequest "/a/./b//x.svelte"
    (b := .ofString "/a/./b") (by decide) leadsTo_dotted (by decide)
  obtain ⟨hresolve, -, hstraight⟩ := resolve_bare linkless_packageBelow bare_pkg hplain
  obtain ⟨hplaces, hsame⟩ := hstraight ⟨by decide, by decide⟩
  have hfound : fromRoot.lookThrough packageBelow "pkg/c.css" [nameOf "b", nameOf "a"].tails =
      .ok (.ofString "/a/b/node_modules/pkg/c.css") :=
    lookThrough_packageBelow (by decide)
  rw [hplaces, hfound] at hresolve
  exact ⟨hresolve, (hsame _ _ hdotted ⟨by decide, by decide⟩).trans hresolve⟩

/-- Both `/a/b/..` and `/a` are the directory above the package. From the first one it is found, as
if it were in a directory above. -/
theorem not_forall_same_result :
    ¬ ∀ (t : FileTree) (s : FileSearch) (target : String) (r r' : Request) (b b' : Path)
      (l : Location), t.Linkless → Bare target.toList → s.ComesFrom t r target b l →
      s.ComesFrom t r' target b' l →
      (s.resolve t.toFileSystem r).mapError Failure.reason =
        (s.resolve t.toFileSystem r').mapError Failure.reason := by
  intro h
  have hback := comesFrom_packageRequest "/a/b/../x.svelte"
    (b := .ofString "/a/b/..") (by decide) leadsTo_back (by decide)
  have hplain := comesFrom_packageRequest "/a/x.svelte" (b := .ofString "/a")
    (by decide) leadsTo_a (by decide)
  have hsame := h packageBelow fromRoot "pkg/c.css" _ _ _ _ _ linkless_packageBelow bare_pkg hback
    hplain
  have hup : Path.Upwards (.ofString "/a") [.ofString "/a", .ofString "/"] :=
    .up (by decide) (.top (by decide))
  have hupback : Path.Upwards (.ofString "/a/b/..")
      [.ofString "/a/b/..", .ofString "/a/b", .ofString "/a", .ofString "/"] :=
    .up (by decide) (.up (by decide) hup)
  rw [mapError_resolve linkless_packageBelow bare_pkg hback,
    mapError_resolve linkless_packageBelow bare_pkg hplain, ← hup.eq_ancestors,
    ← hupback.eq_ancestors, lookThrough_packageBelow (by decide)] at hsame
  revert hsame
  decide

end Resolver.FileSearch

end ScopedStyles
