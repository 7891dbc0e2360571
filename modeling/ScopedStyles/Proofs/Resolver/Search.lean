import Mathlib.Data.List.Basic
import ScopedStyles.Proofs.Import.Specifier
import ScopedStyles.Resolver.FileSearch
/-!
# What a search finds

A request asks for a target; the target names paths to look under; each of them is looked at as it
is and with every extension, and the first file on the list is found. `Finds` says so without
following the search, and a search has exactly the result that `Finds` allows. In particular it
says which directories' packages are looked through, what a failure gives for a reason, and which
paths it lists.
-/

namespace ScopedStyles

namespace Text

theorem splitAtFirst?_isSome_iff {sep cs : List Char} :
    (splitAtFirst? sep cs).isSome = true ↔ sep <:+: cs := by
  induction cs with
  | nil => cases sep <;> simp [splitAtFirst?]
  | cons c cs ih =>
      rw [List.infix_cons_iff, ← List.isPrefixOf_iff_prefix]
      simp only [splitAtFirst?]
      split
      · next hlead => simp [hlead]
      · next hlead => simp [hlead, ih]

end Text

namespace Path

/-- A directory and the directories above it, nearest first, up to one without a parent. -/
inductive Upwards : Path → List Path → Prop where
  | top {p : Path} (h : p.parent? = none) : Upwards p [p]
  | up {p q : Path} {directories : List Path} (h : p.parent? = some q)
      (hq : Upwards q directories) : Upwards p (p :: directories)

theorem ancestors_of_parent?_eq_none {p : Path} (h : p.parent? = none) : p.ancestors = [p] := by
  rw [ancestors]
  split
  · next q hq => simp [h] at hq
  · rfl

theorem ancestors_of_parent? {p q : Path} (h : p.parent? = some q) :
    p.ancestors = p :: q.ancestors := by
  rw [ancestors]
  split
  · next q' hq =>
      obtain rfl : q = q' := Option.some.inj (h.symm.trans hq)
      rfl
  · next hq => simp [h] at hq

theorem upwards_ancestors (p : Path) : Upwards p p.ancestors := by
  cases h : p.parent? with
  | none =>
      rw [ancestors_of_parent?_eq_none h]
      exact .top h
  | some q =>
      rw [ancestors_of_parent? h]
      exact .up h (upwards_ancestors q)
termination_by p.bytes.length
decreasing_by exact length_parent?_lt h

theorem Upwards.eq_ancestors {p : Path} {directories : List Path} (h : Upwards p directories) :
    directories = p.ancestors := by
  induction h with
  | top h => exact (ancestors_of_parent?_eq_none h).symm
  | up h _ ih => rw [ancestors_of_parent? h, ih]

end Path

namespace Resolver.FileSearch

variable (s : FileSearch) (fs : FileSystem) (r : Request)

/-! ## What a result is -/

/-- Where a request starts unless its alias moves it to the root. -/
def start : Path :=
  (r.importer.bind Path.parent?).getD s.root

/-- A request asks for `target`, and starts at `anchor` where that is relative. An alias counts if
the specifier without its query starts with its key. -/
inductive AsksFor : String → Path → Prop where
  | expanded {a : Alias} {rest : List Char} (hmatched : r.matched = some a)
      (hname : Specifier.Names r.specifier (a.key.toList ++ rest)) :
      AsksFor (a.replacement ++ String.ofList rest) s.root
  | asWritten {name : String} (hname : Specifier.Names r.specifier name.toList)
      (hkey : ∀ a, r.matched = some a → ¬ a.key.toList <+: name.toList) :
      AsksFor name (s.start r)

/-- No file is looked for under `target`. -/
inductive Refuses : List Char → Reason → Prop where
  | empty : Refuses [] .specifierInvalid
  | scheme {target : List Char} (h : [':', '/', '/'] <:+: target ∨
      ['n', 'o', 'd', 'e', ':'] <+: target ∨ ['d', 'a', 't', 'a', ':'] <+: target) :
      Refuses target .unsupportedScheme

/-- `target` starts with `./` or `../`. -/
def Relative (target : List Char) : Prop :=
  ['.', '/'] <+: target ∨ ['.', '.', '/'] <+: target

/-- `target` starts with a slash, two backslashes, or a drive. -/
def Absolute (target : List Char) : Prop :=
  ['/'] <+: target ∨ ['\\', '\\'] <+: target ∨
    ∃ drive c rest, target = drive :: ':' :: c :: rest ∧ drive.isAlpha = true ∧ (c = '\\' ∨ c = '/')

/-- The paths of `name` in the packages of those directories that have any. -/
def inPackages (name : Path) (directories : List Path) : List Path :=
  (directories.filter fun d => fs.kind? (d.join (.ofString "node_modules")) = some .directory).map
    fun d => (d.join (.ofString "node_modules")).join name

/-- The paths that `target` is looked for under, and the reason that is given if it is not found:
one path for a relative or absolute target, and else one for each directory with packages. -/
inductive LooksUnder (target : String) (anchor base : Path) : List Path → Reason → Prop where
  | relative {p : Path} (hrelative : Relative target.toList)
      (hp : p = anchor.join (.ofString target)) :
      LooksUnder target anchor base [p]
        (if fs.kind? p = some .directory then .isDirectory else .notFound)
  | absolute {p : Path} (hrelative : ¬ Relative target.toList) (habsolute : Absolute target.toList)
      (hp : p = .ofString target) :
      LooksUnder target anchor base [p]
        (if fs.kind? p = some .directory then .isDirectory else .notFound)
  | bare {directories : List Path} (hrelative : ¬ Relative target.toList)
      (habsolute : ¬ Absolute target.toList) (hupwards : Path.Upwards base directories) :
      LooksUnder target anchor base (inPackages fs (.ofString target) directories)
        (if inPackages fs (.ofString target) directories = [] then .nodeModulesNotFound
          else .notFound)

/-- Each path as it is, and then with every extension behind it. -/
def candidates (bases : List Path) : List Path :=
  bases.flatMap fun base => base :: s.extensions.map base.append

/-- A request's result. The first candidate that is a file is found, in its canonical form if it has
one. A failure lists the first twenty candidates. -/
inductive Finds : Except Failure Path → Prop where
  | refused {target : String} {anchor : Path} {reason : Reason} (hasks : AsksFor s r target anchor)
      (hrefuses : Refuses target.toList reason) :
      Finds (.error { specifier := r.specifier, reason, tried := [] })
  | found {target : String} {anchor p : Path} {reason : Reason} {bases front back : List Path}
      (hasks : AsksFor s r target anchor) (haccepts : ∀ reason, ¬ Refuses target.toList reason)
      (hlooks : LooksUnder fs target anchor (s.start r) bases reason)
      (hcandidates : s.candidates bases = front ++ p :: back)
      (hfront : ∀ q ∈ front, fs.kind? q ≠ some .file) (hfile : fs.kind? p = some .file) :
      Finds (.ok ((fs.canonical? p).getD p))
  | missed {target : String} {anchor : Path} {reason : Reason} {bases : List Path}
      (hasks : AsksFor s r target anchor) (haccepts : ∀ reason, ¬ Refuses target.toList reason)
      (hlooks : LooksUnder fs target anchor (s.start r) bases reason)
      (hnone : ∀ q ∈ s.candidates bases, fs.kind? q ≠ some .file) :
      Finds (.error { specifier := r.specifier, reason, tried := (s.candidates bases).take 20 })

/-! ## Targets -/

theorem hasScheme_iff {target : List Char} :
    hasScheme target = true ↔ [':', '/', '/'] <:+: target ∨
      ['n', 'o', 'd', 'e', ':'] <+: target ∨ ['d', 'a', 't', 'a', ':'] <+: target := by
  rw [hasScheme, Bool.or_eq_true, Bool.or_eq_true, Text.splitAtFirst?_isSome_iff,
    List.isPrefixOf_iff_prefix, List.isPrefixOf_iff_prefix, or_assoc]

theorem isRelative_iff {target : List Char} : isRelative target = true ↔ Relative target := by
  rw [isRelative, Bool.or_eq_true, List.isPrefixOf_iff_prefix, List.isPrefixOf_iff_prefix]
  rfl

theorem isAbsolute_iff {target : List Char} : isAbsolute target = true ↔ Absolute target := by
  unfold Absolute
  fun_cases isAbsolute target with
  | case1 => simp
  | case2 => simp
  | case3 drive c rest hslash => simp [Ne.symm hslash]
  | case4 target hslash hshare hdrive =>
      refine iff_of_false Bool.false_ne_true ?_
      rintro (⟨rest, rfl⟩ | ⟨rest, rfl⟩ | ⟨drive, c, rest, rfl, -⟩)
      · exact hslash rest rfl
      · exact hshare rest rfl
      · exact hdrive drive c rest rfl

theorem hasScheme_eq_false {target : List Char} (h : ∀ reason, ¬ Refuses target reason) :
    hasScheme target = false :=
  Bool.eq_false_iff.2 fun hscheme => h _ (.scheme (hasScheme_iff.1 hscheme))

theorem isEmpty_eq_false {target : List Char} (h : ∀ reason, ¬ Refuses target reason) :
    target.isEmpty = false := by
  cases target with
  | nil => exact absurd .empty (h _)
  | cons c cs => rfl

theorem exists_refuses_or (target : List Char) :
    (∃ reason, Refuses target reason) ∨ ∀ reason, ¬ Refuses target reason := by
  by_cases h : ∃ reason, Refuses target reason
  · exact .inl h
  · exact .inr (not_exists.1 h)

theorem exists_asksFor : ∃ target anchor, AsksFor s r target anchor := by
  have hname := Specifier.names_iff.2 (rfl : (Specifier.withoutQuery r.specifier).toList = _)
  by_cases h : ∃ a, r.matched = some a ∧
      a.key.toList <+: (Specifier.withoutQuery r.specifier).toList
  · obtain ⟨a, hmatched, rest, hkey⟩ := h
    exact ⟨_, _, .expanded hmatched (hkey ▸ hname)⟩
  · exact ⟨_, _, .asWritten hname fun a hmatched hkey => h ⟨a, hmatched, hkey⟩⟩

theorem exists_looksUnder (target : String) (anchor base : Path) :
    ∃ bases reason, LooksUnder fs target anchor base bases reason := by
  by_cases hrelative : Relative target.toList
  · exact ⟨_, _, .relative hrelative rfl⟩
  · by_cases habsolute : Absolute target.toList
    · exact ⟨_, _, .absolute hrelative habsolute rfl⟩
    · exact ⟨_, _, .bare hrelative habsolute (Path.upwards_ancestors base)⟩

theorem exists_finds : ∃ result, Finds s fs r result := by
  obtain ⟨target, anchor, hasks⟩ := exists_asksFor s r
  rcases exists_refuses_or target.toList with ⟨reason, hrefuses⟩ | haccepts
  · exact ⟨_, .refused hasks hrefuses⟩
  · obtain ⟨bases, reason, hlooks⟩ := exists_looksUnder fs target anchor (s.start r)
    cases hfind : (s.candidates bases).find? fs.isFile with
    | none =>
        refine ⟨_, .missed hasks haccepts hlooks fun q hq hfile => ?_⟩
        exact List.find?_eq_none.1 hfind q hq (beq_iff_eq.2 hfile)
    | some p =>
        obtain ⟨hfile, front, back, hsplit, hfront⟩ := List.find?_eq_some_iff_append.1 hfind
        refine ⟨_, .found hasks haccepts hlooks hsplit (fun q hq hkind => ?_) (beq_iff_eq.1 hfile)⟩
        have hnot := hfront q hq
        rw [FileSystem.isFile, hkind] at hnot
        cases hnot

/-! ## Searches -/

theorem candidates_cons (base : Path) (bases : List Path) :
    s.candidates (base :: bases) = s.forms base ++ s.candidates bases := rfl

theorem inPackages_cons (name d : Path) (directories : List Path) :
    inPackages fs name (d :: directories) =
      if fs.isDirectory (packages d) then (packages d).join name :: inPackages fs name directories
      else inPackages fs name directories := by
  unfold inPackages FileSystem.isDirectory packages
  rw [List.filter_cons]
  split <;> simp_all

/-- What comes of looking at paths: the first file, or a miss that lists them all behind those
looked at before. -/
def lookAt (before paths : List Path) (reason : Reason) : Except Miss Path :=
  match paths.find? fs.isFile with
  | some p => .ok (fs.canonical p)
  | none => .error { reason, tried := before ++ paths }

theorem lookAt_append (before paths others : List Path) (reason : Reason) :
    lookAt fs before (paths ++ others) reason =
      match paths.find? fs.isFile with
      | some p => .ok (fs.canonical p)
      | none => lookAt fs (before ++ paths) others reason := by
  rw [lookAt, lookAt, List.find?_append, List.append_assoc]
  cases paths.find? fs.isFile <;> rfl

theorem candidates_singleton (base : Path) : s.candidates [base] = s.forms base := by
  rw [candidates_cons]
  exact List.append_nil _

theorem probe_eq (base : Path) :
    s.probe fs base = lookAt fs [] (s.forms base)
      (if fs.kind? base = some .directory then .isDirectory else .notFound) := by
  rw [probe, lookAt, FileSystem.isDirectory]
  cases (s.forms base).find? fs.isFile with
  | some p => rfl
  | none => simp only [beq_iff_eq, List.nil_append]

/-- A search through packages looks at the candidates of all of them. Whether a directory had any
is remembered on the way. -/
theorem probePackages_eq (name : Path) (seen : Bool) (tried directories : List Path) :
    s.probePackages fs name seen tried directories =
      lookAt fs tried (s.candidates (inPackages fs name directories))
        (if seen = false ∧ inPackages fs name directories = [] then .nodeModulesNotFound
          else .notFound) := by
  induction directories generalizing seen tried with
  | nil => cases seen <;> simp [probePackages, inPackages, candidates, lookAt]
  | cons d directories ih =>
      rw [probePackages, inPackages_cons]
      by_cases hpackages : fs.isDirectory (packages d) = true
      · rw [if_pos hpackages, if_pos hpackages, candidates_cons, lookAt_append, probe_eq, lookAt]
        cases (s.forms ((packages d).join name)).find? fs.isFile with
        | some p => rfl
        | none =>
            simp only [ih]
            simp
      · rw [if_neg hpackages, if_neg hpackages, ih]

theorem search_of_refuses {target : String} {anchor base : Path} {reason : Reason}
    (h : Refuses target.toList reason) :
    s.search fs anchor base target = .error { reason } := by
  unfold search
  generalize target.toList = text at h
  cases h with
  | empty => rfl
  | scheme hscheme =>
      have hnonempty : text.isEmpty = false := by
        rcases text with _ | ⟨c, cs⟩
        · simp at hscheme
        · rfl
      simp only [hnonempty, hasScheme_iff.2 hscheme, Bool.false_eq_true, if_false, if_true]

theorem search_of_looksUnder {target : String} {anchor base : Path} {bases : List Path}
    {reason : Reason} (haccepts : ∀ reason, ¬ Refuses target.toList reason)
    (hlooks : LooksUnder fs target anchor base bases reason) :
    s.search fs anchor base target = lookAt fs [] (s.candidates bases) reason := by
  unfold search
  simp only [isEmpty_eq_false haccepts, hasScheme_eq_false haccepts, Bool.false_eq_true, if_false]
  cases hlooks with
  | relative hrelative hp =>
      rw [if_pos (isRelative_iff.2 hrelative), probe_eq, candidates_singleton, hp]
  | absolute hrelative habsolute hp =>
      rw [if_neg (mt isRelative_iff.1 hrelative), if_pos (isAbsolute_iff.2 habsolute), probe_eq,
        candidates_singleton, hp]
  | bare hrelative habsolute hupwards =>
      rw [if_neg (mt isRelative_iff.1 hrelative), if_neg (mt isAbsolute_iff.1 habsolute),
        probePackages_eq, hupwards.eq_ancestors]
      simp only [true_and]

/-- A failure that reports a miss. -/
def failure (miss : Miss) : Failure :=
  { specifier := r.specifier, reason := miss.reason, tried := miss.tried.take maxTried }

theorem resolve_of_asksFor {target : String} {anchor : Path} (h : AsksFor s r target anchor) :
    s.resolve fs r = (s.search fs anchor (s.start r) target).mapError (failure r) := by
  cases h with
  | @expanded a rest hmatched hname =>
      have hexpand : expand? (Specifier.withoutQuery r.specifier) a =
          some (a.replacement ++ String.ofList rest) := by
        rw [expand?, Specifier.names_iff.1 hname, Text.dropLead?,
          if_pos (List.isPrefixOf_iff_prefix.2 ⟨rest, rfl⟩), List.drop_left]
        rfl
      simp only [resolve, hmatched, Option.bind_some, hexpand]
      rfl
  | asWritten hname hkey =>
      obtain rfl := String.toList_inj.1 (Specifier.names_iff.1 hname)
      have hnone : r.matched.bind (expand? (Specifier.withoutQuery r.specifier)) = none := by
        cases hmatched : r.matched with
        | none => rfl
        | some a =>
            have hlead := hkey a hmatched
            rw [Option.bind_some, expand?, Text.dropLead?,
              if_neg (mt List.isPrefixOf_iff_prefix.1 hlead)]
            rfl
      simp only [resolve, hnone]
      rfl

theorem resolve_of_finds {result : Except Failure Path} (h : Finds s fs r result) :
    s.resolve fs r = result := by
  cases h with
  | refused hasks hrefuses =>
      rw [resolve_of_asksFor s fs r hasks, search_of_refuses s fs hrefuses]
      rfl
  | found hasks haccepts hlooks hcandidates hfront hfile =>
      rename_i target anchor p reason bases front back
      have hfind : (s.candidates bases).find? fs.isFile = some p := by
        refine List.find?_eq_some_iff_append.2 ⟨beq_iff_eq.2 hfile, front, back, hcandidates, ?_⟩
        intro q hq
        simpa [FileSystem.isFile] using hfront q hq
      rw [resolve_of_asksFor s fs r hasks, search_of_looksUnder s fs haccepts hlooks, lookAt, hfind]
      rfl
  | missed hasks haccepts hlooks hnone =>
      rename_i target anchor reason bases
      have hfind : (s.candidates bases).find? fs.isFile = none := by
        refine List.find?_eq_none.2 fun q hq => ?_
        simpa [FileSystem.isFile] using hnone q hq
      rw [resolve_of_asksFor s fs r hasks, search_of_looksUnder s fs haccepts hlooks, lookAt, hfind]
      rfl

/-- A search comes to the one result that its request has. -/
theorem resolve_eq_iff_finds {result : Except Failure Path} :
    s.resolve fs r = result ↔ Finds s fs r result := by
  constructor
  · intro h
    obtain ⟨result', hfinds⟩ := exists_finds s fs r
    have hresult := resolve_of_finds s fs r hfinds
    rw [h] at hresult
    exact hresult ▸ hfinds
  · exact resolve_of_finds s fs r

end Resolver.FileSearch

end ScopedStyles
