import ScopedStyles.Proofs.Import.Specifier
import ScopedStyles.Proofs.Pipeline.Recorded
import ScopedStyles.Proofs.Text.Bytes
import ScopedStyles.Proofs.Text.Utf8
import ScopedStyles.Resolver.FileSearch
/-!
# The file that is found and the file that is read

A search answers with a path, and a resolved import keeps the text of that path. Reading drops a
query from this text once more, so the file that is read is the one that was found exactly if no
`?` stands in its path.
-/

namespace ScopedStyles

open Text

namespace ResolvedImport

/-- The path that is read is the kept one up to its first `?`. -/
theorem bytes_file (r : ResolvedImport) :
    r.file.bytes = (Path.ofString r.path).bytes.takeWhile (· != '?'.toUInt8) := by
  have hbytes := TestsAs.takeWhile_encode (TestsAs.bne (a := '?') (by decide)) r.path.toList
  rw [Path.ofString, hbytes, file, Specifier.withoutQuery, Path.ofString, String.toList_ofList]

theorem file_eq_iff {r : ResolvedImport} : r.file = .ofString r.path ↔ '?' ∉ r.path.toList := by
  rw [file, Path.ofString_inj, Specifier.withoutQuery_eq_self_iff]

/-! ## What a module is made from -/

section

variable (resolver : Resolver.Request → Except Resolver.Failure Path)
  (reader : Path → Except FileFault String)
  (engine : Engine.Request → Except EngineError Engine.Output)

/-- The module of `r` is made from the text of `p`: nothing else is read, a text goes to the engine,
and the module is unreadable exactly if there is none. -/
structure MadeFrom (r : ResolvedImport) (p : Path) : Prop where
  read : ∀ policy t,
    ((r.transform (Services.recorded resolver reader engine) policy).run t).2.read = t.read ++ [p]
  transformed : ∀ policy t source, reader p = .ok source →
    ((r.transform (Services.recorded resolver reader engine) policy).run t).2.transformed =
      t.transformed ++ [r.request source]
  unreadable : ∀ policy t m,
    ((r.transform (Services.recorded resolver reader engine) policy).run t).1 = .ok m →
      (m.status = .unreadable ↔ ∃ fault, reader p = .error fault)

theorem status_of_bind_finish {request : Engine.Request} {r : ResolvedImport} {m : StyleModule}
    (h : (engine request).bind r.finish = .ok m) : m.status = .transformed := by
  cases hout : engine request with
  | error e =>
      rw [hout] at h
      cases h
  | ok output =>
      rw [hout] at h
      simp only [Except.bind, finish] at h
      cases hcss : Utf8.decodeString output.code with
      | error fault =>
          rw [hcss] at h
          cases h
      | ok css =>
          rw [hcss] at h
          cases h
          rfl

theorem unreadable_iff_of_settled {policy : FailurePolicy} {r : ResolvedImport} {m : StyleModule}
    (h : (r.settled reader engine policy).1 = .ok m) :
    m.status = .unreadable ↔ ∃ fault, reader r.file = .error fault := by
  unfold settled at h
  cases hfile : reader r.file with
  | error fault =>
      rw [hfile] at h
      obtain rfl := Except.ok.inj h
      exact iff_of_true rfl ⟨fault, rfl⟩
  | ok source =>
      refine iff_of_false ?_ (by simp)
      rw [hfile] at h
      simp only at h
      cases hmade : (engine (r.request source)).bind r.finish with
      | ok made =>
          rw [hmade] at h
          obtain rfl := Except.ok.inj h
          simp [status_of_bind_finish engine hmade]
      | error e =>
          rw [hmade] at h
          cases policy with
          | failFast => cases h
          | isolate =>
              obtain rfl := Except.ok.inj h
              simp [StyleModule.placeholder]

theorem madeFrom_file (r : ResolvedImport) : MadeFrom resolver reader engine r r.file where
  read policy t := by
    rw [answers_transform resolver reader engine policy r t]
    rfl
  transformed policy t source hsource := by
    rw [answers_transform resolver reader engine policy r t, Trace.transformed_append, requests,
      hsource]
  unreadable policy t m h := by
    rw [answers_transform resolver reader engine policy r t] at h
    exact unreadable_iff_of_settled reader engine h

/-- No two files can be the one that a module is made from. -/
theorem madeFrom_iff {r : ResolvedImport} {p : Path} :
    MadeFrom resolver reader engine r p ↔ r.file = p := by
  constructor
  · intro h
    have hread := (h.read .isolate {}).symm.trans
      ((madeFrom_file resolver reader engine r).read .isolate {})
    exact (List.singleton_inj.1 hread).symm
  · rintro rfl
    exact madeFrom_file resolver reader engine r

end

end ResolvedImport

/-! ## Aliased imports -/

namespace Import

section

variable (s : Resolver.FileSearch) (fs : FileSystem)
  (engine : Engine.Request → Except EngineError Engine.Output)

/-- An aliased import whose file was found at the path `p` is resolved to the text of `p`. Its
module is made from this path up to the first `?`, so from the file that was found exactly if
there is no `?` in it. -/
theorem madeFrom_found_iff {aliases : AliasTable} {importer : Option Path} {i : Import}
    {name text : String} {a : Alias} {p : Path} (halias : aliases.find? i.specifier = some a)
    (hfound : s.resolve fs { specifier := i.specifier, importer, matched := some a } = .ok p)
    (htext : p.text? = some text) :
    ∃ r : ResolvedImport,
      (∀ t, ((i.resolve (Services.recorded (s.resolve fs) fs.readText engine) aliases importer
        name).run t).1 = .resolved r) ∧
      r.path = text ∧ r.defaultImport = name ∧ r.statement = i ∧
      (r.MadeFrom (s.resolve fs) fs.readText engine p ↔ '?' ∉ text.toList) ∧
      r.MadeFrom (s.resolve fs) fs.readText engine ⟨p.bytes.takeWhile (· != '?'.toUInt8)⟩ := by
  obtain rfl := Path.text?_eq_some_iff.1 htext
  refine ⟨⟨text, name, i⟩, ?_, rfl, rfl, rfl, ?_, ?_⟩
  · intro t
    rw [answers_resolve (s.resolve fs) fs.readText engine aliases importer i name t]
    simp only [outcomeUnder, halias, hfound, outcome, htext]
  · rw [ResolvedImport.madeFrom_iff]
    exact ResolvedImport.file_eq_iff
  · rw [ResolvedImport.madeFrom_iff, ← ResolvedImport.bytes_file ⟨text, name, i⟩]

end

/-! ## A project with one stylesheet -/

/-- A file system with one file, which is empty. -/
def onlyFile (p : Path) : FileSystem where
  kind? q := if q.components = p.components then some .file else none
  canonical? q := if q.components = p.components then some p else none
  read q := if q.components = p.components then .ok [] else .error .notFound

/-- A search from the directory `/p`. -/
def fromProject : Resolver.FileSearch := { root := .ofString "/p" }

/-- An engine that refuses every stylesheet. -/
def rejecting (_ : Engine.Request) : Except EngineError Engine.Output :=
  .error (.print "rejected")

/-- An import under the key `@/`. -/
def underKey : Import :=
  ⟨"import a from '@/x.module.css'", 0, 30, "@/x.module.css", some "a", 1⟩

theorem madeFrom_found_in_styles :
    ∃ r : ResolvedImport,
      (∀ t, ((underKey.resolve (Services.recorded
        (fromProject.resolve (onlyFile (.ofString "/p/styles/x.module.css")))
        (onlyFile (.ofString "/p/styles/x.module.css")).readText rejecting)
        { entries := [⟨"@/", "./styles/"⟩] } none "a").run t).1 = .resolved r) ∧
      r.path = "/p/styles/x.module.css" ∧ r.defaultImport = "a" ∧ r.statement = underKey ∧
      (r.MadeFrom (fromProject.resolve (onlyFile (.ofString "/p/styles/x.module.css")))
        (onlyFile (.ofString "/p/styles/x.module.css")).readText rejecting
        (.ofString "/p/styles/x.module.css") ↔ '?' ∉ "/p/styles/x.module.css".toList) ∧
      r.MadeFrom (fromProject.resolve (onlyFile (.ofString "/p/styles/x.module.css")))
        (onlyFile (.ofString "/p/styles/x.module.css")).readText rejecting
        ⟨(Path.ofString "/p/styles/x.module.css").bytes.takeWhile (· != '?'.toUInt8)⟩ :=
  madeFrom_found_iff _ _ _ (a := ⟨"@/", "./styles/"⟩) (by decide +kernel) (by decide +kernel)
    (by decide +kernel)

/-- The directory that the key stands for may have a `?` in its name. A file in it is found and can
be read, and yet its module is unreadable. -/
theorem not_forall_found_readable :
    ¬ ∀ (s : Resolver.FileSearch) (fs : FileSystem)
      (engine : Engine.Request → Except EngineError Engine.Output) (aliases : AliasTable)
      (importer : Option Path) (i : Import) (name text source : String) (a : Alias) (p : Path),
      aliases.find? i.specifier = some a →
      s.resolve fs { specifier := i.specifier, importer, matched := some a } = .ok p →
      p.text? = some text → fs.readText p = .ok source →
      ∀ policy t m,
        ((ResolvedImport.transform (Services.recorded (s.resolve fs) fs.readText engine) policy
          ⟨text, name, i⟩).run t).1 = .ok m → m.status ≠ .unreadable := by
  intro h
  have hreadable := h fromProject (onlyFile (.ofString "/p/a?b/x.module.css")) rejecting
    { entries := [⟨"@/", "./a?b/"⟩] } none underKey "a" "/p/a?b/x.module.css" ""
    ⟨"@/", "./a?b/"⟩ (.ofString "/p/a?b/x.module.css") (by decide +kernel) (by decide +kernel)
    (by decide +kernel) (by decide +kernel) .isolate {}
    (.placeholder ⟨"/p/a?b/x.module.css", "a", underKey⟩ .unreadable) (by decide +kernel)
  exact hreadable rfl

end Import

end ScopedStyles
