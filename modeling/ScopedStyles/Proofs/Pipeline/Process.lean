import ScopedStyles.Proofs.Pipeline.Outcomes
/-!
# Every import is accounted for

Where refused stylesheets are isolated, a script's imports and what the pipeline makes of them
match one by one: an import is dropped and reported, or it has a module, and a module that could
not be made is reported.
-/

namespace ScopedStyles.Pipeline

variable (resolver : Resolver.Request → Except Resolver.Failure Path)
  (reader : Path → Except FileFault String)
  (engine : Engine.Request → Except EngineError Engine.Output)

/-! ## Modules -/

/-- `d` is what is reported on a module that could not be made. -/
inductive Reports (m : StyleModule) : Diagnostic → Prop where
  | unreadable {fault : FileFault} (hstatus : m.status = .unreadable)
      (hread : reader m.resolved.file = .error fault) :
      Reports m (.unreadable m.resolved.path fault.message)
  | transformFailed {source : String} {e : EngineError} (hstatus : m.status = .transformFailed)
      (hread : reader m.resolved.file = .ok source)
      (hrun : (engine (m.resolved.request source)).bind m.resolved.finish = .error e) :
      Reports m (.transformFailed m.resolved.path e.message)

/-- The engine made the module of its file. -/
def Makes (m : StyleModule) : Prop :=
  ∃ source, reader m.resolved.file = .ok source ∧
    (engine (m.resolved.request source)).bind m.resolved.finish = .ok m

/-- What is true of modules and of what is reported on them: each is made by the engine, or it is
empty and there is one report on it. -/
structure Settles (modules : List StyleModule) (reports : List Diagnostic) : Prop where
  css : ∀ m ∈ modules, m.css.isSome = true ↔ m.status = .transformed
  exports : ∀ m ∈ modules, m.status ≠ .transformed → m.exports = .empty
  made : ∀ m ∈ modules, m.status = .transformed → Makes reader engine m
  reports : List.Forall₂ (Reports reader engine) (modules.filter fun m => !m.isTransformed) reports

/-- `modules` and `record` are what comes of the imports `found`. Each import comes to one of
`steps`, in order. There is one module for each import that keeps a file, and its file is read. The
dropped imports are reported first, and then the modules that could not be made, in `reports`. -/
structure Accounts (aliases : AliasTable) (importer : Option Path) (found : List Import)
    (steps : List Import.Step) (modules : List StyleModule) (reports : List Diagnostic)
    (record : Trace) : Prop where
  positional : List.Forall₂ (Import.ComesTo resolver aliases importer) found steps
  kept : modules.map StyleModule.resolved = steps.flatMap Import.Step.kept
  asked : record.resolved = steps.flatMap Import.Step.asked
  read : record.read = modules.map fun m => m.resolved.file
  reported : record.reported = steps.flatMap Import.Step.reported ++ reports
  settles : Settles reader engine modules reports

/-! ## What becomes of modules -/

theorem finish_eq_ok {r : ResolvedImport} {output : Engine.Output} {m : StyleModule}
    (h : r.finish output = .ok m) :
    m.status = .transformed ∧ m.css.isSome = true ∧ m.resolved = r := by
  unfold ResolvedImport.finish at h
  split at h
  · cases h
  · cases h
    exact ⟨rfl, rfl, rfl⟩

theorem settles_nil : Settles reader engine [] [] :=
  ⟨by simp, by simp, by simp, .nil⟩

theorem Settles.append {modules modules' : List StyleModule} {reports reports' : List Diagnostic}
    (h : Settles reader engine modules reports) (h' : Settles reader engine modules' reports') :
    Settles reader engine (modules ++ modules') (reports ++ reports') := by
  refine ⟨?_, ?_, ?_, ?_⟩
  · exact List.forall_mem_append.2 ⟨h.css, h'.css⟩
  · exact List.forall_mem_append.2 ⟨h.exports, h'.exports⟩
  · exact List.forall_mem_append.2 ⟨h.made, h'.made⟩
  · rw [List.filter_append]
    exact List.rel_append h.reports h'.reports

theorem settles_placeholder {r : ResolvedImport} {status : ModuleStatus}
    (hstatus : status ≠ .transformed) {d : Diagnostic}
    (h : Reports reader engine (.placeholder r status) d) :
    Settles reader engine [.placeholder r status] [d] := by
  refine ⟨?_, ?_, ?_, ?_⟩
  · rw [List.forall_mem_singleton]
    exact iff_of_false Bool.false_ne_true hstatus
  · rw [List.forall_mem_singleton]
    exact fun _ => rfl
  · rw [List.forall_mem_singleton]
    exact fun h => absurd h hstatus
  · rw [List.filter_cons_of_pos (by simpa [StyleModule.isTransformed] using! hstatus)]
    exact .cons h .nil

theorem settles_made {r : ResolvedImport} {source : String} {m : StyleModule}
    (hread : reader r.file = .ok source)
    (hrun : (engine (r.request source)).bind r.finish = .ok m) :
    m.resolved = r ∧ Settles reader engine [m] [] := by
  cases hanswer : engine (r.request source) with
  | error e =>
      rw [hanswer] at hrun
      cases hrun
  | ok output =>
      have hfinish : r.finish output = .ok m := by
        rw [hanswer] at hrun
        exact hrun
      obtain ⟨hstatus, hcss, rfl⟩ := finish_eq_ok hfinish
      refine ⟨rfl, ?_, ?_, ?_, ?_⟩
      · rw [List.forall_mem_singleton]
        exact iff_of_true hcss hstatus
      · rw [List.forall_mem_singleton]
        exact fun h => absurd hstatus h
      · rw [List.forall_mem_singleton]
        exact fun _ => ⟨source, hread, hrun⟩
      · rw [List.filter_cons_of_neg (by simp [StyleModule.isTransformed, hstatus])]
        exact .nil

theorem exists_settles (r : ResolvedImport) :
    ∃ m, (r.settled reader engine .isolate).1 = .ok m ∧ m.resolved = r ∧
      Settles reader engine [m] (r.settled reader engine .isolate).2 := by
  unfold ResolvedImport.settled
  cases hread : reader r.file with
  | error fault =>
      exact ⟨_, rfl, rfl, settles_placeholder reader engine (by decide) (.unreadable rfl hread)⟩
  | ok source =>
      simp only
      cases hrun : (engine (r.request source)).bind r.finish with
      | ok m =>
          obtain ⟨hresolved, hsettles⟩ := settles_made reader engine hread hrun
          exact ⟨m, rfl, hresolved, hsettles⟩
      | error e =>
          exact ⟨_, rfl, rfl, settles_placeholder reader engine (by decide)
            (.transformFailed rfl hread hrun)⟩

theorem exists_settles_all (rs : List ResolvedImport) :
    ∃ modules, (rs.map fun r => (r.settled reader engine .isolate).1).mapM id = .ok modules ∧
      modules.map StyleModule.resolved = rs ∧
      Settles reader engine modules (rs.flatMap fun r => (r.settled reader engine .isolate).2) := by
  induction rs with
  | nil => exact ⟨[], rfl, rfl, settles_nil reader engine⟩
  | cons r rs ih =>
      obtain ⟨m, hm, hresolved, hsettles⟩ := exists_settles reader engine r
      obtain ⟨modules, hmodules, hresolved', hsettles'⟩ := ih
      refine ⟨m :: modules, ?_, ?_, ?_⟩
      · rw [List.map_cons, List.mapM_cons, id, hm, hmodules]
        rfl
      · rw [List.map_cons, hresolved, hresolved']
      · exact hsettles.append reader engine hsettles'

/-! ## The whole pipeline -/

/-- Imports are accounted for by modules of the files that they keep. -/
theorem accounts_of_settles {aliases : AliasTable} {importer : Option Path} {found : List Import}
    {name : Import → String} (hname : ∀ i ∈ found, i.bindings.default = some (name i))
    {modules : List StyleModule} {reports : List Diagnostic}
    (hkept : modules.map StyleModule.resolved = found.filterMap fun i =>
      (i.outcomeUnder resolver aliases importer (name i)).resolved?)
    (hsettles : Settles reader engine modules reports) {record : Trace}
    (hasked : record.resolved = found.flatMap (Import.requests aliases importer))
    (hread : record.read = (modules.map StyleModule.resolved).map ResolvedImport.file)
    (hreported : record.reported =
      (found.filterMap fun i =>
        (i.outcomeUnder resolver aliases importer (name i)).diagnostic?) ++ reports) :
    Accounts resolver reader engine aliases importer found
      (Import.stepsOf resolver aliases importer name found) modules reports record where
  positional := Import.forall₂_stepsOf resolver aliases importer hname
  kept := by rw [hkept, Import.flatMap_kept_stepsOf]
  asked := by rw [hasked, Import.flatMap_asked_stepsOf]
  read := by
    rw [hread, List.map_map]
    rfl
  reported := by rw [hreported, Import.flatMap_reported_stepsOf]
  settles := hsettles

/-- Where refused stylesheets are isolated: if an import has no default name, the first such one is
the answer and nothing is used; otherwise every import is accounted for. -/
theorem process_isolate {c : Config} (hpolicy : c.onTransformError = .isolate)
    (importer : Option Path) (source : String) (t : Trace) :
    (∀ i, (imports c source).find? (fun i => i.bindings.default.isNone) = some i →
      (process (Services.recorded resolver reader engine) c importer source).run t =
        (.error (.missingDefaultImport i.specifier), t)) ∧
    ((∀ i ∈ imports c source, i.bindings.default ≠ none) →
      ∃ steps modules reports record,
        (process (Services.recorded resolver reader engine) c importer source).run t =
          (.ok modules, t ++ record) ∧
        Accounts resolver reader engine c.aliasTable importer (imports c source) steps modules
          reports record) := by
  constructor
  · intro i hmissing
    have hanswer := answers_process_of_missing resolver reader engine importer hmissing t
    rwa [Trace.append_empty] at hanswer
  · intro hall
    have hname : ∀ i ∈ imports c source,
        i.bindings.default = some (i.bindings.default.getD "") := by
      intro i hi
      obtain ⟨name, hname⟩ := Option.ne_none_iff_exists'.1 (hall i hi)
      rw [hname]
      rfl
    have hanswer := answers_process resolver reader engine importer hname t
    obtain ⟨modules, hmodules, hresolved, hsettles⟩ := exists_settles_all reader engine
      (kept resolver c importer (fun i => i.bindings.default.getD "") source)
    rw [hpolicy, hmodules] at hanswer
    exact ⟨_, modules, _, _, hanswer,
      accounts_of_settles resolver reader engine hname hresolved hsettles rfl
        (congrArg (List.map ResolvedImport.file) hresolved.symm) rfl⟩

/-- One alias, and the policy that isolates. -/
def isolating : Config where
  aliases := .ofList [("@/", "./styles/")]
  onTransformError := .isolate
  extensions := [".css"]

/-- Imports that end in every way: with an alias, resolved to a file or not or to a path that is no
text; without one, with a stylesheet that is missing, refused or transformed. -/
def mixedScript : String :=
  "import a from '@/a.css'\nimport b from 'b.css'\nimport c from 'c.css'\n" ++
  "import d from '@/d.css'\nimport e from 'e.css'\nimport f from '@/f.css'"

def mixedResolver (request : Resolver.Request) : Except Resolver.Failure Path :=
  if request.specifier = "@/d.css" then .ok (.ofString "/p/styles/d.css")
  else if request.specifier = "@/f.css" then .ok ⟨[0xFF]⟩
  else .error ⟨request.specifier, .notFound, []⟩

def mixedReader (p : Path) : Except FileFault String :=
  if p = .ofString "b.css" then .error .notFound
  else if p = .ofString "c.css" then .ok "broken"
  else .ok ".x{}"

def mixedEngine (request : Engine.Request) : Except EngineError Engine.Output :=
  if request.code = Text.Utf8.encode "broken".toList then .error (.print "refused")
  else .ok { code := request.code, exports := none }

theorem imports_mixedScript : imports isolating mixedScript =
    [⟨"import a from '@/a.css'", 0, 23, "@/a.css", some "a", 1⟩,
    ⟨"import b from 'b.css'", 24, 45, "b.css", some "b", 2⟩,
    ⟨"import c from 'c.css'", 46, 67, "c.css", some "c", 3⟩,
    ⟨"import d from '@/d.css'", 68, 91, "@/d.css", some "d", 4⟩,
    ⟨"import e from 'e.css'", 92, 113, "e.css", some "e", 5⟩,
    ⟨"import f from '@/f.css'", 114, 137, "@/f.css", some "f", 6⟩] := by
  decide +kernel

theorem process_isolate_mixed :
    (process (Services.recorded mixedResolver mixedReader mixedEngine) isolating none
        "import './a.css'").run {} = (.error (.missingDefaultImport "./a.css"), {}) ∧
      ∃ steps modules reports record,
        (process (Services.recorded mixedResolver mixedReader mixedEngine) isolating none
          mixedScript).run {} = (.ok modules, ({} : Trace) ++ record) ∧
        Accounts mixedResolver mixedReader mixedEngine isolating.aliasTable none
          (imports isolating mixedScript) steps modules reports record ∧
        modules.map StyleModule.status =
          [.unreadable, .transformFailed, .transformed, .transformed] ∧
        record.reported.map Diagnostic.code =
          ["CSS_MODULE_UNRESOLVED", "CSS_MODULE_UNRESOLVED", "CSS_MODULE_UNREADABLE",
            "CSS_MODULE_TRANSFORM_FAILED"] := by
  constructor
  · apply (process_isolate _ _ _ rfl none _ {}).1 ⟨"import './a.css'", 0, 16, "./a.css", none, 1⟩
    decide +kernel
  · have hnamed : ∀ i ∈ imports isolating mixedScript, i.bindings.default ≠ none := by
      rw [imports_mixedScript]
      decide +kernel
    obtain ⟨steps, modules, reports, record, hrun, haccounts⟩ :=
      (process_isolate mixedResolver mixedReader mixedEngine (c := isolating) rfl none
        mixedScript {}).2 hnamed
    have hmixed : ((process (Services.recorded mixedResolver mixedReader mixedEngine) isolating
        none mixedScript).run {}).map (·.map (List.map StyleModule.status))
          (·.reported.map Diagnostic.code) =
        (.ok [.unreadable, .transformFailed, .transformed, .transformed],
          ["CSS_MODULE_UNRESOLVED", "CSS_MODULE_UNRESOLVED", "CSS_MODULE_UNREADABLE",
            "CSS_MODULE_TRANSFORM_FAILED"]) := by
      rw [process, imports_mixedScript]
      decide +kernel
    rw [hrun] at hmixed
    obtain ⟨hstatus, hcodes⟩ := Prod.mk.inj hmixed
    exact ⟨steps, modules, reports, record, hrun, haccounts, Except.ok.inj hstatus, hcodes⟩

end ScopedStyles.Pipeline
