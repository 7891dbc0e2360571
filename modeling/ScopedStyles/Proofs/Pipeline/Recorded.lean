import ScopedStyles.Pipeline
/-!
# What recorded services do

Services that are functions answer the same whatever happened before, and only add to the record.
`Answers x a d` says so of a computation: it gives `a` and adds `d`. Each stage of the pipeline has
its answer and what it adds told here, so that no proof about it has to run it.
-/

namespace ScopedStyles

namespace Trace

instance : Append Trace where
  append t d :=
    { resolved := t.resolved ++ d.resolved, read := t.read ++ d.read,
      transformed := t.transformed ++ d.transformed, reported := t.reported ++ d.reported }

@[simp] theorem resolved_append (t d : Trace) : (t ++ d).resolved = t.resolved ++ d.resolved := rfl

@[simp] theorem read_append (t d : Trace) : (t ++ d).read = t.read ++ d.read := rfl

@[simp] theorem transformed_append (t d : Trace) :
    (t ++ d).transformed = t.transformed ++ d.transformed := rfl

@[simp] theorem reported_append (t d : Trace) : (t ++ d).reported = t.reported ++ d.reported := rfl

@[ext] theorem ext {t d : Trace} (hresolved : t.resolved = d.resolved) (hread : t.read = d.read)
    (htransformed : t.transformed = d.transformed) (hreported : t.reported = d.reported) :
    t = d := by
  cases t
  cases d
  simp_all

theorem append_empty (t : Trace) : t ++ ({} : Trace) = t := by
  ext1 <;> simp

theorem append_assoc (t d e : Trace) : t ++ d ++ e = t ++ (d ++ e) := by
  ext1 <;> simp

/-- Several records, one behind the other. -/
def join (records : List Trace) : Trace :=
  records.foldr (· ++ ·) {}

theorem join_eq (records : List Trace) :
    join records =
      { resolved := records.flatMap Trace.resolved, read := records.flatMap Trace.read,
        transformed := records.flatMap Trace.transformed,
        reported := records.flatMap Trace.reported } := by
  induction records with
  | nil => rfl
  | cons d records ih =>
      have hcons : join (d :: records) = d ++ join records := rfl
      rw [hcons, ih]
      rfl

end Trace

/-- From every record on, `x` gives `a` and adds `d`. -/
def Answers {α : Type} (x : StateM Trace α) (a : α) (d : Trace) : Prop :=
  ∀ t, x.run t = (a, t ++ d)

namespace Answers

variable {α β : Type}

theorem pure (a : α) : Answers (Pure.pure a : StateM Trace α) a {} := by
  intro t
  rw [Trace.append_empty]
  rfl

theorem bind {x : StateM Trace α} {f : α → StateM Trace β} {a : α} {b : β} {d e : Trace}
    (hx : Answers x a d) (hf : Answers (f a) b e) : Answers (x >>= f) b (d ++ e) := by
  intro t
  have hrun : (x >>= f).run t = (f (x.run t).1).run (x.run t).2 := rfl
  rw [hrun, hx t, hf (t ++ d), Trace.append_assoc]

theorem bind_pure {x : StateM Trace α} {f : α → StateM Trace β} {a : α} {b : β} {d : Trace}
    (hx : Answers x a d) (hf : f a = Pure.pure b) : Answers (x >>= f) b d := by
  have hpure : Answers (f a) b {} := hf ▸ pure b
  have hbind := hx.bind hpure
  rwa [Trace.append_empty] at hbind

theorem mapM {f : α → StateM Trace β} {g : α → β} {d : α → Trace} (as : List α)
    (h : ∀ a ∈ as, Answers (f a) (g a) (d a)) :
    Answers (as.mapM f) (as.map g) (Trace.join (as.map d)) := by
  induction as with
  | nil => exact pure []
  | cons a as ih =>
      have hrest := ih fun b hb => h b (List.mem_cons_of_mem a hb)
      have hcons : Answers (as.mapM f >>= fun bs => Pure.pure (g a :: bs)) (g a :: as.map g)
          (Trace.join (as.map d)) := hrest.bind_pure rfl
      rw [List.mapM_cons]
      exact (h a List.mem_cons_self).bind hcons

theorem forM {f : α → StateM Trace Unit} {d : α → Trace} (as : List α)
    (h : ∀ a ∈ as, Answers (f a) () (d a)) :
    Answers (as.forM f) () (Trace.join (as.map d)) := by
  induction as with
  | nil => exact pure ()
  | cons a as ih =>
      have hrest := ih fun b hb => h b (List.mem_cons_of_mem a hb)
      exact (h a List.mem_cons_self).bind hrest

theorem of_eq {x : StateM Trace α} {a a' : α} {d d' : Trace} (h : Answers x a d) (ha : a = a')
    (hd : d = d') : Answers x a' d' :=
  ha ▸ hd ▸ h

end Answers

section

variable (resolver : Resolver.Request → Except Resolver.Failure Path)
  (reader : Path → Except FileFault String)
  (engine : Engine.Request → Except EngineError Engine.Output)

theorem answers_report (d : Diagnostic) :
    Answers ((Services.recorded resolver reader engine).report d) () { reported := [d] } := by
  intro t
  refine congrArg (Prod.mk ()) ?_
  ext1 <;> simp

theorem answers_reports (ds : List Diagnostic) :
    Answers (ds.forM (Services.recorded resolver reader engine).report) () { reported := ds } := by
  have hall := Answers.forM ds fun d _ => answers_report resolver reader engine d
  refine Answers.of_eq hall rfl ?_
  rw [Trace.join_eq]
  ext1 <;> simp [List.flatMap_map]

theorem answers_ask (request : Resolver.Request) :
    Answers ((Services.recorded resolver reader engine).resolve request) (resolver request)
      { resolved := [request] } := by
  intro t
  refine congrArg (Prod.mk (resolver request)) ?_
  ext1 <;> simp

theorem answers_read (p : Path) :
    Answers ((Services.recorded resolver reader engine).read p) (reader p) { read := [p] } := by
  intro t
  refine congrArg (Prod.mk (reader p)) ?_
  ext1 <;> simp

theorem answers_run (request : Engine.Request) :
    Answers ((Services.recorded resolver reader engine).transform request) (engine request)
      { transformed := [request] } := by
  intro t
  refine congrArg (Prod.mk (engine request)) ?_
  ext1 <;> simp

/-! ## Resolving -/

/-- What the resolver is asked about an import. -/
def Import.requests (aliases : AliasTable) (importer : Option Path) (i : Import) :
    List Resolver.Request :=
  (aliases.find? i.specifier).toList.map fun a =>
    { specifier := i.specifier, importer, matched := some a }

/-- What becomes of an import. -/
def Import.outcomeUnder (aliases : AliasTable) (importer : Option Path) (i : Import)
    (name : String) : Outcome :=
  match aliases.find? i.specifier with
  | none => .resolved { path := i.specifier, defaultImport := name, statement := i }
  | some a => i.outcome name (resolver { specifier := i.specifier, importer, matched := some a })

theorem answers_resolve (aliases : AliasTable) (importer : Option Path) (i : Import)
    (name : String) :
    Answers (i.resolve (Services.recorded resolver reader engine) aliases importer name)
      (i.outcomeUnder resolver aliases importer name)
      { resolved := i.requests aliases importer } := by
  unfold Import.resolve Import.outcomeUnder Import.requests
  cases aliases.find? i.specifier with
  | none => exact Answers.pure _
  | some a =>
      have hask := answers_ask resolver reader engine
        { specifier := i.specifier, importer, matched := some a }
      exact hask.bind_pure rfl

theorem mapM_named_of_missing {imports : List Import} {i : Import}
    (h : imports.find? (fun i => i.bindings.default.isNone) = some i) :
    imports.mapM Import.named = .error (.missingDefaultImport i.specifier) := by
  induction imports with
  | nil => cases h
  | cons j imports ih =>
      rw [List.mapM_cons]
      cases hname : j.bindings.default with
      | none =>
          rw [List.find?_cons_of_pos (by rw [hname]; rfl)] at h
          obtain rfl : j = i := Option.some.inj h
          rw [Import.named, hname]
          rfl
      | some name =>
          rw [List.find?_cons_of_neg (by simp [hname])] at h
          rw [Import.named, hname, ih h]
          rfl

theorem mapM_named {imports : List Import} {name : Import → String}
    (h : ∀ i ∈ imports, i.bindings.default = some (name i)) :
    imports.mapM Import.named = .ok (imports.map fun i => (i, name i)) := by
  induction imports with
  | nil => rfl
  | cons i imports ih =>
      have hrest := ih fun j hj => h j (List.mem_cons_of_mem i hj)
      rw [List.mapM_cons, hrest, Import.named, h i List.mem_cons_self]
      rfl

theorem answers_outcomes_of_missing (aliases : AliasTable) (importer : Option Path)
    {imports : List Import} {i : Import}
    (h : imports.find? (fun i => i.bindings.default.isNone) = some i) :
    Answers (Import.outcomes (Services.recorded resolver reader engine) aliases importer imports)
      (.error (.missingDefaultImport i.specifier)) {} := by
  unfold Import.outcomes
  rw [mapM_named_of_missing h]
  exact Answers.pure _

theorem answers_outcomes (aliases : AliasTable) (importer : Option Path) {imports : List Import}
    {name : Import → String} (h : ∀ i ∈ imports, i.bindings.default = some (name i)) :
    Answers (Import.outcomes (Services.recorded resolver reader engine) aliases importer imports)
      (.ok (imports.map fun i => i.outcomeUnder resolver aliases importer (name i)))
      { resolved := imports.flatMap (Import.requests aliases importer) } := by
  unfold Import.outcomes
  rw [mapM_named h]
  have hall := Answers.mapM (imports.map fun i => (i, name i)) fun p _ =>
    answers_resolve resolver reader engine aliases importer p.1 p.2
  refine Answers.of_eq (hall.bind_pure rfl) ?_ ?_
  · rw [List.map_map]
    rfl
  · rw [Trace.join_eq]
    simp only [List.map_map, List.flatMap_map, Function.comp_def]
    ext1 <;> simp

theorem answers_resolveAll_of_missing (aliases : AliasTable) (importer : Option Path)
    {imports : List Import} {i : Import}
    (h : imports.find? (fun i => i.bindings.default.isNone) = some i) :
    Answers (Import.resolveAll (Services.recorded resolver reader engine) aliases importer imports)
      (.error (.missingDefaultImport i.specifier)) {} := by
  have houtcomes := answers_outcomes_of_missing resolver reader engine aliases importer h
  exact houtcomes.bind_pure rfl

theorem answers_resolveAll (aliases : AliasTable) (importer : Option Path) {imports : List Import}
    {name : Import → String} (h : ∀ i ∈ imports, i.bindings.default = some (name i)) :
    Answers (Import.resolveAll (Services.recorded resolver reader engine) aliases importer imports)
      (.ok (imports.filterMap fun i =>
        (i.outcomeUnder resolver aliases importer (name i)).resolved?))
      { resolved := imports.flatMap (Import.requests aliases importer),
        reported := imports.filterMap fun i =>
          (i.outcomeUnder resolver aliases importer (name i)).diagnostic? } := by
  have houtcomes := answers_outcomes resolver reader engine aliases importer h
  have hcollect {β : Type} (f : Outcome → Option β) :
      (imports.map fun i => i.outcomeUnder resolver aliases importer (name i)).filterMap f =
        imports.filterMap fun i => f (i.outcomeUnder resolver aliases importer (name i)) :=
    List.filterMap_map
  have hreports := answers_reports resolver reader engine
    ((imports.map fun i => i.outcomeUnder resolver aliases importer (name i)).filterMap
      Outcome.diagnostic?)
  refine Answers.of_eq (houtcomes.bind (hreports.bind_pure rfl)) ?_ ?_
  · rw [hcollect]
  · rw [hcollect]
    ext1 <;> simp

/-! ## Transforming -/

/-- What becomes of a resolved import, and what is reported on it. -/
def ResolvedImport.settled (policy : FailurePolicy) (r : ResolvedImport) :
    Except PipelineError StyleModule × List Diagnostic :=
  match reader r.file with
  | .error fault => (.ok (.placeholder r .unreadable), [.unreadable r.path fault.message])
  | .ok source =>
    match (engine (r.request source)).bind r.finish with
    | .ok made => (.ok made, [])
    | .error e =>
      match policy with
      | .failFast => (.error (.transform r.path e), [])
      | .isolate => (.ok (.placeholder r .transformFailed), [.transformFailed r.path e.message])

/-- What the engine is given for a resolved import. -/
def ResolvedImport.requests (r : ResolvedImport) : List Engine.Request :=
  match reader r.file with
  | .error _ => []
  | .ok source => [r.request source]

theorem answers_transform (policy : FailurePolicy) (r : ResolvedImport) :
    Answers (r.transform (Services.recorded resolver reader engine) policy)
      (r.settled reader engine policy).1
      { read := [r.file], transformed := r.requests reader,
        reported := (r.settled reader engine policy).2 } := by
  have hread := answers_read resolver reader engine r.file
  unfold ResolvedImport.transform ResolvedImport.settled ResolvedImport.requests
  cases hfile : reader r.file with
  | error fault =>
      rw [hfile] at hread
      have hreport := answers_report resolver reader engine (.unreadable r.path fault.message)
      exact Answers.of_eq (hread.bind (hreport.bind_pure rfl)) rfl rfl
  | ok source =>
      rw [hfile] at hread
      have hrun := answers_run resolver reader engine (r.request source)
      simp only
      cases hmade : (engine (r.request source)).bind r.finish with
      | ok made => exact Answers.of_eq (hread.bind (hrun.bind_pure (by rw [hmade]))) rfl rfl
      | error e =>
          cases policy with
          | failFast => exact Answers.of_eq (hread.bind (hrun.bind_pure (by rw [hmade]))) rfl rfl
          | isolate =>
              have hreport := answers_report resolver reader engine
                (.transformFailed r.path e.message)
              refine Answers.of_eq (hread.bind (hrun.bind
                (b := .ok (.placeholder r .transformFailed))
                (e := { reported := [.transformFailed r.path e.message] }) ?_)) rfl rfl
              rw [hmade]
              exact hreport.bind_pure rfl

/-! ## The pipeline -/

theorem answers_process_of_missing {c : Config} (importer : Option Path) {source : String}
    {i : Import}
    (h : (Pipeline.imports c source).find? (fun i => i.bindings.default.isNone) = some i) :
    Answers (Pipeline.process (Services.recorded resolver reader engine) c importer source)
      (.error (.missingDefaultImport i.specifier)) {} := by
  have hresolve := answers_resolveAll_of_missing resolver reader engine c.aliasTable importer h
  exact hresolve.bind_pure rfl

/-- The imports of a script that keep a file. -/
def Pipeline.kept (c : Config) (importer : Option Path) (name : Import → String)
    (source : String) : List ResolvedImport :=
  (Pipeline.imports c source).filterMap fun i =>
    (i.outcomeUnder resolver c.aliasTable importer (name i)).resolved?

theorem answers_process {c : Config} (importer : Option Path) {source : String}
    {name : Import → String}
    (h : ∀ i ∈ Pipeline.imports c source, i.bindings.default = some (name i)) :
    Answers (Pipeline.process (Services.recorded resolver reader engine) c importer source)
      (((Pipeline.kept resolver c importer name source).map fun r =>
        (r.settled reader engine c.onTransformError).1).mapM id)
      { resolved := (Pipeline.imports c source).flatMap (Import.requests c.aliasTable importer),
        read := (Pipeline.kept resolver c importer name source).map ResolvedImport.file,
        transformed := (Pipeline.kept resolver c importer name source).flatMap fun r =>
          r.requests reader,
        reported :=
          ((Pipeline.imports c source).filterMap fun i =>
            (i.outcomeUnder resolver c.aliasTable importer (name i)).diagnostic?) ++
          (Pipeline.kept resolver c importer name source).flatMap fun r =>
            (r.settled reader engine c.onTransformError).2 } := by
  have hresolve := answers_resolveAll resolver reader engine c.aliasTable importer h
  have htransform := Answers.mapM (Pipeline.kept resolver c importer name source)
    fun r _ => answers_transform resolver reader engine c.onTransformError r
  refine Answers.of_eq (hresolve.bind (htransform.bind_pure rfl)) rfl ?_
  rw [Trace.join_eq, List.map_eq_flatMap (f := ResolvedImport.file)]
  ext1 <;> simp [List.flatMap_map]

end

end ScopedStyles
