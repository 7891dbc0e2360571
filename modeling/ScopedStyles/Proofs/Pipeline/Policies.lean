import ScopedStyles.Proofs.Pipeline.FoundFile
import ScopedStyles.Proofs.Pipeline.Process
/-!
# Failing fast and isolating

A pipeline does the same work under both policies for refused stylesheets, also behind the first
refusal. All that the policy decides is whether a refusal is the answer or a report.
-/

namespace ScopedStyles

/-- Whether a diagnostic is about a stylesheet that the engine refused. -/
def Diagnostic.isRefusal : Diagnostic → Bool
  | transformFailed .. => true
  | _ => false

namespace Pipeline

/-- What failing fast answers where isolating makes `modules` with the given reports on refused
stylesheets: all modules if none is refused, and else the cause of the first refusal. -/
inductive FirstRefusal : List StyleModule → List Diagnostic →
    Except PipelineError (List StyleModule) → Prop where
  | made {modules : List StyleModule} (h : ∀ m ∈ modules, m.status ≠ .transformFailed) :
      FirstRefusal modules [] (.ok modules)
  | refused {front back : List StyleModule} {m : StyleModule} {cause : EngineError}
      {later : List Diagnostic} (hfront : ∀ n ∈ front, n.status ≠ .transformFailed)
      (hrefused : m.status = .transformFailed) :
      FirstRefusal (front ++ m :: back)
        (.transformFailed m.resolved.path cause.message :: later)
        (.error (.transform m.resolved.path cause))

variable (resolver : Resolver.Request → Except Resolver.Failure Path)
  (reader : Path → Except FileFault String)
  (engine : Engine.Request → Except EngineError Engine.Output)

/-- `answer` and `failing` are the answer and the record of failing fast where isolating makes
`modules` with the record `isolating`. -/
structure Agrees (answer : Except PipelineError (List StyleModule)) (failing : Trace)
    (modules : List StyleModule) (isolating : Trace) : Prop where
  answer : FirstRefusal modules (isolating.reported.filter Diagnostic.isRefusal) answer
  refusals : List.Forall₂ (Reports reader engine)
    (modules.filter fun m => m.status = .transformFailed)
    (isolating.reported.filter Diagnostic.isRefusal)
  record : failing =
    { isolating with reported := isolating.reported.filter fun d => !d.isRefusal }
  same : (∀ m ∈ modules, m.status ≠ .transformFailed) → failing = isolating

/-! ## One import -/

/-- The policy does not matter for an import, or the engine refuses its stylesheet. -/
theorem settled_cases (r : ResolvedImport) :
    (∃ m reports, m.status ≠ .transformFailed ∧ (∀ d ∈ reports, d.isRefusal = false) ∧
      ∀ policy, r.settled reader engine policy = (.ok m, reports)) ∨
    ∃ cause : EngineError,
      Reports reader engine (.placeholder r .transformFailed)
        (.transformFailed r.path cause.message) ∧
      r.settled reader engine .failFast = (.error (.transform r.path cause), []) ∧
      r.settled reader engine .isolate =
        (.ok (.placeholder r .transformFailed), [.transformFailed r.path cause.message]) := by
  unfold ResolvedImport.settled
  cases hread : reader r.file with
  | error fault =>
      left
      refine ⟨.placeholder r .unreadable, [.unreadable r.path fault.message], ?_, ?_, ?_⟩
      · exact ModuleStatus.noConfusion
      · rw [List.forall_mem_singleton]
        rfl
      · exact fun _ => rfl
  | ok source =>
      cases hrun : (engine (r.request source)).bind r.finish with
      | ok m =>
          left
          refine ⟨m, [], ?_, by simp, fun _ => by simp only [hrun]⟩
          rw [ResolvedImport.status_of_bind_finish engine hrun]
          exact ModuleStatus.noConfusion
      | error cause =>
          right
          refine ⟨cause, .transformFailed rfl hread hrun, ?_, ?_⟩
          · simp only [hrun]
          · simp only [hrun]

/-! ## All imports -/

theorem filter_not_isRefusal_eq_self {reports : List Diagnostic}
    (h : reports.filter Diagnostic.isRefusal = []) :
    (reports.filter fun d => !d.isRefusal) = reports := by
  rw [List.filter_eq_self]
  intro d hd
  have hd' := List.filter_eq_nil_iff.1 h d hd
  rwa [Bool.not_eq_true, ← Bool.not_eq_true'] at hd'

theorem FirstRefusal.cons {m : StyleModule} (hm : m.status ≠ .transformFailed)
    {modules : List StyleModule} {refusals : List Diagnostic}
    {answer : Except PipelineError (List StyleModule)} (h : FirstRefusal modules refusals answer) :
    FirstRefusal (m :: modules) refusals ((m :: ·) <$> answer) := by
  cases h with
  | made hmade => exact .made (List.forall_mem_cons.2 ⟨hm, hmade⟩)
  | @refused front back n cause later hfront hrefused =>
      have hfront' : ∀ n ∈ m :: front, n.status ≠ .transformFailed :=
        List.forall_mem_cons.2 ⟨hm, hfront⟩
      exact .refused hfront' hrefused

theorem mapM_id_cons_ok {ε α : Type} (a : α) (answers : List (Except ε α)) :
    (.ok a :: answers).mapM id = (a :: ·) <$> answers.mapM id := by
  rw [List.mapM_cons]
  cases answers.mapM id <;> rfl

theorem mapM_id_cons_error {ε α : Type} (e : ε) (answers : List (Except ε α)) :
    (.error e :: answers).mapM id = .error e := by
  rw [List.mapM_cons]
  rfl

/-- The answer of making all modules under a policy. -/
def answerUnder (policy : FailurePolicy) (rs : List ResolvedImport) :
    Except PipelineError (List StyleModule) :=
  (rs.map fun r => (r.settled reader engine policy).1).mapM id

/-- The reports on all modules under a policy. -/
def reportsUnder (policy : FailurePolicy) (rs : List ResolvedImport) : List Diagnostic :=
  rs.flatMap fun r => (r.settled reader engine policy).2

/-- How making modules from `rs` under both policies compares where isolating makes `modules`. -/
structure Compared (rs : List ResolvedImport) (modules : List StyleModule) : Prop where
  made : answerUnder reader engine .isolate rs = .ok modules
  answer : FirstRefusal modules
    ((reportsUnder reader engine .isolate rs).filter Diagnostic.isRefusal)
    (answerUnder reader engine .failFast rs)
  refusals : List.Forall₂ (Reports reader engine)
    (modules.filter fun m => m.status = .transformFailed)
    ((reportsUnder reader engine .isolate rs).filter Diagnostic.isRefusal)
  kept : reportsUnder reader engine .failFast rs =
    (reportsUnder reader engine .isolate rs).filter fun d => !d.isRefusal

namespace Compared

variable {reader engine} {rs : List ResolvedImport} {modules : List StyleModule}
  {r : ResolvedImport}

theorem nil : Compared reader engine [] [] where
  made := rfl
  answer := .made (by simp)
  refusals := .nil
  kept := rfl

theorem cons_kept {m : StyleModule} {reports : List Diagnostic} (hm : m.status ≠ .transformFailed)
    (hreports : ∀ d ∈ reports, d.isRefusal = false)
    (hsettled : ∀ policy, r.settled reader engine policy = (.ok m, reports))
    (h : Compared reader engine rs modules) : Compared reader engine (r :: rs) (m :: modules) := by
  have hanswer (policy : FailurePolicy) : answerUnder reader engine policy (r :: rs) =
      (m :: ·) <$> answerUnder reader engine policy rs := by
    rw [answerUnder, List.map_cons, hsettled, mapM_id_cons_ok]
    rfl
  have hall (policy : FailurePolicy) : reportsUnder reader engine policy (r :: rs) =
      reports ++ reportsUnder reader engine policy rs := by
    rw [reportsUnder, List.flatMap_cons, hsettled]
    rfl
  have hnone : reports.filter Diagnostic.isRefusal = [] := by
    rw [List.filter_eq_nil_iff]
    intro d hd
    rw [hreports d hd]
    exact Bool.false_ne_true
  constructor
  case made =>
      rw [hanswer, h.made]
      rfl
  case answer =>
      rw [hall, hanswer, List.filter_append, hnone]
      exact h.answer.cons hm
  case refusals =>
      rw [hall, List.filter_append, hnone, List.filter_cons_of_neg (by simpa using hm)]
      exact h.refusals
  case kept =>
      rw [hall, hall, List.filter_append, filter_not_isRefusal_eq_self hnone, h.kept]

theorem cons_refused {cause : EngineError}
    (hreport : Reports reader engine (.placeholder r .transformFailed)
      (.transformFailed r.path cause.message))
    (hfailing : r.settled reader engine .failFast = (.error (.transform r.path cause), []))
    (hisolating : r.settled reader engine .isolate =
      (.ok (.placeholder r .transformFailed), [.transformFailed r.path cause.message]))
    (h : Compared reader engine rs modules) :
    Compared reader engine (r :: rs) (.placeholder r .transformFailed :: modules) := by
  have hall : reportsUnder reader engine .isolate (r :: rs) =
      .transformFailed r.path cause.message :: reportsUnder reader engine .isolate rs := by
    rw [reportsUnder, List.flatMap_cons, hisolating]
    rfl
  constructor
  case made =>
      rw [answerUnder, List.map_cons, hisolating, mapM_id_cons_ok, ← answerUnder, h.made]
      rfl
  case answer =>
      have hfront : ∀ n ∈ ([] : List StyleModule), n.status ≠ .transformFailed := by simp
      rw [hall, answerUnder, List.map_cons, hfailing, mapM_id_cons_error]
      exact .refused hfront rfl
  case refusals =>
      rw [hall, List.filter_cons_of_pos (by simp [StyleModule.placeholder])]
      exact .cons hreport h.refusals
  case kept =>
      rw [hall, reportsUnder, List.flatMap_cons, hfailing]
      exact h.kept

end Compared

theorem exists_compared (rs : List ResolvedImport) :
    ∃ modules, Compared reader engine rs modules := by
  induction rs with
  | nil => exact ⟨[], .nil⟩
  | cons r rs ih =>
      obtain ⟨modules, hmodules⟩ := ih
      rcases settled_cases reader engine r with
        ⟨m, reports, hm, hreports, hsettled⟩ | ⟨cause, hreport, hfailing, hisolating⟩
      · exact ⟨m :: modules, hmodules.cons_kept hm hreports hsettled⟩
      · exact ⟨_, hmodules.cons_refused hreport hfailing hisolating⟩

/-! ## Two runs -/

theorem isRefusal_of_diagnostic? {o : Outcome} {d : Diagnostic} (h : o.diagnostic? = some d) :
    d.isRefusal = false := by
  cases o with
  | resolved r => cases h
  | omitted i failure =>
      obtain rfl := Option.some.inj h
      rfl

theorem filter_isRefusal_dropped (aliases : AliasTable) (importer : Option Path)
    (name : Import → String) (found : List Import) :
    (found.filterMap fun i =>
      (i.outcomeUnder resolver aliases importer (name i)).diagnostic?).filter
        Diagnostic.isRefusal = [] := by
  rw [List.filter_eq_nil_iff]
  intro d hd
  obtain ⟨i, -, hi⟩ := List.mem_filterMap.1 hd
  rw [isRefusal_of_diagnostic? hi]
  exact Bool.false_ne_true

theorem agrees_of_reported {answer : Except PipelineError (List StyleModule)}
    {modules : List StyleModule} {failing isolating : Trace}
    (hanswer : FirstRefusal modules (isolating.reported.filter Diagnostic.isRefusal) answer)
    (hrefusals : List.Forall₂ (Reports reader engine)
      (modules.filter fun m => m.status = .transformFailed)
      (isolating.reported.filter Diagnostic.isRefusal))
    (hrecord : failing =
      { isolating with reported := isolating.reported.filter fun d => !d.isRefusal }) :
    Agrees reader engine answer failing modules isolating := by
  refine ⟨hanswer, hrefusals, hrecord, ?_⟩
  intro hmade
  have hnone : (modules.filter fun m => m.status = .transformFailed) = [] := by
    rw [List.filter_eq_nil_iff]
    intro m hm
    simpa using hmade m hm
  rw [hnone, List.forall₂_nil_left_iff] at hrefusals
  rw [hrecord, filter_not_isRefusal_eq_self hrefusals]

/-- The record of a pipeline under a policy, where every import has the default name `name`. -/
def recordUnder (c : Config) (importer : Option Path) (name : Import → String) (source : String)
    (policy : FailurePolicy) : Trace where
  resolved := (imports c source).flatMap (Import.requests c.aliasTable importer)
  read := (kept resolver c importer name source).map ResolvedImport.file
  transformed := (kept resolver c importer name source).flatMap fun r => r.requests reader
  reported :=
    ((imports c source).filterMap fun i =>
      (i.outcomeUnder resolver c.aliasTable importer (name i)).diagnostic?) ++
    reportsUnder reader engine policy (kept resolver c importer name source)

theorem answers_process_under {c : Config} (importer : Option Path) {source : String}
    {name : Import → String}
    (h : ∀ i ∈ imports c source, i.bindings.default = some (name i)) (policy : FailurePolicy) :
    Answers (process (Services.recorded resolver reader engine)
        { c with onTransformError := policy } importer source)
      (answerUnder reader engine policy (kept resolver c importer name source))
      (recordUnder resolver reader engine c importer name source policy) := by
  exact answers_process resolver reader engine
    (c := { c with onTransformError := policy }) importer h

/-- Either an import has no default name, and both policies answer so and do nothing, or isolating
makes modules that account for every import of the script, and failing fast agrees with it. -/
theorem process_failFast_agrees (c : Config) (importer : Option Path) (source : String) :
    (∃ i, (imports c source).find? (fun i => i.bindings.default.isNone) = some i ∧
      ∀ policy, Answers (process (Services.recorded resolver reader engine)
        { c with onTransformError := policy } importer source)
        (.error (.missingDefaultImport i.specifier)) {}) ∨
    ∃ answer failing steps modules reports isolating,
      Answers (process (Services.recorded resolver reader engine)
        { c with onTransformError := .failFast } importer source) answer failing ∧
      Answers (process (Services.recorded resolver reader engine)
        { c with onTransformError := .isolate } importer source) (.ok modules) isolating ∧
      Accounts resolver reader engine c.aliasTable importer (imports c source) steps modules
        reports isolating ∧
      Agrees reader engine answer failing modules isolating := by
  cases hmissing : (imports c source).find? fun i => i.bindings.default.isNone with
  | some i =>
      left
      refine ⟨i, rfl, ?_⟩
      intro policy
      exact answers_process_of_missing resolver reader engine importer hmissing
  | none =>
      right
      have hname : ∀ i ∈ imports c source,
          i.bindings.default = some (i.bindings.default.getD "") := by
        intro i hi
        have hsome := List.find?_eq_none.1 hmissing i hi
        exact (Option.getD_of_ne_none (by simpa using hsome) "").symm
      have hanswers := answers_process_under resolver reader engine importer hname
      obtain ⟨modules, hcompared⟩ := exists_compared reader engine
        (kept resolver c importer (fun i => i.bindings.default.getD "") source)
      have hisolating := hanswers .isolate
      rw [hcompared.made] at hisolating
      obtain ⟨modules', hmodules', hresolved, hsettles⟩ := exists_settles_all reader engine
        (kept resolver c importer (fun i => i.bindings.default.getD "") source)
      obtain rfl : modules = modules' := Except.ok.inj (hcompared.made.symm.trans hmodules')
      refine ⟨_, _, _, modules, _, _, hanswers .failFast, hisolating,
        accounts_of_settles resolver reader engine hname hresolved hsettles rfl
          (congrArg (List.map ResolvedImport.file) hresolved.symm) rfl, ?_⟩
      have hdropped := filter_isRefusal_dropped resolver c.aliasTable importer
        (fun i => i.bindings.default.getD "") (imports c source)
      apply agrees_of_reported
      · rw [recordUnder, List.filter_append, hdropped]
        exact hcompared.answer
      · rw [recordUnder, List.filter_append, hdropped]
        exact hcompared.refusals
      · rw [recordUnder, recordUnder, List.filter_append, filter_not_isRefusal_eq_self hdropped,
          hcompared.kept]

end Pipeline

end ScopedStyles
