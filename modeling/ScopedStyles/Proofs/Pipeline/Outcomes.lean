import Mathlib.Data.List.Forall2
import ScopedStyles.Proofs.Alias
import ScopedStyles.Proofs.Pipeline.Recorded
import ScopedStyles.Proofs.Text.Utf8
/-!
# One outcome for each import

Whether all imports have a default name is settled before anything else is done. From then on
each import stands for itself: what the resolver is asked about it, what becomes of it, and what is
kept or reported of it follow from this import alone, and stand at its place.
-/

namespace ScopedStyles.Import

variable (resolver : Resolver.Request → Except Resolver.Failure Path)
  (reader : Path → Except FileFault String)
  (engine : Engine.Request → Except EngineError Engine.Output)
  (aliases : AliasTable) (importer : Option Path)

/-- What resolving one import comes to. -/
structure Step where
  asked : List Resolver.Request
  outcome : Outcome
  kept : List ResolvedImport
  reported : List Diagnostic

/-- What resolving `i` comes to. If no key starts the specifier, it is the file, and nobody is
asked. Otherwise the resolver is asked once with the alias that applies, and its answer must be a
path that is a text. -/
inductive ComesTo (i : Import) : Step → Prop where
  | asWritten {name : String} (hname : i.bindings.default = some name)
      (hunmatched : aliases.Unmatched i.specifier) :
      ComesTo i
        { asked := []
          outcome := .resolved ⟨i.specifier, name, i⟩
          kept := [⟨i.specifier, name, i⟩]
          reported := [] }
  | found {name text : String} {a : Alias} (hname : i.bindings.default = some name)
      (happlies : aliases.Applies i.specifier a)
      (hanswer : resolver ⟨i.specifier, importer, some a⟩ = .ok (.ofString text)) :
      ComesTo i
        { asked := [⟨i.specifier, importer, some a⟩]
          outcome := .resolved ⟨text, name, i⟩
          kept := [⟨text, name, i⟩]
          reported := [] }
  | refused {a : Alias} {failure : Resolver.Failure} (happlies : aliases.Applies i.specifier a)
      (hanswer : resolver ⟨i.specifier, importer, some a⟩ = .error failure) :
      ComesTo i
        { asked := [⟨i.specifier, importer, some a⟩]
          outcome := .omitted i failure
          kept := []
          reported := [.unresolved i.specifier failure.reason] }
  | noText {a : Alias} {path : Path} (happlies : aliases.Applies i.specifier a)
      (hanswer : resolver ⟨i.specifier, importer, some a⟩ = .ok path)
      (htext : ∀ text, .ofString text ≠ path) :
      ComesTo i
        { asked := [⟨i.specifier, importer, some a⟩]
          outcome := .omitted i ⟨i.specifier, .specifierInvalid, [path]⟩
          kept := []
          reported := [.unresolved i.specifier .specifierInvalid] }

theorem ComesTo.unique {i : Import} {s s' : Step} (h : ComesTo resolver aliases importer i s)
    (h' : ComesTo resolver aliases importer i s') : s = s' := by
  cases h <;> cases h' <;>
    simp_all [← AliasTable.find?_eq_none_iff, ← AliasTable.find?_eq_some_iff, Path.ofString_inj]

theorem rightUnique_comesTo : Relator.RightUnique (ComesTo resolver aliases importer) :=
  fun _ _ _ => ComesTo.unique resolver aliases importer

/-- The step whose outcome is `o`. -/
def Step.of (asked : List Resolver.Request) (o : Outcome) : Step :=
  { asked, outcome := o, kept := o.resolved?.toList, reported := o.diagnostic?.toList }

theorem comesTo_of {i : Import} {name : String} (hname : i.bindings.default = some name) :
    ComesTo resolver aliases importer i
      (.of (i.requests aliases importer) (i.outcomeUnder resolver aliases importer name)) := by
  unfold Import.requests Import.outcomeUnder
  cases hfind : aliases.find? i.specifier with
  | none => exact .asWritten hname ((AliasTable.find?_eq_none_iff _ _).1 hfind)
  | some a =>
      have happlies := AliasTable.find?_eq_some_iff.1 hfind
      simp only [Import.outcome]
      cases hanswer : resolver { specifier := i.specifier, importer, matched := some a } with
      | error failure => exact .refused happlies hanswer
      | ok path =>
          simp only
          cases htext : path.text? with
          | none =>
              refine .noText happlies hanswer fun text hpath => ?_
              rw [Path.text?_eq_some_iff.2 hpath.symm] at htext
              cases htext
          | some text =>
              rw [Path.text?_eq_some_iff.1 htext] at hanswer
              exact .found hname happlies hanswer

/-- The steps of imports that all have a default name. -/
def stepsOf (name : Import → String) (imports : List Import) : List Step :=
  imports.map fun i =>
    .of (i.requests aliases importer) (i.outcomeUnder resolver aliases importer (name i))

theorem forall₂_stepsOf {imports : List Import} {name : Import → String}
    (h : ∀ i ∈ imports, i.bindings.default = some (name i)) :
    List.Forall₂ (ComesTo resolver aliases importer) imports
      (stepsOf resolver aliases importer name imports) := by
  rw [stepsOf, List.forall₂_map_right_iff, List.forall₂_same]
  exact fun i hi => comesTo_of resolver aliases importer (h i hi)

section

variable (name : Import → String) (imports : List Import)

theorem flatMap_asked_stepsOf :
    (stepsOf resolver aliases importer name imports).flatMap Step.asked =
      imports.flatMap (Import.requests aliases importer) := by
  rw [stepsOf, List.flatMap_map]
  rfl

theorem flatMap_kept_stepsOf :
    (stepsOf resolver aliases importer name imports).flatMap Step.kept =
      imports.filterMap fun i =>
        (i.outcomeUnder resolver aliases importer (name i)).resolved? := by
  rw [stepsOf, List.flatMap_map, List.filterMap_eq_flatMap_toList]
  rfl

theorem flatMap_reported_stepsOf :
    (stepsOf resolver aliases importer name imports).flatMap Step.reported =
      imports.filterMap fun i =>
        (i.outcomeUnder resolver aliases importer (name i)).diagnostic? := by
  rw [stepsOf, List.flatMap_map, List.filterMap_eq_flatMap_toList]
  rfl

end

theorem run_outcomes {imports : List Import} {name : Import → String}
    (h : ∀ i ∈ imports, i.bindings.default = some (name i)) (t : Trace) :
    (outcomes (Services.recorded resolver reader engine) aliases importer imports).run t =
      (.ok ((stepsOf resolver aliases importer name imports).map Step.outcome),
        { t with resolved := t.resolved ++
                   (stepsOf resolver aliases importer name imports).flatMap Step.asked }) := by
  have hanswer := answers_outcomes resolver reader engine aliases importer h t
  rw [hanswer, flatMap_asked_stepsOf, stepsOf, List.map_map]
  refine congrArg (Prod.mk _) ?_
  ext1 <;> simp

theorem run_resolveAll {imports : List Import} {name : Import → String}
    (h : ∀ i ∈ imports, i.bindings.default = some (name i)) (t : Trace) :
    (resolveAll (Services.recorded resolver reader engine) aliases importer imports).run t =
      (.ok ((stepsOf resolver aliases importer name imports).flatMap Step.kept),
        { t with resolved := t.resolved ++
                   (stepsOf resolver aliases importer name imports).flatMap Step.asked
                 reported := t.reported ++
                   (stepsOf resolver aliases importer name imports).flatMap Step.reported }) := by
  have hanswer := answers_resolveAll resolver reader engine aliases importer h t
  rw [hanswer, flatMap_asked_stepsOf, flatMap_kept_stepsOf, flatMap_reported_stepsOf]
  refine congrArg (Prod.mk _) ?_
  ext1 <;> simp

/-- Imports are resolved all or not at all: without a default name for the first of them that has
none, the stage fails with its specifier and does nothing. Otherwise there is one step for every
one of them, in their order, and the stage asks, answers and reports what the steps say. -/
theorem resolveAll_positional (imports : List Import) (t : Trace) :
    (∀ i, imports.find? (fun i => i.bindings.default.isNone) = some i →
      (outcomes (Services.recorded resolver reader engine) aliases importer imports).run t =
          (.error (.missingDefaultImport i.specifier), t) ∧
        (resolveAll (Services.recorded resolver reader engine) aliases importer imports).run t =
          (.error (.missingDefaultImport i.specifier), t)) ∧
    ((∀ i ∈ imports, i.bindings.default ≠ none) →
      ∃! steps, List.Forall₂ (ComesTo resolver aliases importer) imports steps ∧
        (outcomes (Services.recorded resolver reader engine) aliases importer imports).run t =
          (.ok (steps.map Step.outcome),
            { t with resolved := t.resolved ++ steps.flatMap Step.asked }) ∧
        (resolveAll (Services.recorded resolver reader engine) aliases importer imports).run t =
          (.ok (steps.flatMap Step.kept),
            { t with resolved := t.resolved ++ steps.flatMap Step.asked
                     reported := t.reported ++ steps.flatMap Step.reported })) := by
  constructor
  · intro i hmissing
    have houtcomes :=
      answers_outcomes_of_missing resolver reader engine aliases importer hmissing t
    have hresolved :=
      answers_resolveAll_of_missing resolver reader engine aliases importer hmissing t
    rw [Trace.append_empty] at houtcomes hresolved
    exact ⟨houtcomes, hresolved⟩
  · intro hall
    have hname : ∀ i ∈ imports, i.bindings.default = some (i.bindings.default.getD "") := by
      intro i hi
      obtain ⟨name, hname⟩ := Option.ne_none_iff_exists'.1 (hall i hi)
      rw [hname]
      rfl
    have hsteps := forall₂_stepsOf resolver aliases importer hname
    refine ⟨_, ⟨hsteps, run_outcomes resolver reader engine aliases importer hname t,
      run_resolveAll resolver reader engine aliases importer hname t⟩, ?_⟩
    rintro others ⟨hothers, -⟩
    exact (rightUnique_comesTo resolver aliases importer).forall₂ hothers hsteps

end ScopedStyles.Import
