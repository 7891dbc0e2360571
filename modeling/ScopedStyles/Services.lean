import ScopedStyles.Diagnostic
import ScopedStyles.Engine
import ScopedStyles.FileSystem
/-!
# Services

What the pipeline relies on: a resolver, a reader of files, an engine, and a receiver of
diagnostics. They run in any monad. `Services.recorded` makes services of plain functions and keeps
a record of every use, so that what is asked and reported, and in which order, can be told.
-/

namespace ScopedStyles

/-- The services of a pipeline. -/
structure Services (m : Type → Type) where
  resolve : Resolver.Request → m (Except Resolver.Failure Path)
  read : Path → m (Except FileFault String)
  transform : Engine.Request → m (Except EngineError Engine.Output)
  report : Diagnostic → m Unit

/-- The uses of services, in order. Imports are handled one after the other, so this is the record
of one schedule: where imports are handled at the same time, each makes the same uses in the same
order, but the reads of stylesheets and the reports on them may stand in another order between
imports. -/
structure Trace where
  resolved : List Resolver.Request := []
  read : List Path := []
  transformed : List Engine.Request := []
  reported : List Diagnostic := []
  deriving DecidableEq, Repr

/-- Services that are functions, with a record of their uses. -/
def Services.recorded (resolver : Resolver.Request → Except Resolver.Failure Path)
    (reader : Path → Except FileFault String)
    (engine : Engine.Request → Except EngineError Engine.Output) : Services (StateM Trace) where
  resolve r := do
    modify fun t => { t with resolved := t.resolved ++ [r] }
    return resolver r
  read p := do
    modify fun t => { t with read := t.read ++ [p] }
    return reader p
  transform r := do
    modify fun t => { t with transformed := t.transformed ++ [r] }
    return engine r
  report d := modify fun t => { t with reported := t.reported ++ [d] }

end ScopedStyles
