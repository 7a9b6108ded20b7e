import SchemaShift.Compile.Alike
import SchemaShift.Migration.Plan

/-!
# Schema steps

A step is a table change, which is compiled for the engine of a session, or an SQL statement that is
executed as it is.

* `result_runAll_append`: running two lists of steps is running one after the other.
* `Session.Alike.steps`: sessions that are alike carry out steps alike.
-/

namespace SchemaShift

/-- One schema operation of a migration. -/
inductive Step where
  | create (plan : TablePlan)
  | alter (plan : TablePlan)
  | drop (table : String)
  | dropIfExists (table : String)
  | rename (table target : String)
  | sql (statement : String)
deriving DecidableEq, Repr

namespace Step

variable {σ : Type}

/-- Carries out a step. -/
def run (session : Session σ) : Step → DbM σ Unit
  | create plan => plan.create.build session
  | alter plan => plan.alter.build session
  | drop table => ({ table } : Blueprint).drop.build session
  | dropIfExists table => ({ table } : Blueprint).dropIfExists.build session
  | rename table target => (({ table } : Blueprint).rename target).build session
  | sql statement => session.execute statement

/-- Equality up to the comparison of floating-point defaults. -/
def same : Step → Step → Bool
  | create a, create b | alter a, alter b => a.same b
  | a, b => a == b

/-- Carries out steps in order, up to the first that fails. -/
def runAll (session : Session σ) : List Step → DbM σ Unit
  | [] => pure ()
  | step :: rest => do
    step.run session
    runAll session rest

theorem result_runAll_append (session : Session σ) (first second : List Step) (s : σ) :
    (runAll session (first ++ second)).result s =
      (do runAll session first; runAll session second : DbM σ Unit).result s := by
  induction first generalizing s with
  | nil => rfl
  | cons step rest ih =>
    simp only [List.cons_append, runAll, DbM.result_bind]
    rcases (step.run session).result s with ⟨e | u, s'⟩
    · rfl
    · simpa only [DbM.result_bind] using ih s'

end Step

namespace Session.Alike

variable {σ τ : Type} {R : ActionRelation σ τ} {a : Session σ} {b : Session τ}

theorem step (h : a.Alike R b) (s : Step) : R.holds (s.run a) (s.run b) := by
  cases s with
  | create plan => exact h.build plan.create
  | alter plan => exact h.build plan.alter
  | drop table | dropIfExists table | rename table target => exact h.build _
  | sql statement => exact h.execute statement

theorem steps (h : a.Alike R b) (ss : List Step) :
    R.holds (Step.runAll a ss) (Step.runAll b ss) := by
  induction ss with
  | nil => exact R.pure _
  | cons s ss ih => exact R.bind (h.step s) fun _ => ih

end Session.Alike

end SchemaShift
