import SchemaShift.Migration.Step

/-!
# Migrations

A migration changes a schema, and changes it back: either way it is an action on whatever session it
is given. It asks the session queries and has it execute statements, and may catch what fails;
transactions are not its own. Documents are migrations that carry out lists of steps.

* `Session.Alike.run`: sessions that are alike run a migration alike.
* `MigrationDocument.run_migration`: a document carries out the steps of its direction.
-/

namespace SchemaShift

/-- The way a migration is run. -/
inductive Direction where
  | up
  | down
deriving DecidableEq, Repr

/-- Something to do with any session. -/
structure Action where
  run : {σ : Type} → Session σ → DbM σ Unit
  /-- It asks queries and executes statements, and does nothing else. -/
  alike : ∀ {σ τ : Type} {R : ActionRelation σ τ}, R.Catches →
    ∀ {a : Session σ} {b : Session τ}, a.Alike R b → R.holds (run a) (run b)

/-- A reversible schema change. -/
structure Migration where
  /-- Each direction runs inside a transaction. -/
  transactional : Bool := true
  up : Action
  down : Action

namespace Migration

/-- The action of one direction. -/
def action (m : Migration) : Direction → Action
  | .up => m.up
  | .down => m.down

/-- Carries out one direction. -/
def run {σ : Type} (session : Session σ) (m : Migration) (direction : Direction) : DbM σ Unit :=
  (m.action direction).run session

end Migration

theorem Session.Alike.run {σ τ : Type} {R : ActionRelation σ τ} {a : Session σ} {b : Session τ}
    (h : a.Alike R b) (catches : R.Catches) (m : Migration) (direction : Direction) :
    R.holds (m.run a direction) (m.run b direction) :=
  (m.action direction).alike catches h

/-! ## Documents -/

/-- The action of carrying out steps in order. -/
def Action.ofSteps (steps : List Step) : Action where
  run session := Step.runAll session steps
  alike _ _ _ h := h.steps steps

/-- A migration as a document: the steps that change a schema, and those that change it back. -/
structure MigrationDocument where
  /-- Each direction runs inside a transaction. -/
  transactional : Bool := true
  up : List Step := []
  down : List Step := []
deriving DecidableEq, Repr

namespace MigrationDocument

/-- The steps of one direction. -/
def steps (m : MigrationDocument) : Direction → List Step
  | .up => m.up
  | .down => m.down

/-- The migration that a document describes. -/
def migration (m : MigrationDocument) : Migration where
  transactional := m.transactional
  up := .ofSteps m.up
  down := .ofSteps m.down

theorem run_migration {σ : Type} (session : Session σ) (m : MigrationDocument)
    (direction : Direction) :
    m.migration.run session direction = Step.runAll session (m.steps direction) := by
  cases direction <;> rfl

/-- Whether lists of steps are equal up to the comparison of floating-point defaults. -/
def sameSteps (a b : List Step) : Bool :=
  a.length == b.length && (a.zip b).all fun (x, y) => x.same y

/-- Equality up to the comparison of floating-point defaults. -/
def same (a b : MigrationDocument) : Bool :=
  a.transactional == b.transactional && sameSteps a.up b.up && sameSteps a.down b.down

end MigrationDocument

end SchemaShift
