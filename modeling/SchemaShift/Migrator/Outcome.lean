import SchemaShift.Migration.Basic

/-!
# Outcomes

What a run of migrations did, unit by unit, and what the ledger says of each migration.

* `statements_append`: the statements of an outcome are those of its units, one after the other.
-/

namespace SchemaShift

/-- What becomes of a migration. -/
inductive UnitState where
  | pending
  | applying
  | applied
  | reverting
  | reverted
  | failed
deriving DecidableEq, Repr

namespace UnitState

/-- Every state. -/
def all : List UnitState := [pending, applying, applied, reverting, reverted, failed]

/-- The name of a state. -/
def name : UnitState → String
  | pending => "pending"
  | applying => "applying"
  | applied => "applied"
  | reverting => "reverting"
  | reverted => "reverted"
  | failed => "failed"

end UnitState

/-- The state of a migration that was run in some direction. -/
def Direction.done : Direction → UnitState
  | .up => .applied
  | .down => .reverted

/-- What a run did with one migration. -/
structure UnitOutcome where
  name : String
  state : UnitState
  /-- The statements that were recorded instead of executed. -/
  statements : List String := []
deriving DecidableEq, Repr

/-- What a run did. -/
structure Outcome where
  /-- The batch that was applied or reverted; `none` if there was nothing to do. -/
  batch : Option Int64 := none
  /-- Whether statements were recorded instead of executed. -/
  pretend : Bool
  units : List UnitOutcome := []
deriving DecidableEq, Repr

namespace Outcome

/-- Whether there was nothing to do. -/
def isEmpty (o : Outcome) : Bool := o.units.isEmpty

/-- All recorded statements in order. -/
def statements (o : Outcome) : List String := o.units.flatMap (·.statements)

/-- The outcome of a run that went on with another one. -/
def append (o next : Outcome) : Outcome :=
  { o with batch := o.batch.or next.batch, units := o.units ++ next.units }

theorem statements_append (o next : Outcome) :
    (o.append next).statements = o.statements ++ next.statements := by
  simp [append, statements]

end Outcome

/-- What is known of one migration. -/
structure MigrationStatus where
  name : String
  state : UnitState
  batch : Option Int64 := none
  /-- Whether the ledger records it although it cannot be found. -/
  missing : Bool := false
deriving DecidableEq, Repr

end SchemaShift
