import SchemaShift.Ledger.Basic
import SchemaShift.Migration.Source
import SchemaShift.Migrator.Outcome
import SchemaShift.Session.Pretend

/-!
# Running migrations

Pending migrations are applied in one new batch, and batches are reverted from the last one on.
Each migration is a unit: it is recorded in the ledger when its steps are done, inside its
transaction if it has one, and the first unit that fails ends the run. A run can be pretended, which
records the statements of each unit and changes nothing.

* `result_pretended`: pretending a unit gives the statements recorded while running it, if that
  succeeds.
-/

namespace SchemaShift

/-- What is needed to run migrations. -/
structure Migrator (σ : Type) where
  session : Session σ
  ledger : Ledger σ
  source : Source

namespace Migrator

variable {σ : Type}

/-! ## Units -/

/-- The statements that one direction of a migration would execute. -/
def pretended (m : Migrator σ) (name : String) (migration : Migration) (direction : Direction) :
    DbM σ (List String) := ExceptT.mk fun s =>
  match (migration.run m.session.pretend direction).result (s, []) with
  | (.ok (), (s, recorded)) => (.ok recorded, s)
  | (.error cause, (s, _)) => (.error (.step name cause), s)

/-- Records in the ledger that a migration was run in some direction. -/
def record (m : Migrator σ) (direction : Direction) (entry : Entry) : DbM σ Unit :=
  match direction with
  | .up => m.ledger.log entry.name entry.batch
  | .down => m.ledger.delete entry.name

/-- Runs one direction of a migration and records it, inside a transaction if the migration asks
for one. What goes wrong inside is the cause of a failed step. -/
def perform (m : Migrator σ) (migration : Migration) (direction : Direction) (entry : Entry) :
    DbM σ Unit := do
  if migration.transactional then m.session.begin
  let work : DbM σ Unit := do
    migration.run m.session direction
    m.record direction entry
  match ← work.attempt with
  | .ok () => if migration.transactional then m.session.commit
  | .error cause =>
    if migration.transactional then
      let _ ← m.session.rollback.attempt
    DbM.ofExcept (.error (.step entry.name cause))

/-- Runs the migration of an entry in some direction. -/
def unit (m : Migrator σ) (pretend : Bool) (direction : Direction) (entry : Entry) :
    DbM σ UnitOutcome :=
  match m.source.resolve entry.name with
  | .error cause => DbM.ofExcept (.error cause)
  | .ok migration => do
    if pretend then
      let statements ← m.pretended entry.name migration direction
      return { name := entry.name, state := direction.done, statements }
    else
      m.perform migration direction entry
      return { name := entry.name, state := direction.done }

/-- Runs the migrations of entries in order, up to the first that fails. -/
def units (m : Migrator σ) (pretend : Bool) (direction : Direction) :
    List Entry → DbM σ (List UnitOutcome)
  | [] => pure []
  | entry :: rest => do
    let first ← m.unit pretend direction entry
    let others ← m.units pretend direction rest
    return first :: others

/-! ## Runs -/

/-- Makes sure that the ledger exists; whether it had to be created. -/
def install (m : Migrator σ) : DbM σ Bool := do
  if ← m.ledger.installed then return false
  else
    m.ledger.create
    return true

/-- The entries of the ledger; none where there is no ledger. -/
def recorded (m : Migrator σ) : DbM σ (List Entry) := do
  if ← m.ledger.installed then m.ledger.entries else return []

/-- The names of what the ledger records; none where there is no ledger. -/
def ran (m : Migrator σ) : DbM σ (List String) := do
  if ← m.ledger.installed then m.ledger.ran else return []

/-- The names of the migrations that are not recorded, in order. -/
def pending (m : Migrator σ) : DbM σ (List String) := do
  let ran ← m.ran
  let discovered ← DbM.ofExcept m.source.discover
  return discovered.filter fun name => !ran.contains name

/-- Applies the pending migrations as a new batch. -/
def run (m : Migrator σ) (pretend : Bool) : DbM σ Outcome := do
  if !pretend then
    let _ ← m.install
  let pending ← m.pending
  if pending.isEmpty then return { pretend }
  else
    let batch ← if ← m.ledger.installed then m.ledger.nextBatch else pure 1
    let units ← m.units pretend .up (pending.map fun name => { name, batch })
    return { batch := some batch, pretend, units }

/-- Reverts entries. -/
def revert (m : Migrator σ) (pretend : Bool) (entries : List Entry) : DbM σ Outcome := do
  let units ← m.units pretend .down entries
  return { batch := entries.head?.map (·.batch), pretend, units }

/-- Reverts the last batch. -/
def rollback (m : Migrator σ) (pretend : Bool) : DbM σ Outcome := do
  if ← m.ledger.installed then m.revert pretend (← m.ledger.last) else return { pretend }

/-- Reverts batch after batch until none is left, in at most so many rounds. -/
def revertAll (m : Migrator σ) : Nat → DbM σ Outcome
  | 0 => pure { pretend := false }
  | rounds + 1 => do
    let first ← m.rollback false
    if first.isEmpty then return first
    else return first.append (← m.revertAll rounds)

/-- One more than the number of words of 64 bits, and so of batches. -/
def maxRounds : Nat := UInt64.size + 1

/-- Reverts all batches, last one first. A pretended reset walks the entries backwards at once,
since no batch leaves the ledger. -/
def reset (m : Migrator σ) (pretend : Bool) : DbM σ Outcome := do
  if ← m.ledger.installed then
    if pretend then m.revert true (← m.ledger.entries).reverse else m.revertAll maxRounds
  else return { pretend }

/-! ## Status -/

/-- What is known of a migration, given the names that are discovered and the entries of the
ledger. -/
def statusOf (discovered : List String) (entries : List Entry) (name : String) :
    MigrationStatus :=
  match entries.reverse.find? (·.name == name) with
  | some entry =>
    { name, state := .applied, batch := some entry.batch, missing := !discovered.contains name }
  | none => { name, state := .pending }

/-- What is known of the migrations that are discovered or recorded, by name. -/
def status (m : Migrator σ) : DbM σ (List MigrationStatus) := do
  let discovered ← DbM.ofExcept m.source.discover
  let recorded ← m.recorded
  return (sortedNames (discovered ++ recorded.map (·.name))).map (statusOf discovered recorded)

/-! ## Laws -/

theorem result_pretended {m : Migrator σ} {name : String} {migration : Migration}
    {direction : Direction} {s s' : σ} {r : Except Error Unit} {recorded : List String}
    (h : (migration.run m.session.pretend direction).result (s, []) = (r, (s', recorded))) :
    (m.pretended name migration direction).result s =
      ((r.mapError (.step name)).map fun _ => recorded, s') := by
  simp only [pretended, DbM.result, ExceptT.run_mk] at h ⊢
  rw [h]
  cases r <;> rfl

end Migrator

end SchemaShift
