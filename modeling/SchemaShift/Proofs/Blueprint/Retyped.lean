import SchemaShift.Proofs.Blueprint.Declared
import SchemaShift.Proofs.Sql.Carried

/-!
# Redefined columns and new ones on PostgreSQL

A new column is given its nullability and its default by its definition, a changed one by clauses
that alter the table. The two are written apart, and the clauses of a changed column do not ask
whether it counts up, nor whether a column that uses the current time can.

Results:
* `changedDefault?_eq_iff`: when a changed column gets the default of its definition.
* `setsDefault_change_iff`: the clauses of a changed column agree with its definition in its
  nullability always, and in its default exactly then.

**Deviation.** A column that counts up never carries a default, and one that uses the current time
none but that. A changed column is given the default all the same: `not_forall_setsDefault_change`.
-/

namespace SchemaShift

open Sql

namespace Sql

/-- Alterations state the nullability that a definition states. -/
def SetsNullability (d : ColumnDefinition) (as : List Alteration) : Prop :=
  ∀ n, .setNullability d.name n ∈ as ↔ .nullability n ∈ d.parts

/-- Alterations set the default that a definition carries, or drop it where there is none. -/
def SetsDefault (d : ColumnDefinition) (as : List Alteration) : Prop :=
  (∀ v, .setDefault d.name v ∈ as ↔ d.default? = some v) ∧
    (.dropDefault d.name ∈ as ↔ d.default? = none)

end Sql

namespace Compile.Postgres

/-! ## The clauses of a changed column -/

theorem setNullability_mem_change_iff (table : String) (c : Column) (n : Bool) :
    .setNullability c.name n ∈ change table c ↔ n = c.nullable := by
  have default : .setNullability c.name n ≠ defaultChange c := by
    unfold defaultChange
    split <;> simp
  simp [change, default]

theorem setDefault_mem_change_iff (table : String) (c : Column) (v : DefaultPart) :
    .setDefault c.name v ∈ change table c ↔ changedDefault? c = some v := by
  rw [change, defaultChange_eq]
  cases changedDefault? c <;> simp [eq_comm]

theorem dropDefault_mem_change_iff (table : String) (c : Column) :
    .dropDefault c.name ∈ change table c ↔ changedDefault? c = none := by
  rw [change, defaultChange_eq]
  cases changedDefault? c <;> simp

/-- The clauses of a changed column stand together in a statement that alters its table. -/
theorem exists_change_infix {b : Blueprint} {c : Column} (h : c ∈ b.changedColumns) :
    ∃ s ∈ changes b, change b.table c <:+: s.alterations b.table := by
  refine ⟨.alterTable b.table (b.changedColumns.flatMap (change b.table)), by simp [changes, alter],
    ?_⟩
  rw [Statement.alterations_alterTable]
  obtain ⟨before, after, split⟩ := List.append_of_mem h
  rw [split, List.flatMap_append, List.flatMap_cons, ← List.append_assoc]
  exact ⟨_, _, rfl⟩

/-! ## Agreement -/

/-- A changed column gets the default of its definition exactly when it has none of its own, or
does not count up and uses the current time only if it can. -/
theorem changedDefault?_eq_iff {c : Column} (valid : c.Valid) :
    changedDefault? c = carriedDefault? c ↔
      c.default = none ∨
        (c.autoIncrement = false ∧ (c.useCurrent = true → c.type.isTemporal = true)) := by
  unfold changedDefault? carriedDefault?
  by_cases counts : c.autoIncrement = true
  · have plain := not_isTemporal_of_isInteger (valid.1 counts).1
    simp [counts, plain]
  · cases c.useCurrent <;> cases c.type.isTemporal <;> simp [counts]

/-- The clauses of a changed column agree with its definition in its nullability, and in its
default exactly when it has none of its own, or does not count up and uses the current time only
if it can. -/
theorem setsDefault_change_iff {b : Blueprint} {c : Column} (changed : c ∈ b.changedColumns)
    (valid : c.check = .ok ()) :
    ∃ d ss, define .postgres c = .ok d ∧ compile b .change = .ok ss ∧
      (∃ s ∈ ss, change b.table c <:+: s.alterations b.table) ∧
        SetsNullability d (change b.table c) ∧
          (SetsDefault d (change b.table c) ↔
            c.default = none ∨
              (c.autoIncrement = false ∧ (c.useCurrent = true → c.type.isTemporal = true))) := by
  have valid := Column.check_eq_ok_iff.1 valid
  have serial : c.autoIncrement = true → c.type ∈ serials .postgres := by
    intro counts
    have integer := (valid.1 counts).1
    cases type : c.type <;> simp_all [serials, ColumnType.isInteger]
  have carried := default?_definition (fun counts => (valid.1 counts).1) .postgres
  refine ⟨_, _, define_eq_ok_iff.2 ⟨serial, rfl⟩, rfl, exists_change_infix changed, ?_, ?_⟩
  · intro n
    rw [name_definition, setNullability_mem_change_iff, nullability_mem_definition_iff]
  · rw [← changedDefault?_eq_iff valid, ← carried]
    simp only [SetsDefault, name_definition, setDefault_mem_change_iff, dropDefault_mem_change_iff]
    constructor
    · rintro ⟨same, none⟩
      exact Option.ext same
    · rintro same
      simp [same]

/-- A column that starts at the current time. -/
def startedAt : Column := { name := "at", type := .timestamp, useCurrent := true, change := true }

/-- A column that counts up and records a default. -/
def countedFrom : Column :=
  { name := "id", type := .integer, autoIncrement := true, default := some (.integer 5),
    change := true }

def retypedUsers : Blueprint := { table := "users", columns := [countedFrom, startedAt] }

/-- A changed column starts at the current time as a new one does. -/
theorem setsDefault_change_iff_startedAt :
    startedAt ∈ retypedUsers.changedColumns ∧ startedAt.check = .ok () ∧
      ∃ d ss, define .postgres startedAt = .ok d ∧ compile retypedUsers .change = .ok ss ∧
        (∃ s ∈ ss, change "users" startedAt <:+: s.alterations "users") ∧
          SetsNullability d (change "users" startedAt) ∧
            SetsDefault d (change "users" startedAt) := by
  have changed : startedAt ∈ retypedUsers.changedColumns := by decide
  have valid : startedAt.check = .ok () := by decide
  obtain ⟨d, ss, defined, compiled, placed, nullability, default⟩ :=
    setsDefault_change_iff changed valid
  exact ⟨changed, valid, d, ss, defined, compiled, placed, nullability, default.2 (by decide)⟩

/-- A changed column that counts up is given the default that its definition leaves out. -/
theorem not_forall_setsDefault_change :
    ¬ ∀ (b : Blueprint) (c : Column), c ∈ b.changedColumns → c.check = .ok () →
      ∀ d, define .postgres c = .ok d → SetsDefault d (change b.table c) := by
  intro agrees
  have counted := agrees retypedUsers countedFrom (by decide) (by decide) _ rfl
  have carried := (counted.1 (.value (.integer 5))).1 (by decide)
  exact absurd carried (by decide)

end Compile.Postgres

end SchemaShift
