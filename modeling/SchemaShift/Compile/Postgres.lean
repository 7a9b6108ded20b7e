import SchemaShift.Blueprint.Basic
import SchemaShift.Sql.Definition

/-!
# Compiling for PostgreSQL

Columns are redefined clause by clause: type, nullability, default and the check that stands for an
enum. Plain indexes are statements of their own; every other key is a constraint.

* `defaultChange_eq`: a redefined column gets a default exactly when it has one to get.
-/

namespace SchemaShift.Compile.Postgres

open Sql

/-- The definitions of the new columns. -/
def addedDefinitions (b : Blueprint) : Except Error (List ColumnDefinition) :=
  defineAll .postgres b.addedColumns

/-- One statement that alters the table. -/
def alter (b : Blueprint) (alterations : List Alteration) : List Statement :=
  [.alterTable b.table alterations]

/-! ## Redefining columns -/

/-- The name PostgreSQL gives to the check of a column. -/
def checkName (table column : String) : String := table ++ "_" ++ column ++ "_check"

/-- The default of a redefined column. -/
def changedDefault? (c : Column) : Option DefaultPart :=
  if c.useCurrent && c.type.isTemporal then some .currentTime else c.default.map .value

/-- The alteration that sets or drops the default. -/
def defaultChange (c : Column) : Alteration :=
  match changedDefault? c with
  | some d => .setDefault c.name d
  | none => .dropDefault c.name

/-- The alterations that redefine a column. -/
def change (table : String) (c : Column) : List Alteration :=
  [.setType c.name (postgresType c), .setNullability c.name c.nullable, defaultChange c,
    .dropConstraint (checkName table c.name) true]

/-- The check of a redefined enum column. -/
def check? (table : String) (c : Column) : Option Alteration :=
  if c.type = .enum then some (.addValueCheck (checkName table c.name) c.name c.allowed) else none

/-- The statements that redefine the changed columns. -/
def changes (b : Blueprint) : List Statement :=
  let checks := b.changedColumns.filterMap (check? b.table)
  alter b (b.changedColumns.flatMap (change b.table)) ++
    (if checks.isEmpty then [] else alter b checks)

/-! ## Commands -/

/-- The statements that add an index. -/
def addIndex (b : Blueprint) (i : Index) : List Statement :=
  match i.kind with
  | .primary => alter b [.addPrimaryKey i.columns]
  | .unique => alter b [.addUnique (i.resolvedName b.table) i.columns]
  | .index => [.createIndex false (i.resolvedName b.table) b.table i.columns]

/-- The name of a primary key without one. -/
def primaryName (table : String) : String := table ++ "_pkey"

/-- The statements of a command. -/
def compile (b : Blueprint) : Command → Except Error (List Statement)
  | .create => (addedDefinitions b).map fun ds => [.createTable b.table ds [] none]
  | .add => (addedDefinitions b).map fun ds => alter b (ds.map .addColumn)
  | .change => .ok (changes b)
  | .drop => .ok [.dropTable b.table false]
  | .dropIfExists => .ok [.dropTable b.table true]
  | .rename target => .ok (alter b [.renameTable target])
  | .dropColumns columns => .ok (alter b (columns.map .dropColumn))
  | .renameColumn source target => .ok (alter b [.renameColumn source target])
  | .addIndex i => .ok (addIndex b i)
  | .addForeign fk => .ok (alter b [.addForeignKey (fk.resolvedName b.table) fk])
  | .dropPrimary name => .ok (alter b [.dropConstraint (name.getD (primaryName b.table)) false])
  | .dropUnique name => .ok (alter b [.dropConstraint name false])
  | .dropIndex name => .ok [.dropIndex name]
  | .dropForeign name => .ok (alter b [.dropConstraint name false])

theorem defaultChange_eq (c : Column) :
    defaultChange c =
      ((changedDefault? c).map (Alteration.setDefault c.name)).getD (.dropDefault c.name) := by
  unfold defaultChange
  cases changedDefault? c <;> rfl

end SchemaShift.Compile.Postgres
