import SchemaShift.Blueprint.Basic
import SchemaShift.Sql.Definition

/-!
# Compiling for MySQL

Every command is one statement. Columns are redefined in place, and all keys but those of the
columns that count up are added by altering the table.

* `length_compile`: a command that compiles gives exactly one statement.
-/

namespace SchemaShift.Compile.MySql

open Sql

/-- The definitions of the new columns. -/
def addedDefinitions (b : Blueprint) : Except Error (List ColumnDefinition) :=
  defineAll .mySql b.addedColumns

/-- One statement that alters the table. -/
def alter (b : Blueprint) (alterations : List Alteration) : List Statement :=
  [.alterTable b.table alterations]

/-- The alteration that adds an index. -/
def addIndex (b : Blueprint) (i : Index) : Alteration :=
  match i.kind with
  | .primary => .addPrimaryKey i.columns
  | .unique => .addUnique (i.resolvedName b.table) i.columns
  | .index => .addIndex (i.resolvedName b.table) i.columns

/-- The statements of a command. -/
def compile (b : Blueprint) : Command → Except Error (List Statement)
  | .create => (addedDefinitions b).map fun ds => [.createTable b.table ds [] b.engine]
  | .add => (addedDefinitions b).map fun ds => alter b (ds.map .addColumn)
  | .change =>
    (defineAll .mySql b.changedColumns).map fun ds => alter b (ds.map .modifyColumn)
  | .drop => .ok [.dropTable b.table false]
  | .dropIfExists => .ok [.dropTable b.table true]
  | .rename target => .ok [.renameTable b.table target]
  | .dropColumns columns => .ok (alter b (columns.map .dropColumn))
  | .renameColumn source target => .ok (alter b [.renameColumn source target])
  | .addIndex i => .ok (alter b [addIndex b i])
  | .addForeign fk => .ok (alter b [.addForeignKey (fk.resolvedName b.table) fk])
  | .dropPrimary _ => .ok (alter b [.dropPrimaryKey])
  | .dropUnique name => .ok (alter b [.dropIndex name])
  | .dropIndex name => .ok (alter b [.dropIndex name])
  | .dropForeign name => .ok (alter b [.dropForeignKey name])

theorem length_compile {b : Blueprint} {c : Command} {statements : List Statement}
    (h : compile b c = .ok statements) : statements.length = 1 := by
  cases c <;> simp only [compile, alter] at h
  case create | add =>
    cases hd : addedDefinitions b <;> rw [hd] at h <;> cases h
    rfl
  case change =>
    cases hd : defineAll .mySql b.changedColumns <;> rw [hd] at h <;> cases h
    rfl
  all_goals (cases h; rfl)

end SchemaShift.Compile.MySql
