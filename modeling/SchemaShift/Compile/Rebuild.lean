import SchemaShift.Blueprint.Diff
import SchemaShift.Catalog.Table
import SchemaShift.Sql.Definition

/-!
# Rebuilding SQLite tables

SQLite cannot drop or redefine a column in place. The rows are copied aside, the table is dropped
and made anew from the diffed description of the live one, the surviving columns are copied back
and the indexes are made again.
-/

namespace SchemaShift.Compile.Sqlite

open Sql

/-! ## New tables -/

/-- Whether an index is the primary key that the auto-incrementing column stands for. -/
def isImplied (b : Blueprint) (i : Index) : Bool :=
  match i.columns, b.autoIncrement? with
  | [column], some increment => column == increment.name
  | _, _ => false

/-- The constraint of a new table that a command stands for. Other keys are statements of their
own. -/
def constraint? (b : Blueprint) : Command → Option TableConstraint
  | .addIndex i =>
    if i.kind = .primary ∧ isImplied b i = false then some (.primaryKey i.columns) else none
  | .addForeign fk => some (.foreignKey fk)
  | _ => none

/-- The statement that makes a new table. Primary and foreign keys are part of its definition. -/
def create (b : Blueprint) : Except Error Statement :=
  (defineAll .sqlite b.addedColumns).map fun ds =>
    .createTable b.table ds (b.compiledCommands.filterMap (constraint? b)) none

/-- The statement that adds an index other than a primary key. -/
def createIndex (b : Blueprint) (i : Index) : Statement :=
  .createIndex (i.kind == .unique) (i.resolvedName b.table) b.table i.columns

/-! ## Rebuilding -/

/-- The name of the table that keeps the rows. -/
def temporaryName (table : String) : String := "__temp__" ++ table

/-- The indexes that are statements of their own. -/
def ownIndexes (b : Blueprint) : List Index := b.indexes.filter fun i => i.kind != .primary

/-- The statements of a rebuild, given the columns that survive and the statement that makes the
new table. -/
def rebuildStatements (table : String) (survivors : List String) (target : Blueprint)
    (created : Statement) : List Statement :=
  let temporary := temporaryName table
  [.copyTable temporary survivors table, .dropTable table false, created,
      .insertFrom table survivors temporary, .dropTable temporary false] ++
    (ownIndexes target).map (createIndex target)

/-- The statements that rebuild a table whose description is known. -/
def rebuildFrom (diff : TableDiff) (current : Blueprint) : Except Error (List Statement) := do
  let target ← diff.apply current
  let created ← create target
  return rebuildStatements diff.table (diff.survivors current) target created

/-- The statements that rebuild a live table. -/
def rebuild {σ : Type} (session : Session σ) (diff : TableDiff) : DbM σ (List Statement) := do
  let current ← Catalog.table session diff.table
  DbM.ofExcept (rebuildFrom diff current)

end SchemaShift.Compile.Sqlite
