import SchemaShift.Compile.Rebuild

/-!
# Compiling for SQLite

Columns are added and renamed in place; dropping and redefining them takes a rebuild of the table.
One rebuild covers all of a blueprint's drops and redefinitions, so that the live table is read
once. While a table is rebuilt for new definitions, or a column renamed, foreign keys are not
enforced.

* `rebuildDiff_table`: the rebuild is about the blueprint's table.
-/

namespace SchemaShift.Compile.Sqlite

open Sql

variable {σ : Type}

/-- Whether foreign keys are enforced. -/
def enforcesForeignKeys (session : Session σ) : DbM σ Bool := do
  let rows ← session.select Query.enforcement
  return rows.head?.any fun row => row.flagAt 0

/-- Statements between turning the enforcement of foreign keys off and on again, if it is on. -/
def toggled (enforced : Bool) (statements : List Statement) : List Statement :=
  if enforced then
    .enforceForeignKeys false :: statements ++ [.enforceForeignKeys true]
  else statements

/-- Statements that run without the enforcement of foreign keys. -/
def withoutForeignKeys (session : Session σ) (statements : List Statement) :
    DbM σ (List Statement) := do
  return toggled (← enforcesForeignKeys session) statements

/-- Whether the blueprint redefines columns of an existing table. -/
def redefines (b : Blueprint) : Bool := !b.creating && !b.changedColumns.isEmpty

/-- The diff that covers every drop and redefinition of a blueprint. -/
def rebuildDiff (b : Blueprint) : TableDiff :=
  let diff : TableDiff := { table := b.table }
  let diff := if redefines b then diff.changing b.changedColumns else diff
  diff.removing b.droppedColumns

/-- The statements of the one rebuild of a blueprint. -/
def compileRebuild (session : Session σ) (b : Blueprint) : DbM σ (List Statement) := do
  let diff := rebuildDiff b
  if diff.isEmpty then return []
  let statements ← rebuild session diff
  if diff.changed.isEmpty then return statements
  withoutForeignKeys session statements

/-- Whether a drop is where the rebuild takes place: the first drop of a blueprint that redefines
nothing. -/
def startsRebuild (b : Blueprint) (columns : List String) : Bool :=
  !redefines b && (b.commands.filterMap Command.droppedColumns?).head? == some columns

/-- A verb that SQLite has no statement for. -/
def unsupported (verb : String) : DbM σ (List Statement) := throw (.compilation .sqlite verb)

/-- The statements that add an index. A primary key belongs to the definition of a new table. -/
def addIndex (b : Blueprint) (i : Index) : DbM σ (List Statement) :=
  if i.kind = .primary then
    if b.creating then pure [] else unsupported (Command.addIndex i).verb
  else pure [createIndex b i]

/-- The statements of a command. -/
def compile (session : Session σ) (b : Blueprint) (c : Command) : DbM σ (List Statement) :=
  match c with
  | .create => DbM.ofExcept ((create b).map ([·]))
  | .add =>
    DbM.ofExcept ((defineAll .sqlite b.addedColumns).map fun ds =>
      ds.map fun d => .alterTable b.table [.addColumn d])
  | .change => compileRebuild session b
  | .drop => pure [.dropTable b.table false]
  | .dropIfExists => pure [.dropTable b.table true]
  | .rename target => pure [.alterTable b.table [.renameTable target]]
  | .dropColumns columns =>
    if startsRebuild b columns then compileRebuild session b else pure []
  | .renameColumn source target =>
    withoutForeignKeys session [.alterTable b.table [.renameColumn source target]]
  | .addIndex i => addIndex b i
  | .addForeign _ => if b.creating then pure [] else unsupported c.verb
  | .dropUnique name | .dropIndex name => pure [.dropIndex name]
  | .dropPrimary _ | .dropForeign _ => unsupported c.verb

theorem rebuildDiff_table (b : Blueprint) : (rebuildDiff b).table = b.table := by
  unfold rebuildDiff; dsimp only; split <;> rfl

end SchemaShift.Compile.Sqlite
