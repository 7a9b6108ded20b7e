import SchemaShift.Blueprint.Basic

/-!
# Table plans

A table plan is the document form of a blueprint: what a step of a migration says about one table.
Applied to a blueprint, it adds columns and commands. Drops come before renames and renames before
new keys, so that one step can drop a foreign key together with its column.

* `columns_apply`: the columns that applying a plan adds.
* `apply_ofBlueprint`: a plan made from a blueprint gives back its table, columns and engine, and
  its keys with the indexes first.
-/

namespace SchemaShift

/-- What a migration step says about one table. -/
structure TablePlan where
  table : String
  engine : Option String := none
  columns : List Column := []
  indexes : List Index := []
  foreignKeys : List ForeignKey := []
  /-- The names of foreign keys to drop. -/
  lostForeignKeys : List String := []
  /-- The names of unique indexes to drop. -/
  lostUniques : List String := []
  /-- The names of plain indexes to drop. -/
  lostIndexes : List String := []
  /-- Whether the primary key is dropped. -/
  losesPrimary : Bool := false
  /-- The old and the new names of columns. -/
  renames : List (String × String) := []
  /-- The names of columns to drop. -/
  lostColumns : List String := []
deriving DecidableEq, Repr

namespace TablePlan

/-- The commands of a plan, in the order in which they take effect. -/
def commands (p : TablePlan) : List Command :=
  p.lostForeignKeys.map .dropForeign ++
    p.lostUniques.map .dropUnique ++
    p.lostIndexes.map .dropIndex ++
    (if p.losesPrimary then [.dropPrimary none] else []) ++
    p.renames.map (fun rename => .renameColumn rename.1 rename.2) ++
    (if p.lostColumns.isEmpty then [] else [.dropColumns p.lostColumns]) ++
    p.indexes.map .addIndex ++
    p.foreignKeys.map .addForeign

/-- Adds what a plan says to a blueprint. -/
def apply (p : TablePlan) (b : Blueprint) : Blueprint :=
  { table := b.table
    columns := b.columns ++ p.columns
    commands := b.commands ++ p.commands
    engine := p.engine.or b.engine }

/-- The plan with the columns and the keys of a blueprint. -/
def ofBlueprint (b : Blueprint) : TablePlan :=
  { table := b.table
    engine := b.engine
    columns := b.columns
    indexes := b.indexes
    foreignKeys := b.foreignKeys }

/-- The blueprint of a new table. -/
def create (p : TablePlan) : Blueprint := p.apply (.create p.table)

/-- The blueprint of a change of an existing table. -/
def alter (p : TablePlan) : Blueprint := p.apply { table := p.table }

/-- Equality up to the comparison of floating-point defaults. -/
def same (a b : TablePlan) : Bool :=
  { a with columns := [] } == { b with columns := [] } &&
    a.columns.length == b.columns.length &&
    (a.columns.zip b.columns).all fun (x, y) => x.same y

/-! ## Laws -/

theorem columns_apply (p : TablePlan) (b : Blueprint) :
    (p.apply b).columns = b.columns ++ p.columns := rfl

theorem apply_ofBlueprint (b : Blueprint) :
    (ofBlueprint b).create =
      { table := b.table
        columns := b.columns
        commands := .create :: b.indexes.map .addIndex ++ b.foreignKeys.map .addForeign
        engine := b.engine } := by
  simp [create, apply, ofBlueprint, commands, Blueprint.create]

end TablePlan

end SchemaShift
