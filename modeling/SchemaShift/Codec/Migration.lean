import SchemaShift.Codec.Column
import SchemaShift.Migration.Basic

/-!
# Migrations in documents

A step is a record with one field, which is named after the step. Both directions of a migration
are always written, and whether it is transactional only if it is not.

* `Rename.ofNode_toDatum`: the names of a rename are read back as they were written.
-/

namespace SchemaShift

/-! ## Renames -/

namespace Rename

/-- An old and a new name as plain data. -/
def toDatum (rename : String × String) : Datum :=
  .record [("from", .ofText rename.1), ("to", .ofText rename.2)]

/-- Reads an old and a new name. -/
def ofNode (n : Node) : Decoder (String × String) := do
  let fields ← n.fields
  return (← fields.required "from" Node.text, ← fields.required "to" Node.text)

theorem ofNode_toDatum (rename : String × String) :
    ofNode (.native (toDatum rename)) = pure rename := rfl

end Rename

/-! ## Table plans -/

namespace TablePlan

/-- A table plan as plain data. -/
def toDatum (p : TablePlan) : Datum :=
  .record ([("name", .ofText p.table)] ++
    Fields.whenSome "engine" .ofText p.engine ++
    Fields.whenAny "columns" Column.toDatum p.columns ++
    Fields.whenAny "indexes" Index.toDatum p.indexes ++
    Fields.whenAny "foreign_keys" ForeignKey.toDatum p.foreignKeys ++
    Fields.whenAny "drop_foreign" .ofText p.lostForeignKeys ++
    Fields.whenAny "drop_unique" .ofText p.lostUniques ++
    Fields.whenAny "drop_indexes" .ofText p.lostIndexes ++
    Fields.whenSet "drop_primary" p.losesPrimary ++
    Fields.whenAny "rename_columns" Rename.toDatum p.renames ++
    Fields.whenAny "drop_columns" .ofText p.lostColumns)

/-- Reads a table plan. -/
def ofNode (n : Node) : Decoder TablePlan := do
  let fields ← n.fields
  return {
    table := ← fields.required "name" Node.text
    engine := ← fields.optional "engine" Node.text
    columns := ← fields.listOf "columns" Column.ofNode
    indexes := ← fields.listOf "indexes" Index.ofNode
    foreignKeys := ← fields.listOf "foreign_keys" ForeignKey.ofNode
    lostForeignKeys := ← fields.listOf "drop_foreign" Node.text
    lostUniques := ← fields.listOf "drop_unique" Node.text
    lostIndexes := ← fields.listOf "drop_indexes" Node.text
    losesPrimary := ← fields.flag "drop_primary"
    renames := ← fields.listOf "rename_columns" Rename.ofNode
    lostColumns := ← fields.listOf "drop_columns" Node.text }

end TablePlan

/-! ## Steps -/

namespace Step

/-- A step as plain data. -/
def toDatum : Step → Datum
  | create plan => .record [("create", plan.toDatum)]
  | alter plan => .record [("table", plan.toDatum)]
  | drop table => .record [("drop", .ofText table)]
  | dropIfExists table => .record [("drop_if_exists", .ofText table)]
  | rename table target => .record [("rename", Rename.toDatum (table, target))]
  | sql statement => .record [("sql", .ofText statement)]

/-- Reads a step of a given name. -/
def ofField (name : String) (n : Node) : Decoder Step :=
  match name with
  | "create" => create <$> TablePlan.ofNode n
  | "table" => alter <$> TablePlan.ofNode n
  | "drop" => drop <$> n.text
  | "drop_if_exists" => dropIfExists <$> n.text
  | "rename" => (fun (table, target) => rename table target) <$> Rename.ofNode n
  | "sql" => sql <$> n.text
  | name => throw (.unknownVariant name)

/-- Reads a step. -/
def ofNode (n : Node) : Decoder Step := do
  match ← n.resolve with
  | .record [(name, n)] => ofField (← name.text) n
  | .native (.record [(name, d)]) => ofField name (.native d)
  | _ => throw (.expected "a step")

end Step

/-! ## Migrations -/

namespace MigrationDocument

/-- The fields of a migration. -/
def toFields (m : MigrationDocument) : Fields :=
  (if m.transactional then [] else [("transactional", .ofFlag false)]) ++
    [("up", .list (m.up.map Step.toDatum)), ("down", .list (m.down.map Step.toDatum))]

/-- A migration as plain data. -/
def toDatum (m : MigrationDocument) : Datum := .record m.toFields

/-- Reads a migration. -/
def ofNode (n : Node) : Decoder MigrationDocument := do
  let fields ← n.fields
  return {
    transactional := ← fields.getD "transactional" Node.flag true
    up := ← fields.listOf "up" Step.ofNode
    down := ← fields.listOf "down" Step.ofNode }

end MigrationDocument

end SchemaShift
