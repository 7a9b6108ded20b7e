import SchemaShift.Catalog.Runs
import SchemaShift.Ddl.TypeSpec
import SchemaShift.Session.Basic
import SchemaShift.Sql.Query
import SchemaShift.Text.Search

/-!
# The MySQL catalog

Rows come by column name. Literal defaults are reported bare; MariaDB quotes them and reports
`NULL` where there is none.

* `readDefault_name`: reading a default never renames a column.
-/

namespace SchemaShift.Catalog.MySql

/-! ## Columns -/

/-- The default a catalog text stands for. -/
def readDefault (c : Column) (text : String) (generated : Bool) : Column :=
  let upper := Text.asciiUpper text
  if c.type.isTemporal && Text.startsWith "CURRENT_TIMESTAMP" upper then
    { c with useCurrent := true }
  else if upper = "NULL" then c
  else if generated then { c with default := some (.raw text) }
  else
    let literal := if Text.startsWith "'" text then Text.unquote text else text
    { c with default := some (.ofLiteral literal c.type) }

/-- The column a row describes. -/
def column (table : String) (row : Row) : Except Error Column :=
  let name := row.text "column_name"
  let physical := row.text "column_type"
  match (TypeSpec.ofText physical).toOption.bind fun spec =>
      spec.applyMySql? { name, type := .text } with
  | none => .error (.catalogMismatch table name physical)
  | some typed =>
    let extra := Text.asciiLower (row.text "extra")
    let c := { typed with nullable := row.text? "is_nullable" == some "YES" }
    if Text.contains "auto_increment" extra then
      .ok { c with autoIncrement := true, unsigned := false }
    else
      match row.text? "column_default" with
      | none => .ok c
      | some text => .ok (readDefault c text (Text.contains "default_generated" extra))

theorem readDefault_name (c : Column) (text : String) (generated : Bool) :
    (readDefault c text generated).name = c.name := by
  unfold readDefault
  dsimp only
  repeat' split
  all_goals rfl

/-! ## Keys -/

/-- The index a run of rows describes. -/
def index (run : Row × List Row) : Index :=
  let name := run.1.text "index_name"
  let kind : IndexKind :=
    if name = "PRIMARY" then .primary
    else if run.1.int? "non_unique" = some 0 then .unique
    else .index
  { kind, columns := (rowsOf run).map (·.text "column_name"), name := some name }

/-- The indexes that rows describe. -/
def indexes (rows : List Row) : List Index := (runs (·.text "index_name") rows).map index

/-- The column of a foreign key that a row describes. -/
def keyColumn (row : Row) : KeyColumn :=
  { column := row.text "column_name", reference := row.text "referenced_column" }

/-- The foreign key a run of rows describes. -/
def foreignKey (run : Row × List Row) : ForeignKey :=
  foreignKeyOf keyColumn (run.1.text "referenced_table")
    ((run.1.text? "delete_rule").bind ForeignAction.ofRule?)
    ((run.1.text? "update_rule").bind ForeignAction.ofRule?)
    (some (run.1.text "constraint_name")) run

/-- The foreign keys that rows describe. -/
def foreignKeys (rows : List Row) : List ForeignKey :=
  (runs (·.text "constraint_name") rows).map foreignKey

end SchemaShift.Catalog.MySql
