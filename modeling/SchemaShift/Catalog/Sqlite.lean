import SchemaShift.Catalog.Runs
import SchemaShift.Ddl.Hints
import SchemaShift.Text.Search

/-!
# The SQLite catalog

Rows come by column name. The table information reports declared types only, so columns are read
together with the hints of the table's definition. The primary key is what the table information
numbers; indexes that back constraints have names the engine made up.

* `readDefault_name`: reading a default never renames a column.
-/

namespace SchemaShift.Catalog.Sqlite

/-! ## Columns -/

/-- The default a catalog text stands for. A text that is neither quoted nor a number is an
expression. -/
def readDefault (c : Column) (text : String) : Column :=
  let upper := Text.asciiUpper text
  if c.type.isTemporal && upper = "CURRENT_TIMESTAMP" then { c with useCurrent := true }
  else if upper = "NULL" then c
  else if Text.startsWith "'" text then
    { c with default := some (.ofLiteral (Text.unquote text) c.type) }
  else
    match DefaultValue.ofLiteral text c.type with
    | .text raw => { c with default := some (.raw raw) }
    | typed => { c with default := some typed }

/-- The column of a row with the type that the hint or, without one, the declared type gives. -/
def typed? (name physical : String) (hint : ColumnHint) : Option Column :=
  let plain : Column := { name, type := .text }
  match hint.origin with
  | some origin => origin.applyLogical? plain
  | none => (TypeSpec.ofText physical).toOption.bind fun spec => spec.applyMySql? plain

/-- The column a row describes. -/
def column (table : String) (hints : ColumnHints) (row : Row) : Except Error Column :=
  let name := row.text "name"
  let physical := row.text "type"
  let hint := (hints.find? name).getD {}
  match typed? name physical hint with
  | none => .error (.catalogMismatch table name physical)
  | some typed =>
    let c := { typed with nullable := row.int? "notnull" = some 0 }
    if hint.autoIncrement then .ok { c with autoIncrement := true, nullable := false }
    else
      let c := { c with unsigned := hint.unsigned && c.type.isSignable }
      match row.text? "dflt_value" with
      | none => .ok c
      | some text => .ok (readDefault c text)

theorem readDefault_name (c : Column) (text : String) : (readDefault c text).name = c.name := by
  unfold readDefault
  dsimp only
  repeat' split
  all_goals rfl

/-! ## Keys -/

/-- The position of a column in the primary key, with its name. -/
def primaryPart? (row : Row) : Option (Int64 × String) := do
  let position ← (row.int? "pk").filter fun p => decide (0 < p)
  pure (position, ← row.text? "name")

/-- The order of the parts of a primary key. -/
def primaryLe (a b : Int64 × String) : Bool :=
  a.1 < b.1 || (a.1 == b.1 && !decide (b.2 < a.2))

/-- The primary key that the rows of the table information describe. -/
def primary? (rows : List Row) : Option Index :=
  let parts := (rows.filterMap primaryPart?).mergeSort primaryLe
  if parts.isEmpty then none else some { kind := .primary, columns := parts.map Prod.snd }

/-- Whether an index row belongs to the primary key. -/
def isPrimary (row : Row) : Bool := row.text "origin" == "pk"

/-- The index a row and the rows of its columns describe. -/
def index (row : Row) (columns : List Row) : Index :=
  { kind := if row.flag "unique" then .unique else .index
    columns := columns.filterMap (·.text? "column_name")
    name := if row.text "origin" = "u" then none else some (row.text "name") }

/-- The column of a foreign key that a row describes. -/
def keyColumn (row : Row) : KeyColumn :=
  { column := row.text "from", reference := row.text "to" }

/-- The foreign key a run of rows describes. -/
def foreignKey (run : Row × List Row) : ForeignKey :=
  foreignKeyOf keyColumn (run.1.text "table")
    ((run.1.text? "on_delete").bind ForeignAction.ofRule?)
    ((run.1.text? "on_update").bind ForeignAction.ofRule?)
    none run

/-- The number that the rows of one foreign key share. -/
def keyNumber (row : Row) : Int64 := (row.int? "id").getD 0

/-- The foreign keys that rows describe. -/
def foreignKeys (rows : List Row) : List ForeignKey := (runs keyNumber rows).map foreignKey

end SchemaShift.Catalog.Sqlite
