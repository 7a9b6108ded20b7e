import SchemaShift.Blueprint.Canonical
import SchemaShift.Catalog.MySql
import SchemaShift.Catalog.Postgres
import SchemaShift.Catalog.Sqlite

/-!
# Reading the catalog

What a session's catalog says about tables: their columns, indexes and foreign keys, and whole
tables as blueprints in canonical form.
-/

namespace SchemaShift.Catalog

variable {σ : Type}

/-! ## Parts -/

/-- The names of the tables, in catalog order. -/
def tables (session : Session σ) : DbM σ (List String) := do
  let rows ← session.select (Query.tables session.dialect session.database)
  return rows.filterMap fun row =>
    match session.dialect with
    | .postgres => row.textAt? 0
    | _ => row.text? "table_name"

/-- The hints of a SQLite table's definition; none when there is no definition. -/
def columnHints (session : Session σ) (table : String) : DbM σ ColumnHints := do
  let rows ← session.select (Query.definition table)
  match rows.head?.bind (·.text? "sql") with
  | some sql => DbM.ofExcept (ColumnHints.ofText sql)
  | none => pure []

/-- Columns in their order. A check is asked for only where it could matter. -/
def columns (session : Session σ) (table : String) : DbM σ (List Column) := do
  let query := Query.columns session.dialect session.database table
  match session.dialect with
  | .mySql =>
    let rows ← session.select query
    DbM.ofExcept (rows.mapM (MySql.column table))
  | .postgres =>
    let rows ← session.select query
    let columns ← DbM.ofExcept (rows.mapM (Postgres.column table))
    if columns.any fun c => c.type == .string then
      return Postgres.applyChecks columns (← session.select (Query.checks table))
    else
      return columns
  | .sqlite =>
    let hints ← columnHints session table
    let rows ← session.select query
    DbM.ofExcept (rows.mapM (Sqlite.column table hints))

/-- The indexes of a SQLite table that its index rows describe, except for the primary key. -/
def sqliteIndexes (session : Session σ) : List Row → DbM σ (List Index)
  | [] => pure []
  | row :: rows => do
    if Sqlite.isPrimary row then sqliteIndexes session rows
    else
      let columns ← session.select (Query.indexColumns (row.text "name"))
      return Sqlite.index row columns :: (← sqliteIndexes session rows)

/-- Indexes in catalog order. -/
def indexes (session : Session σ) (table : String) : DbM σ (List Index) := do
  let query := Query.indexes session.dialect session.database table
  match session.dialect with
  | .mySql => return MySql.indexes (← session.select query)
  | .postgres => return Postgres.indexes (← session.select query)
  | .sqlite =>
    let info ← session.select (Query.columns session.dialect session.database table)
    let rows ← session.select query
    return (Sqlite.primary? info).toList ++ (← sqliteIndexes session rows)

/-- Foreign keys in catalog order. -/
def foreignKeys (session : Session σ) (table : String) : DbM σ (List ForeignKey) := do
  let rows ← session.select (Query.foreignKeys session.dialect session.database table)
  return match session.dialect with
    | .mySql => MySql.foreignKeys rows
    | .postgres => Postgres.foreignKeys rows
    | .sqlite => Sqlite.foreignKeys rows

/-! ## Tables -/

/-- The order of indexes in a blueprint: the primary key first, then by name. -/
def indexLe (table : String) (a b : Index) : Bool :=
  match a.kind == .primary, b.kind == .primary with
  | true, false => true
  | false, true => false
  | _, _ => !decide (b.resolvedName table < a.resolvedName table)

/-- Indexes in the order of a blueprint; equal ones keep their order. -/
def sortedIndexes (table : String) (indexes : List Index) : List Index :=
  indexes.mergeSort (indexLe table)

/-- The blueprint of a table with the given parts. -/
def ofParts (table : String) (columns : List Column) (indexes : List Index)
    (foreignKeys : List ForeignKey) : Blueprint :=
  { table
    columns
    commands :=
      .create :: (sortedIndexes table indexes).map .addIndex ++ foreignKeys.map .addForeign }

/-- A table as a blueprint in canonical form; a table without columns does not exist. -/
def table (session : Session σ) (name : String) : DbM σ Blueprint := do
  let columns ← columns session name
  if columns.isEmpty then throw (.tableNotFound name)
  let indexes ← indexes session name
  let foreignKeys ← foreignKeys session name
  return (ofParts name columns indexes foreignKeys).canonical

/-- Whether a table exists. -/
def hasTable (session : Session σ) (table : String) : DbM σ Bool := do
  let rows ← session.select (Query.tableExists session.dialect session.database table)
  return !rows.isEmpty

end SchemaShift.Catalog
