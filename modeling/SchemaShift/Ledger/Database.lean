import SchemaShift.Catalog.Table
import SchemaShift.Compile.Basic
import SchemaShift.Ledger.Basic

/-!
# Ledgers in a database

The ledger of a session is a table of the database itself: one row for each migration, with a name
that is unique and the number of its batch.
-/

namespace SchemaShift

namespace Query

/-- The entries of a ledger that satisfy a condition, in some order. -/
def entries (d : Dialect) (table condition order : String) : String :=
  select [d.wrap "migration", d.wrap "batch"] ++ " FROM " ++ d.wrap table ++ condition ++
    " ORDER BY " ++ order

/-- All entries of a ledger by batch and name. -/
def allEntries (d : Dialect) (table : String) : String :=
  entries d table "" (d.columnize ["batch", "migration"])

/-- The entries of one batch, greatest name first. -/
def batchEntries (d : Dialect) (table : String) (batch : Int64) : String :=
  entries d table (" WHERE " ++ d.wrap "batch" ++ " = " ++ toString batch.toInt)
    (d.wrap "migration" ++ " DESC")

/-- The number of the last batch. -/
def lastBatch (d : Dialect) (table : String) : String :=
  select ["MAX(" ++ d.wrap "batch" ++ ") AS max_batch"] ++ " FROM " ++ d.wrap table

end Query

namespace Ledger

/-- The statement that adds an entry. -/
def insertion (d : Dialect) (table name : String) (batch : Int64) : String :=
  "INSERT INTO " ++ d.wrap table ++ " (" ++ d.columnize ["migration", "batch"] ++ ") VALUES (" ++
    d.literal name ++ ", " ++ toString batch.toInt ++ ")"

/-- The statement that removes an entry. -/
def deletion (d : Dialect) (table name : String) : String :=
  "DELETE FROM " ++ d.wrap table ++ " WHERE " ++ d.wrap "migration" ++ " = " ++ d.literal name

/-- The table of a ledger. -/
def blueprint (table : String) : Blueprint :=
  (((Blueprint.create table).string "migration" 255).integer "batch").unique ["migration"]

theorem commands_blueprint (table : String) :
    (blueprint table).commands =
      [.create, .addIndex { kind := .unique, columns := ["migration"] }] := rfl

/-- The entry in a row. -/
def entryOf (row : Row) : Entry :=
  { name := (row.textAt? 0).getD "", batch := (row.intAt? 1).getD 0 }

variable {σ : Type}

/-- The ledger in a table of a session's database. -/
def database (session : Session σ) (table : String) : Ledger σ where
  installed := Catalog.hasTable session table
  create := do
    DbM.ofExcept (Identifier.check table)
    (blueprint table).build session
  ran := do
    return (← session.select (Query.allEntries session.dialect table)).map (entryOf · |>.name)
  entries := do return (← session.select (Query.allEntries session.dialect table)).map entryOf
  last := do
    let batch ← lastBatch
    return (← session.select (Query.batchEntries session.dialect table batch)).map entryOf
  lastBatch
  log name batch := session.execute (insertion session.dialect table name batch)
  delete name := session.execute (deletion session.dialect table name)
where
  /-- The number in the only row, if there is one. -/
  lastBatch : DbM σ Int64 := do
    let rows ← session.select (Query.lastBatch session.dialect table)
    return (rows.head?.bind (·.intAt? 0)).getD 0

end Ledger

end SchemaShift
