import SchemaShift.Sql.Text

/-!
# Catalog queries

The queries that read the catalog of each engine. MySQL catalogs are limited to a database, the
others to what the session is connected to. Values are cast to text where engines would answer in
types of their own.
-/

namespace SchemaShift.Query

/-- A catalog column cast to text of a given length, under a name of its own. -/
def cast (column : String) (length : Nat) (name : String) : String :=
  "CAST(" ++ column ++ " AS CHAR(" ++ toString length ++ ")) AS " ++ name

/-- A list of what a query selects. -/
def select (columns : List String) : String := "SELECT " ++ ", ".intercalate columns

/-- The condition that limits a query of the MySQL catalog to one table. -/
def inTable (database table : String) : String :=
  "TABLE_SCHEMA = " ++ Dialect.mySql.literal database ++ " AND TABLE_NAME = " ++
    Dialect.mySql.literal table

/-- The joins that lead from a PostgreSQL constraint to its table. -/
def constraintTable : String :=
  " FROM pg_catalog.pg_constraint c JOIN pg_catalog.pg_class t ON t.oid = c.conrelid" ++
    " JOIN pg_catalog.pg_namespace n ON n.oid = t.relnamespace"

/-- The condition that limits a query of the PostgreSQL catalog to one table. -/
def inRelation (table : String) : String :=
  "n.nspname = current_schema() AND t.relname = " ++ Dialect.postgres.literal table

/-! ## Tables -/

/-- The tables of a database, by name. -/
def tables (d : Dialect) (database : String) : String :=
  match d with
  | .mySql =>
    select [cast "TABLE_NAME" 255 "table_name"] ++
      " FROM INFORMATION_SCHEMA.TABLES WHERE TABLE_SCHEMA = " ++ d.literal database ++
      " AND TABLE_TYPE = 'BASE TABLE' ORDER BY TABLE_NAME"
  | .postgres =>
    "SELECT table_name::text FROM information_schema.tables" ++
      " WHERE table_schema = current_schema() AND table_type = 'BASE TABLE' ORDER BY table_name"
  | .sqlite =>
    "SELECT name AS table_name FROM sqlite_master WHERE type = 'table' ORDER BY name"

/-- One row when a table exists, none otherwise. -/
def tableExists (d : Dialect) (database table : String) : String :=
  match d with
  | .mySql => "SELECT 1 FROM INFORMATION_SCHEMA.TABLES WHERE " ++ inTable database table
  | .postgres =>
    "SELECT 1 FROM information_schema.tables WHERE table_schema = current_schema()" ++
      " AND table_name = " ++ d.literal table
  | .sqlite =>
    "SELECT name FROM sqlite_master WHERE type = 'table' AND name = " ++ d.literal table

/-! ## Columns -/

/-- The columns of a table, in their order. -/
def columns (d : Dialect) (database table : String) : String :=
  match d with
  | .mySql =>
    select
        [cast "COLUMN_NAME" 255 "column_name", cast "COLUMN_TYPE" 1024 "column_type",
          cast "IS_NULLABLE" 3 "is_nullable", cast "COLUMN_DEFAULT" 1024 "column_default",
          cast "EXTRA" 255 "extra"] ++
      " FROM INFORMATION_SCHEMA.COLUMNS WHERE " ++ inTable database table ++
      " ORDER BY ORDINAL_POSITION"
  | .postgres =>
    select
        ["column_name::text", "data_type::text", "character_maximum_length::int4",
          "numeric_precision::int4", "numeric_scale::int4", "is_nullable::text",
          "column_default::text", "udt_name::text"] ++
      " FROM information_schema.columns WHERE table_schema = current_schema()" ++
      " AND table_name = " ++ d.literal table ++ " ORDER BY ordinal_position"
  | .sqlite =>
    "SELECT name, type, \"notnull\", dflt_value, pk FROM pragma_table_info(" ++
      d.literal table ++ ") ORDER BY cid"

/-- The checks of a table on PostgreSQL, which say which columns are enums. -/
def checks (table : String) : String :=
  "SELECT c.conname::text, pg_get_constraintdef(c.oid)::text" ++ constraintTable ++
    " WHERE c.contype = 'c' AND " ++ inRelation table ++ " ORDER BY c.conname"

/-- The text of a table's definition on SQLite. -/
def definition (table : String) : String :=
  "SELECT sql FROM sqlite_master WHERE type = 'table' AND name = " ++
    Dialect.sqlite.literal table

/-! ## Keys -/

/-- The indexes of a table, by name and position; on SQLite without their columns. -/
def indexes (d : Dialect) (database table : String) : String :=
  match d with
  | .mySql =>
    select
        [cast "INDEX_NAME" 255 "index_name", cast "COLUMN_NAME" 255 "column_name",
          "CAST(NON_UNIQUE AS SIGNED) AS non_unique"] ++
      " FROM INFORMATION_SCHEMA.STATISTICS WHERE " ++ inTable database table ++
      " ORDER BY INDEX_NAME, SEQ_IN_INDEX"
  | .postgres =>
    "SELECT i.relname::text, a.attname::text, ix.indisunique, ix.indisprimary" ++
      " FROM pg_catalog.pg_index ix JOIN pg_catalog.pg_class t ON t.oid = ix.indrelid" ++
      " JOIN pg_catalog.pg_class i ON i.oid = ix.indexrelid" ++
      " JOIN pg_catalog.pg_namespace n ON n.oid = t.relnamespace" ++
      " CROSS JOIN LATERAL unnest(ix.indkey::int2[]) WITH ORDINALITY AS k(attnum, ord)" ++
      " JOIN pg_catalog.pg_attribute a ON a.attrelid = t.oid AND a.attnum = k.attnum" ++
      " WHERE " ++ inRelation table ++ " ORDER BY i.relname, k.ord"
  | .sqlite =>
    "SELECT name, \"unique\", origin FROM pragma_index_list(" ++ d.literal table ++
      ") ORDER BY name"

/-- The columns of an index on SQLite. -/
def indexColumns (index : String) : String :=
  "SELECT name AS column_name FROM pragma_index_info(" ++ Dialect.sqlite.literal index ++
    ") ORDER BY seqno"

/-- The foreign keys of a table, by name and position. -/
def foreignKeys (d : Dialect) (database table : String) : String :=
  match d with
  | .mySql =>
    select
        [cast "kcu.CONSTRAINT_NAME" 255 "constraint_name",
          cast "kcu.COLUMN_NAME" 255 "column_name",
          cast "kcu.REFERENCED_TABLE_NAME" 255 "referenced_table",
          cast "kcu.REFERENCED_COLUMN_NAME" 255 "referenced_column",
          cast "rc.UPDATE_RULE" 64 "update_rule", cast "rc.DELETE_RULE" 64 "delete_rule"] ++
      " FROM INFORMATION_SCHEMA.KEY_COLUMN_USAGE kcu" ++
      " JOIN INFORMATION_SCHEMA.REFERENTIAL_CONSTRAINTS rc" ++
      " ON rc.CONSTRAINT_SCHEMA = kcu.CONSTRAINT_SCHEMA" ++
      " AND rc.CONSTRAINT_NAME = kcu.CONSTRAINT_NAME AND rc.TABLE_NAME = kcu.TABLE_NAME" ++
      " WHERE kcu.TABLE_SCHEMA = " ++ d.literal database ++ " AND kcu.TABLE_NAME = " ++
      d.literal table ++ " AND kcu.REFERENCED_TABLE_NAME IS NOT NULL" ++
      " ORDER BY kcu.CONSTRAINT_NAME, kcu.ORDINAL_POSITION"
  | .postgres =>
    "SELECT c.conname::text, a.attname::text, rt.relname::text, ra.attname::text," ++
      " c.confupdtype::text, c.confdeltype::text" ++ constraintTable ++
      " JOIN pg_catalog.pg_class rt ON rt.oid = c.confrelid" ++
      " CROSS JOIN LATERAL unnest(c.conkey, c.confkey)" ++
      " WITH ORDINALITY AS k(attnum, refnum, ord)" ++
      " JOIN pg_catalog.pg_attribute a ON a.attrelid = c.conrelid AND a.attnum = k.attnum" ++
      " JOIN pg_catalog.pg_attribute ra ON ra.attrelid = c.confrelid AND ra.attnum = k.refnum" ++
      " WHERE c.contype = 'f' AND " ++ inRelation table ++ " ORDER BY c.conname, k.ord"
  | .sqlite =>
    "SELECT id, seq, \"table\", \"from\", \"to\", on_update, on_delete" ++
      " FROM pragma_foreign_key_list(" ++ d.literal table ++ ") ORDER BY id, seq"

/-- Whether SQLite enforces foreign keys. -/
def enforcement : String := "PRAGMA foreign_keys"

end SchemaShift.Query
