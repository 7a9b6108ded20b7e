import SchemaShift.Column.Basic

/-!
# Statements

The statements that blueprints compile to, before they are written down for an engine. Names,
columns and clauses stand apart, so that what a statement declares, drops or mentions can be read
off it.

* `ColumnDefinition.isPrimary_iff`: a column definition declares a primary key exactly when it
  counts up.
-/

namespace SchemaShift.Sql

/-! ## Column definitions -/

/-- An argument of a physical type. -/
inductive TypeArgument where
  | number (n : UInt32)
  | text (s : String)
deriving DecidableEq, Repr

/-- A physical type: its words and, between parentheses, its arguments. -/
structure PhysicalType where
  name : String
  args : Option (List TypeArgument) := none
deriving DecidableEq, Repr

/-- What a column defaults to. -/
inductive DefaultPart where
  | currentTime
  | value (v : DefaultValue)
deriving DecidableEq, Repr

/-- A clause of a column definition. -/
inductive ColumnPart where
  | type (t : PhysicalType)
  /-- The logical type, carried in a comment. -/
  | origin (t : PhysicalType)
  /-- The values a column without native enum type is limited to. -/
  | valueCheck (column : String) (allowed : List String)
  | unsigned
  | nullability (nullable : Bool)
  | default (d : DefaultPart)
  /-- The column counts up and is the primary key. -/
  | increment
deriving DecidableEq, Repr

/-- A column definition: a name and clauses. -/
structure ColumnDefinition where
  name : String
  parts : List ColumnPart
deriving DecidableEq, Repr

/-- Whether a column definition declares a primary key. -/
def ColumnDefinition.isPrimary (d : ColumnDefinition) : Bool := d.parts.contains .increment

theorem ColumnDefinition.isPrimary_iff {d : ColumnDefinition} :
    d.isPrimary = true ↔ ColumnPart.increment ∈ d.parts := by
  simp [isPrimary]

/-! ## Statements -/

/-- A table constraint inside a new table's definition. -/
inductive TableConstraint where
  | primaryKey (columns : List String)
  | foreignKey (key : ForeignKey)
deriving DecidableEq, Repr

/-- A clause that alters a table. -/
inductive Alteration where
  | addColumn (d : ColumnDefinition)
  | modifyColumn (d : ColumnDefinition)
  | setType (column : String) (type : PhysicalType)
  | setNullability (column : String) (nullable : Bool)
  | setDefault (column : String) (d : DefaultPart)
  | dropDefault (column : String)
  | dropColumn (name : String)
  | renameColumn (source target : String)
  | renameTable (target : String)
  | addPrimaryKey (columns : List String)
  | addUnique (name : String) (columns : List String)
  | addIndex (name : String) (columns : List String)
  | addForeignKey (name : String) (key : ForeignKey)
  | addValueCheck (name column : String) (allowed : List String)
  | dropPrimaryKey
  | dropIndex (name : String)
  | dropForeignKey (name : String)
  | dropConstraint (name : String) (ifExists : Bool)
deriving DecidableEq, Repr

/-- A statement. -/
inductive Statement where
  | createTable (table : String) (columns : List ColumnDefinition)
    (constraints : List TableConstraint) (engine : Option String)
  /-- A temporary table filled with columns of another table. -/
  | copyTable (target : String) (columns : List String) (source : String)
  /-- Rows of another table, column by column. -/
  | insertFrom (table : String) (columns : List String) (source : String)
  | dropTable (table : String) (ifExists : Bool)
  | renameTable (table target : String)
  | alterTable (table : String) (alterations : List Alteration)
  | createIndex (unique : Bool) (name table : String) (columns : List String)
  | dropIndex (name : String)
  /-- Turns the enforcement of foreign keys on or off. -/
  | enforceForeignKeys (on : Bool)
deriving DecidableEq, Repr

end SchemaShift.Sql
