import SchemaShift.Sql.Statement
import SchemaShift.Text.Quoted

/-!
# The text of statements

How each engine writes names, literals and statements. MySQL quotes names with backticks, the
other engines with double quotes; only PostgreSQL has boolean literals.
-/

namespace SchemaShift

/-! ## Names and literals -/

namespace Dialect

/-- A name as an engine writes it. -/
def wrap : Dialect → String → String
  | mySql => Text.quoteBacktick
  | postgres | sqlite => Text.quoteDouble

/-- A string literal as an engine writes it. -/
def literal : Dialect → String → String
  | mySql => Text.quoteMySqlLiteral
  | postgres | sqlite => Text.quoteLiteral

/-- Names separated by commas. -/
def columnize (d : Dialect) (names : List String) : String := ", ".intercalate (names.map d.wrap)

/-- A default value as an engine writes it. -/
def defaultLiteral (d : Dialect) : DefaultValue → String
  | .integer i => "'" ++ toString i.toInt ++ "'"
  | .float x => "'" ++ x.render Double.statementLayout ++ "'"
  | .text s => d.literal s
  | .bool b =>
    match d with
    | postgres => if b then "true" else "false"
    | _ => if b then "'1'" else "'0'"
  | .raw sql => sql

/-- The current time as a default. -/
def currentTime : Dialect → String
  | postgres => "CURRENT_TIMESTAMP(6)"
  | mySql | sqlite => "CURRENT_TIMESTAMP"

end Dialect

namespace Sql

/-! ## Column definitions -/

/-- An argument of a physical type. -/
def TypeArgument.render (d : Dialect) : TypeArgument → String
  | number n => toString n.toNat
  | text s => d.literal s

/-- A physical type with the given separator between its arguments. -/
def PhysicalType.renderWith (separator : String) (d : Dialect) (t : PhysicalType) : String :=
  match t.args with
  | none => t.name
  | some args => t.name ++ "(" ++ separator.intercalate (args.map (·.render d)) ++ ")"

/-- A physical type. -/
def PhysicalType.render (d : Dialect) (t : PhysicalType) : String := t.renderWith ", " d

/-- A default. -/
def DefaultPart.render (d : Dialect) : DefaultPart → String
  | currentTime => d.currentTime
  | value v => d.defaultLiteral v

/-- A check that limits a column to given values. -/
def valueCheckText (d : Dialect) (column : String) (allowed : List String) : String :=
  "CHECK (" ++ d.wrap column ++ " IN (" ++ ", ".intercalate (allowed.map d.literal) ++ "))"

/-- The words that make a column count up and be the primary key. -/
def incrementText : Dialect → String
  | .mySql => "AUTO_INCREMENT PRIMARY KEY"
  | .postgres => "PRIMARY KEY"
  | .sqlite => "PRIMARY KEY AUTOINCREMENT"

/-- The word, or on SQLite the comment, that makes a column unsigned. -/
def unsignedText : Dialect → String
  | .sqlite => "/*unsigned*/"
  | .mySql | .postgres => "UNSIGNED"

/-- A clause of a column definition. -/
def ColumnPart.render (d : Dialect) : ColumnPart → String
  | type t => t.render d
  | origin t => "/*" ++ t.renderWith "," d ++ "*/"
  | valueCheck column allowed => valueCheckText d column allowed
  | unsigned => unsignedText d
  | nullability nullable => if nullable then "NULL" else "NOT NULL"
  | default value => "DEFAULT " ++ value.render d
  | increment => incrementText d

/-- Clauses, each after a blank. -/
def partsText (d : Dialect) (parts : List ColumnPart) : String :=
  String.join (parts.map fun p => " " ++ p.render d)

/-- A column definition. -/
def ColumnDefinition.render (d : Dialect) (c : ColumnDefinition) : String :=
  d.wrap c.name ++ partsText d c.parts

/-! ## Statements -/

/-- A foreign key without its name. -/
def foreignKeyText (d : Dialect) (fk : ForeignKey) : String :=
  let onDelete := match fk.onDelete with
    | some action => " ON DELETE " ++ action.sql
    | none => ""
  let onUpdate := match fk.onUpdate with
    | some action => " ON UPDATE " ++ action.sql
    | none => ""
  "FOREIGN KEY (" ++ d.columnize fk.columns ++ ") REFERENCES " ++ d.wrap fk.table ++
    " (" ++ d.columnize fk.references ++ ")" ++ onDelete ++ onUpdate

/-- A table constraint. -/
def TableConstraint.render (d : Dialect) : TableConstraint → String
  | primaryKey columns => "PRIMARY KEY (" ++ d.columnize columns ++ ")"
  | foreignKey fk => foreignKeyText d fk

/-- A clause that alters a table. -/
def Alteration.render (d : Dialect) : Alteration → String
  | addColumn c =>
    match d with
    | .mySql => "ADD " ++ c.render d
    | _ => "ADD COLUMN " ++ c.render d
  | modifyColumn c => "MODIFY " ++ c.render d
  | setType column type => "ALTER COLUMN " ++ d.wrap column ++ " TYPE " ++ type.render d
  | setNullability column nullable =>
    "ALTER COLUMN " ++ d.wrap column ++ (if nullable then " DROP NOT NULL" else " SET NOT NULL")
  | setDefault column value =>
    "ALTER COLUMN " ++ d.wrap column ++ " SET DEFAULT " ++ value.render d
  | dropDefault column => "ALTER COLUMN " ++ d.wrap column ++ " DROP DEFAULT"
  | dropColumn name =>
    match d with
    | .mySql => "DROP " ++ d.wrap name
    | _ => "DROP COLUMN " ++ d.wrap name
  | renameColumn source target =>
    "RENAME COLUMN " ++ d.wrap source ++ " TO " ++ d.wrap target
  | renameTable target => "RENAME TO " ++ d.wrap target
  | addPrimaryKey columns => "ADD PRIMARY KEY (" ++ d.columnize columns ++ ")"
  | addUnique name columns =>
    match d with
    | .mySql => "ADD UNIQUE " ++ d.wrap name ++ "(" ++ d.columnize columns ++ ")"
    | _ => "ADD CONSTRAINT " ++ d.wrap name ++ " UNIQUE (" ++ d.columnize columns ++ ")"
  | addIndex name columns =>
    "ADD INDEX " ++ d.wrap name ++ "(" ++ d.columnize columns ++ ")"
  | addForeignKey name fk => "ADD CONSTRAINT " ++ d.wrap name ++ " " ++ foreignKeyText d fk
  | addValueCheck name column allowed =>
    "ADD CONSTRAINT " ++ d.wrap name ++ " " ++ valueCheckText d column allowed
  | dropPrimaryKey => "DROP PRIMARY KEY"
  | dropIndex name => "DROP INDEX " ++ d.wrap name
  | dropForeignKey name => "DROP FOREIGN KEY " ++ d.wrap name
  | dropConstraint name ifExists =>
    (if ifExists then "DROP CONSTRAINT IF EXISTS " else "DROP CONSTRAINT ") ++ d.wrap name

/-- A statement as an engine writes it. -/
def Statement.render (d : Dialect) : Statement → String
  | createTable table columns constraints engine =>
    let definitions := columns.map (·.render d) ++ constraints.map (·.render d)
    let options := match engine with
      | some name => " ENGINE = " ++ name
      | none => ""
    "CREATE TABLE " ++ d.wrap table ++ " (" ++ ", ".intercalate definitions ++ ")" ++ options
  | copyTable target columns source =>
    "CREATE TEMPORARY TABLE " ++ d.wrap target ++ " AS SELECT " ++ d.columnize columns ++
      " FROM " ++ d.wrap source
  | insertFrom table columns source =>
    "INSERT INTO " ++ d.wrap table ++ " (" ++ d.columnize columns ++ ") SELECT " ++
      d.columnize columns ++ " FROM " ++ d.wrap source
  | dropTable table ifExists =>
    (if ifExists then "DROP TABLE IF EXISTS " else "DROP TABLE ") ++ d.wrap table
  | renameTable table target => "RENAME TABLE " ++ d.wrap table ++ " TO " ++ d.wrap target
  | alterTable table alterations =>
    "ALTER TABLE " ++ d.wrap table ++ " " ++ ", ".intercalate (alterations.map (·.render d))
  | createIndex unique name table columns =>
    (if unique then "CREATE UNIQUE INDEX " else "CREATE INDEX ") ++ d.wrap name ++ " ON " ++
      d.wrap table ++ " (" ++ d.columnize columns ++ ")"
  | dropIndex name => "DROP INDEX " ++ d.wrap name
  | enforceForeignKeys on =>
    if on then "PRAGMA foreign_keys = ON" else "PRAGMA foreign_keys = OFF"

end Sql

end SchemaShift
