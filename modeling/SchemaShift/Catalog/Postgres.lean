import SchemaShift.Catalog.Runs
import SchemaShift.Ddl.Token
import SchemaShift.Column.Basic
import SchemaShift.Text.Search

/-!
# The PostgreSQL catalog

Rows come by position. Defaults carry a cast of their type, columns that count up take their
default from a sequence, and enums are text columns with a check on their values.
-/

namespace SchemaShift.Catalog.Postgres

/-! ## Columns -/

/-- The logical type of a data type. -/
def typeOf? (dataType : String) : Option ColumnType :=
  match dataType with
  | "bigint" => some .bigInteger
  | "integer" => some .integer
  | "smallint" => some .smallInteger
  | "character varying" => some .string
  | "character" => some .char
  | "text" => some .text
  | "numeric" => some .decimal
  | "real" => some .float
  | "double precision" => some .double
  | "boolean" => some .boolean
  | "json" | "jsonb" => some .json
  | "date" => some .date
  | "timestamp without time zone" | "timestamp with time zone" => some .timestamp
  | "time without time zone" | "time with time zone" => some .time
  | "bytea" => some .binary
  | _ => none

/-- The literal at the start of a text, with its quotes, given the characters after the opening
quote; the whole text when no quote closes it. -/
def literalRest : List Char → List Char
  | [] => []
  | [c] => [c]
  | c :: d :: rest =>
    if c = Text.singleQuote then
      if d = Text.singleQuote then c :: d :: literalRest rest else [c]
    else c :: literalRest (d :: rest)

/-- The text in front of a type cast, without the parentheses around it. -/
def withoutCast (text : String) : String :=
  let bare := Text.beforeChars [':', ':'] text.toList
  let opened := bare.dropWhile (· == '(')
  String.ofList (opened.reverse.dropWhile (· == ')')).reverse

/-- The default a catalog text stands for. -/
def readDefault (c : Column) (text : String) : Column :=
  let upper := Text.asciiUpper text
  if c.type.isTemporal &&
      (Text.startsWith "CURRENT_TIMESTAMP" upper || Text.startsWith "NOW()" upper) then
    { c with useCurrent := true }
  else if Text.startsWith "NULL" upper then c
  else
    match text.toList with
    | '\'' :: rest =>
      let literal := Text.unquote (String.ofList ('\'' :: literalRest rest))
      { c with default := some (.ofLiteral literal c.type) }
    | _ =>
      match DefaultValue.ofLiteral (withoutCast text) c.type with
      | .text _ => { c with default := some (.raw text) }
      | typed => { c with default := some typed }

/-- The number at a position of a row, as a length. -/
def sizeAt? (row : Row) (index : Nat) : Option UInt32 :=
  (row.intAt? index).bind fun i => Number.uint32? i.toInt

/-- A column of a type with the sizes that a row reports for it. -/
def sized (name : String) (type : ColumnType) (row : Row) : Column :=
  match type with
  | .string | .char => { name, type, length := sizeAt? row 2 }
  | .decimal => { name, type, precision := sizeAt? row 3, scale := sizeAt? row 4 }
  | _ => { name, type }

/-- The column a row describes. A type that users defined is reported by its own name. -/
def column (table : String) (row : Row) : Except Error Column :=
  let name := row.textAt 0
  let dataType := Text.asciiLower (row.textAt 1)
  match typeOf? dataType with
  | none =>
    let physical :=
      if dataType = "user-defined" then (row.textAt? 7).getD dataType else dataType
    .error (.catalogMismatch table name physical)
  | some type =>
    let c := { sized name type row with nullable := row.textAt? 5 == some "YES" }
    match row.textAt? 6 with
    | none => .ok c
    | some text =>
      if Text.contains "nextval(" text then .ok { c with autoIncrement := true }
      else .ok (readDefault c text)

/-! ## Checks -/

/-- Whether a check may limit a column to given values. -/
def mayListValues (definition : String) : Bool :=
  let upper := Text.asciiUpper definition
  Text.contains "= ANY" upper || Text.contains " IN " upper

/-- The text of a string literal. -/
def literal? : Token → Option String
  | .str s => some s
  | _ => none

/-- Whether a column can turn out to be an enum of the given name. -/
def isGuarded (name : String) (c : Column) : Bool := c.name == name && c.type == .string

/-- The column as an enum of the given values. -/
def asEnum (allowed : List String) (c : Column) : Column :=
  { c with type := .enum, length := none, allowed }

/-- Changes the first element that satisfies a condition. -/
def changeFirst {α : Type} (p : α → Bool) (f : α → α) : List α → List α
  | [] => []
  | a :: rest => if p a then f a :: rest else a :: changeFirst p f rest

/-- The name of the column a check guards: the first name in it that is a text column's. -/
def guarded? (columns : List Column) (tokens : List Token) : Option String :=
  (tokens.filterMap Token.name?).find? fun name => columns.any (isGuarded name)

/-- Turns the column a check guards into an enum of the literals in the check. -/
def applyCheck (columns : List Column) (row : Row) : List Column :=
  match row.textAt? 1 with
  | none => columns
  | some definition =>
    if !mayListValues definition then columns
    else
      match Token.scan definition with
      | .error _ => columns
      | .ok tokens =>
        let allowed := tokens.filterMap literal?
        match guarded? columns tokens with
        | some name =>
          if allowed.isEmpty then columns
          else changeFirst (isGuarded name) (asEnum allowed) columns
        | none => columns

/-- Turns the columns that checks guard into enums, check by check. -/
def applyChecks (columns : List Column) (rows : List Row) : List Column :=
  rows.foldl applyCheck columns

/-! ## Keys -/

/-- The index a run of rows describes. -/
def index (run : Row × List Row) : Index :=
  let kind : IndexKind :=
    if run.1.flagAt 3 then .primary else if run.1.flagAt 2 then .unique else .index
  { kind, columns := (rowsOf run).map (·.textAt 1), name := some (run.1.textAt 0) }

/-- The indexes that rows describe. -/
def indexes (rows : List Row) : List Index := (runs (·.textAt 0) rows).map index

/-- The column of a foreign key that a row describes. -/
def keyColumn (row : Row) : KeyColumn := { column := row.textAt 1, reference := row.textAt 3 }

/-- The foreign key a run of rows describes. -/
def foreignKey (run : Row × List Row) : ForeignKey :=
  foreignKeyOf keyColumn (run.1.textAt 2)
    ((run.1.textAt? 5).bind ForeignAction.ofLetter?)
    ((run.1.textAt? 4).bind ForeignAction.ofLetter?)
    (some (run.1.textAt 0)) run

/-- The foreign keys that rows describe. -/
def foreignKeys (rows : List Row) : List ForeignKey :=
  (runs (·.textAt 0) rows).map foreignKey

end SchemaShift.Catalog.Postgres
