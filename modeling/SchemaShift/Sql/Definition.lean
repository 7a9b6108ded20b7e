import SchemaShift.Sql.Statement

/-!
# Column definitions of each engine

How a logical column becomes the clauses of a column definition: the physical type, what travels
with it, and the modifiers in the order each engine wants them.

* `name_definition`: a definition is about the column it comes from.
* `isPrimary_definition`: a definition declares a primary key exactly for auto-incrementing columns.
-/

namespace SchemaShift.Sql

/-! ## Physical types -/

/-- A type without arguments. -/
def bare (name : String) : PhysicalType := { name }

/-- A type with number arguments. -/
def sized (name : String) (sizes : List UInt32) : PhysicalType :=
  { name, args := some (sizes.map .number) }

/-- The precision of a decimal column without one. -/
def defaultPrecision : UInt32 := 8

/-- The scale of a decimal column without one. -/
def defaultScale : UInt32 := 2

/-- The precision and the scale of a decimal column. -/
def decimalSizes (c : Column) : List UInt32 :=
  [c.precision.getD defaultPrecision, c.scale.getD defaultScale]

/-- A floating-point type with the precision and the scale a column records, if it does. -/
def floating (name : String) (c : Column) : PhysicalType :=
  match c.precision, c.scale with
  | some p, some s => sized name [p, s]
  | some p, none => sized name [p]
  | none, _ => bare name

/-- An enum type with the values of a column. -/
def valued (name : String) (c : Column) : PhysicalType :=
  { name, args := some (c.allowed.map .text) }

/-- The physical type of a column on MySQL. -/
def mySqlType (c : Column) : PhysicalType :=
  match c.type with
  | .bigInteger => bare "BIGINT"
  | .integer => bare "INT"
  | .mediumInteger => bare "MEDIUMINT"
  | .smallInteger => bare "SMALLINT"
  | .tinyInteger => bare "TINYINT"
  | .string => sized "VARCHAR" [c.stringLength]
  | .char => sized "CHAR" [c.stringLength]
  | .text => bare "TEXT"
  | .mediumText => bare "MEDIUMTEXT"
  | .longText => bare "LONGTEXT"
  | .decimal => sized "DECIMAL" (decimalSizes c)
  | .float => floating "FLOAT" c
  | .double => floating "DOUBLE" c
  | .boolean => sized "TINYINT" [1]
  | .enum => valued "ENUM" c
  | .json => bare "JSON"
  | .date => bare "DATE"
  | .dateTime => bare "DATETIME"
  | .timestamp => bare "TIMESTAMP"
  | .time => bare "TIME"
  | .binary => bare "BLOB"

/-- The physical type of a column on PostgreSQL, not counting up. -/
def postgresType (c : Column) : PhysicalType :=
  match c.type with
  | .bigInteger => bare "BIGINT"
  | .integer | .mediumInteger => bare "INTEGER"
  | .smallInteger | .tinyInteger => bare "SMALLINT"
  | .string => sized "VARCHAR" [c.stringLength]
  | .char => sized "CHAR" [c.stringLength]
  | .text | .mediumText | .longText => bare "TEXT"
  | .decimal => sized "DECIMAL" (decimalSizes c)
  | .float => bare "REAL"
  | .double => bare "DOUBLE PRECISION"
  | .boolean => bare "BOOLEAN"
  | .enum => sized "VARCHAR" [255]
  | .json => bare "JSON"
  | .date => bare "DATE"
  | .dateTime | .timestamp => bare "TIMESTAMP(6) WITHOUT TIME ZONE"
  | .time => bare "TIME(6) WITHOUT TIME ZONE"
  | .binary => bare "BYTEA"

/-- The PostgreSQL type that counts up. -/
def serialType : ColumnType → PhysicalType
  | .bigInteger => bare "BIGSERIAL"
  | .smallInteger | .tinyInteger => bare "SMALLSERIAL"
  | _ => bare "SERIAL"

/-- The physical type of a column on SQLite. -/
def sqliteType : ColumnType → PhysicalType
  | .bigInteger | .integer | .mediumInteger | .smallInteger | .tinyInteger => bare "INTEGER"
  | .string | .enum => bare "VARCHAR"
  | .char => bare "CHAR"
  | .text | .mediumText | .longText | .json => bare "TEXT"
  | .decimal => bare "NUMERIC"
  | .float => bare "FLOAT"
  | .double => bare "DOUBLE"
  | .boolean => bare "BOOLEAN"
  | .date => bare "DATE"
  | .dateTime | .timestamp => bare "DATETIME"
  | .time => bare "TIME"
  | .binary => bare "BLOB"

/-- The logical type of a column with its arguments, as SQLite definitions carry it. -/
def originType (c : Column) : PhysicalType :=
  match c.type with
  | .string | .char => sized c.type.name [c.stringLength]
  | .decimal => sized c.type.name (decimalSizes c)
  | .float | .double => floating c.type.name c
  | .enum => valued c.type.name c
  | _ => bare c.type.name

/-! ## Clauses -/

/-- The current time as the default of a column that uses it. -/
def currentTimePart (c : Column) : List ColumnPart :=
  if c.type.isTemporal && c.useCurrent then [.default .currentTime] else []

/-- The check on the values of an enum column. -/
def valueCheckPart (c : Column) : List ColumnPart :=
  if c.type = .enum then [.valueCheck c.name c.allowed] else []

/-- The type of a column and what travels with it. -/
def typeParts (d : Dialect) (c : Column) : List ColumnPart :=
  match d with
  | .mySql => .type (mySqlType c) :: currentTimePart c
  | .postgres =>
    if c.autoIncrement && c.type.isInteger then [.type (serialType c.type)]
    else .type (postgresType c) :: valueCheckPart c ++ currentTimePart c
  | .sqlite =>
    .type (sqliteType c.type) :: .origin (originType c) :: valueCheckPart c ++ currentTimePart c

/-- The unsigned clause; PostgreSQL has no unsigned types, and columns that count up are never
written as unsigned. -/
def unsignedPart (d : Dialect) (c : Column) : Option ColumnPart :=
  if d ≠ .postgres ∧ c.unsigned ∧ c.type.isSignable ∧ !c.autoIncrement then some .unsigned
  else none

/-- The nullability clause. -/
def nullabilityPart (c : Column) : ColumnPart := .nullability c.nullable

/-- The default clause. Columns that count up have none, and that of columns that use the current
time travels with their type. -/
def defaultPart (c : Column) : Option ColumnPart :=
  if c.autoIncrement || c.useCurrent then none else c.default.map fun v => .default (.value v)

/-- The clause of a column that counts up. -/
def incrementPart (c : Column) : Option ColumnPart :=
  if c.autoIncrement then some .increment else none

/-- The modifiers of a column, in the order an engine wants them. -/
def modifiers (d : Dialect) (c : Column) : List ColumnPart :=
  match d with
  | .postgres => (incrementPart c).toList ++ [nullabilityPart c] ++ (defaultPart c).toList
  | .mySql | .sqlite =>
    (unsignedPart d c).toList ++ [nullabilityPart c] ++ (defaultPart c).toList ++
      (incrementPart c).toList

/-! ## Definitions -/

/-- The types that can count up on an engine; on SQLite only the two that alias the row number. -/
def serials : Dialect → List ColumnType
  | .mySql | .postgres =>
    [.bigInteger, .integer, .mediumInteger, .smallInteger, .tinyInteger]
  | .sqlite => [.integer, .bigInteger]

/-- The definition of a column that can be defined. -/
def definition (d : Dialect) (c : Column) : ColumnDefinition :=
  { name := c.name, parts := typeParts d c ++ modifiers d c }

/-- The definition of a column; a column can count up only with a type that can. -/
def define (d : Dialect) (c : Column) : Except Error ColumnDefinition :=
  if c.autoIncrement && !(serials d).contains c.type then
    .error (.invalidColumn c.name (.incrementUnavailable c.type d))
  else .ok (definition d c)

/-- The definitions of several columns. -/
def defineAll (d : Dialect) : List Column → Except Error (List ColumnDefinition)
  | [] => .ok []
  | c :: cs =>
    match define d c with
    | .error e => .error e
    | .ok first => (defineAll d cs).map (first :: ·)

/-! ## Laws -/

theorem name_definition (d : Dialect) (c : Column) : (definition d c).name = c.name := rfl

theorem increment_not_mem_typeParts (d : Dialect) (c : Column) :
    ColumnPart.increment ∉ typeParts d c := by
  have time : ColumnPart.increment ∉ currentTimePart c := by
    unfold currentTimePart; split <;> simp
  have check : ColumnPart.increment ∉ valueCheckPart c := by
    unfold valueCheckPart; split <;> simp
  cases d
  · simp [typeParts, time]
  · simp only [typeParts]
    split <;> simp [time, check]
  · simp [typeParts, time, check]

theorem increment_mem_modifiers_iff (d : Dialect) (c : Column) :
    ColumnPart.increment ∈ modifiers d c ↔ c.autoIncrement = true := by
  have unsigned : ColumnPart.increment ∉ (unsignedPart d c).toList := by
    unfold unsignedPart; split <;> simp
  have default : ColumnPart.increment ∉ (defaultPart c).toList := by
    unfold defaultPart
    split
    · simp
    · cases c.default <;> simp
  have increment : ColumnPart.increment ∈ (incrementPart c).toList ↔ c.autoIncrement = true := by
    unfold incrementPart; split <;> simp_all
  cases d <;> simp [modifiers, nullabilityPart, unsigned, default, increment]

theorem isPrimary_definition (d : Dialect) (c : Column) :
    (definition d c).isPrimary = c.autoIncrement := by
  rw [Bool.eq_iff_iff, ColumnDefinition.isPrimary_iff]
  simp [definition, increment_not_mem_typeParts, increment_mem_modifiers_iff]

theorem define_eq_ok_iff {d : Dialect} {c : Column} {r : ColumnDefinition} :
    define d c = .ok r ↔
      (c.autoIncrement = true → c.type ∈ serials d) ∧ r = definition d c := by
  unfold define
  split
  · rename_i h
    simp only [Bool.and_eq_true, Bool.not_eq_true', List.contains_eq_mem] at h
    simp_all
  · rename_i h
    simp only [Bool.and_eq_true, Bool.not_eq_true', List.contains_eq_mem] at h
    constructor
    · intro e; cases e; simp_all
    · rintro ⟨-, rfl⟩; rfl

end SchemaShift.Sql
