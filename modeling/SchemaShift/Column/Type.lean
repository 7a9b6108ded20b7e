import SchemaShift.Text.Case

/-!
# Logical column types

The types a column can have before an engine is chosen, their names in documents and the families
that decide which modifiers apply.

* `ofName?_name`: the name of a type is read back as that type.
* `mem_all`: `all` lists every type.
-/

namespace SchemaShift

/-- A logical column type, independent of any engine. -/
inductive ColumnType where
  | bigInteger
  | integer
  | mediumInteger
  | smallInteger
  | tinyInteger
  | string
  | char
  | text
  | mediumText
  | longText
  | decimal
  | float
  | double
  | boolean
  | enum
  | json
  | date
  | dateTime
  | timestamp
  | time
  | binary
deriving DecidableEq, Repr

namespace ColumnType

/-- Every logical type. -/
def all : List ColumnType :=
  [bigInteger, integer, mediumInteger, smallInteger, tinyInteger, string, char, text, mediumText,
    longText, decimal, float, double, boolean, enum, json, date, dateTime, timestamp, time, binary]

/-! ## Names -/

/-- The canonical name. -/
def name : ColumnType → String
  | bigInteger => "big_integer"
  | integer => "integer"
  | mediumInteger => "medium_integer"
  | smallInteger => "small_integer"
  | tinyInteger => "tiny_integer"
  | string => "string"
  | char => "char"
  | text => "text"
  | mediumText => "medium_text"
  | longText => "long_text"
  | decimal => "decimal"
  | float => "float"
  | double => "double"
  | boolean => "boolean"
  | enum => "enum"
  | json => "json"
  | date => "date"
  | dateTime => "datetime"
  | timestamp => "timestamp"
  | time => "time"
  | binary => "binary"

/-- Further names a type answers to. -/
def aliases : ColumnType → List String
  | bigInteger => ["big_int", "bigint"]
  | integer => ["int"]
  | mediumInteger => ["medium_int"]
  | smallInteger => ["small_int"]
  | tinyInteger => ["tiny_int"]
  | boolean => ["bool"]
  | _ => []

/-- The type with a given name or alias, in any case of ASCII letters. -/
def ofName? (s : String) : Option ColumnType :=
  let word := Text.asciiLower s
  all.find? fun t => t.name == word || t.aliases.contains word

theorem ofName?_name (t : ColumnType) : ofName? t.name = some t := by
  cases t <;> decide

theorem mem_all (t : ColumnType) : t ∈ all := by cases t <;> decide

/-! ## Families -/

/-- The integer types, which alone can count up by themselves. -/
def isInteger : ColumnType → Bool
  | bigInteger | integer | mediumInteger | smallInteger | tinyInteger => true
  | _ => false

/-- The types whose literals are read as numbers; booleans are stored as small integers. -/
def isNumeric : ColumnType → Bool
  | decimal | float | double | boolean => true
  | t => t.isInteger

/-- The types with a length in characters. -/
def isString : ColumnType → Bool
  | string | char => true
  | _ => false

/-- The types that can default to the current time. -/
def isTemporal : ColumnType → Bool
  | dateTime | timestamp => true
  | _ => false

/-- The numeric types that can be unsigned. -/
def isSignable (t : ColumnType) : Bool := t.isNumeric && t != boolean

end ColumnType

end SchemaShift
