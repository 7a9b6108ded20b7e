import SchemaShift.Column.Type
import SchemaShift.Number.Shortest

/-!
# Column defaults

A default is a literal of one of four kinds or an SQL expression that statements carry verbatim.
Catalogs and statements report literals as bare text, and the type of the column decides how such
a text is read.

* `ofLiteral_eq_text`: on a column that is not numeric every literal is text.
-/

namespace SchemaShift

/-- The default of a column. -/
inductive DefaultValue where
  | integer (i : Int64)
  | float (d : Double)
  | text (s : String)
  | bool (b : Bool)
  | raw (sql : String)
deriving DecidableEq, Repr

namespace DefaultValue

/-- Equality up to the comparison of floating-point numbers. -/
def same : DefaultValue → DefaultValue → Bool
  | float a, float b => a.same b
  | a, b => a == b

/-! ## Reading literals -/

/-- The characters after an optional minus sign. -/
def unsignedPart : List Char → List Char
  | '-' :: cs => cs
  | cs => cs

/-- Digits after an optional minus sign. -/
def isIntegerLiteral (cs : List Char) : Bool := Number.isDigits (unsignedPart cs)

/-- Digits, a point and digits after an optional minus sign. -/
def isDecimalLiteral (cs : List Char) : Bool :=
  let digits := unsignedPart cs
  let whole := digits.takeWhile (· != '.')
  let part := (digits.dropWhile (· != '.')).drop 1
  Number.isDigits whole && Number.isDigits part

/-- The flag a literal stands for on a boolean column. -/
def flag? (literal : String) : Option Bool :=
  let word := Text.asciiLower literal
  if ["1", "true", "t"].contains word then some true
  else if ["0", "false", "f"].contains word then some false
  else none

/-- The number a literal stands for on a numeric column. -/
def number? (literal : String) : Option DefaultValue :=
  let whole := if isIntegerLiteral literal.toList then Number.readInt64? literal else none
  match whole with
  | some i => some (integer i)
  | none =>
    if isDecimalLiteral literal.toList then (Double.read? literal).map float else none

/-- A literal of a catalog or a statement, read for a column of the given type: on boolean columns
the usual words for truth, on numeric columns integers and decimal fractions, and text
otherwise. -/
def ofLiteral (literal : String) (type : ColumnType) : DefaultValue :=
  match (if type = .boolean then flag? literal else none) with
  | some b => bool b
  | none =>
    if type.isNumeric then (number? literal).getD (text literal) else text literal

theorem ofLiteral_eq_text {type : ColumnType} (h : type.isNumeric = false) (literal : String) :
    ofLiteral literal type = text literal := by
  have notBoolean : type ≠ .boolean := by rintro rfl; simp [ColumnType.isNumeric] at h
  simp [ofLiteral, h, notBoolean]

end DefaultValue

end SchemaShift
