import SchemaShift.Column.Basic
import SchemaShift.Ddl.Reader

/-!
# Type clauses

A type clause is a name with optional arguments, followed by `unsigned` and `zerofill` in any
order. Two families of names are known: the physical types of MySQL, which SQLite definitions use
as well, and the logical types that SQLite definitions carry in comments.

* `applyMySql?_type`, `applyLogical?_type`: the logical type that a clause gives a column.
* `applyMySql?_name`: a clause never renames a column.
-/

namespace SchemaShift

/-- A type clause: the lower-case name, the arguments and whether it is unsigned. -/
structure TypeSpec where
  name : String
  args : List String := []
  unsigned : Bool := false
deriving DecidableEq, Repr

namespace TypeSpec

/-! ## Reading -/

/-- The arguments of a type up to the closing parenthesis; commas between them are passed over
wherever they stand. -/
def arguments (type : String) : Reader (List String)
  | [] => .error (.badMatch (.unclosedArguments type))
  | t :: ts =>
    match t with
    | .rightParen => .ok ⟨[], ts, by simp⟩
    | .comma => (arguments type ts).map fun p => p.weaken (by simp)
    | .number n | .str n | .word n =>
      (arguments type ts).map fun p => (p.map (n :: ·)).weaken (by simp)
    | t => .error (.unknownToken t.text (type ++ " arguments"))

/-- The flags after a type: whether one of them is `unsigned`. -/
def flags : Reader Bool
  | [] => .ok ⟨false, [], Nat.le_refl _⟩
  | t :: ts =>
    if t.isKeyword "unsigned" then
      (flags ts).map fun p => (p.map fun _ => true).weaken (by simp)
    else if t.isKeyword "zerofill" then (flags ts).map fun p => p.weaken (by simp)
    else .ok ⟨false, t :: ts, Nat.le_refl _⟩

/-- The name of a type, lowered. -/
def typeName : Reader String
  | [] => .error (.badMatch .missingTypeName)
  | .word w :: ts => .ok ⟨Text.asciiLower w, ts, Nat.le_succ _⟩
  | t :: _ => .error (.unknownToken t.text "type name")

/-- Reads a type clause. -/
def read : Reader TypeSpec := do
  let name ← typeName
  let args ←
    match ← Reader.peek with
    | some .leftParen => do
      let _ ← Reader.next
      arguments name
    | _ => pure []
  let unsigned ← flags
  pure { name, args, unsigned }

/-- Reads a text that holds one type clause and nothing else. -/
def ofText (text : String) : Except Error TypeSpec :=
  match Token.scan text with
  | .error e => .error e
  | .ok tokens =>
    match read.run tokens with
    | .error e => .error e
    | .ok (spec, []) => .ok spec
    | .ok (_, extra :: _) => .error (.unknownToken extra.text ("type '" ++ text ++ "'"))

/-! ## Meaning -/

/-- The argument at a position as a number. -/
def number? (spec : TypeSpec) (index : Nat) : Option UInt32 :=
  spec.args[index]?.bind fun arg => Number.readUInt32? (Text.trim arg)

/-- The logical type of a physical type of MySQL; `tinyint(1)` is the boolean type, and integer
display widths mean nothing else. -/
def mySqlType? (spec : TypeSpec) : Option ColumnType :=
  match spec.name with
  | "bigint" => some .bigInteger
  | "int" | "integer" => some .integer
  | "mediumint" => some .mediumInteger
  | "smallint" => some .smallInteger
  | "tinyint" => if spec.number? 0 = some 1 then some .boolean else some .tinyInteger
  | "bool" | "boolean" => some .boolean
  | "varchar" => some .string
  | "char" => some .char
  | "text" | "tinytext" => some .text
  | "mediumtext" => some .mediumText
  | "longtext" => some .longText
  | "decimal" | "numeric" => some .decimal
  | "float" => some .float
  | "double" | "real" => some .double
  | "enum" => some .enum
  | "json" => some .json
  | "date" => some .date
  | "datetime" => some .dateTime
  | "timestamp" => some .timestamp
  | "time" => some .time
  | "blob" | "tinyblob" | "mediumblob" | "longblob" | "binary" | "varbinary" => some .binary
  | _ => none

/-- Gives a column a type and those arguments of a clause that the type has. -/
def give (spec : TypeSpec) (type : ColumnType) (c : Column) : Column :=
  let plain :=
    { c with type, length := none, precision := none, scale := none, allowed := [] }
  match type with
  | .string | .char => { plain with length := spec.number? 0 }
  | .decimal | .float | .double =>
    { plain with precision := spec.number? 0, scale := spec.number? 1 }
  | .enum => { plain with allowed := spec.args }
  | _ => plain

/-- Gives a column the logical type of a physical one, if it has one. -/
def applyMySql? (spec : TypeSpec) (c : Column) : Option Column :=
  spec.mySqlType?.map fun type =>
    spec.give type { c with unsigned := spec.unsigned && type.isSignable }

/-- Gives a column the logical type a clause names, if there is such a type. -/
def applyLogical? (spec : TypeSpec) (c : Column) : Option Column :=
  (ColumnType.ofName? spec.name).map fun type => spec.give type c

/-! ## Laws -/

theorem type_give (spec : TypeSpec) (type : ColumnType) (c : Column) :
    (spec.give type c).type = type := by
  unfold give; split <;> simp_all

theorem name_give (spec : TypeSpec) (type : ColumnType) (c : Column) :
    (spec.give type c).name = c.name := by
  unfold give; split <;> rfl

theorem applyMySql?_type {spec : TypeSpec} {c d : Column} (h : spec.applyMySql? c = some d) :
    spec.mySqlType? = some d.type := by
  obtain ⟨type, htype, rfl⟩ := Option.map_eq_some_iff.1 h
  rw [htype, type_give]

theorem applyMySql?_name {spec : TypeSpec} {c d : Column} (h : spec.applyMySql? c = some d) :
    d.name = c.name := by
  obtain ⟨type, -, rfl⟩ := Option.map_eq_some_iff.1 h
  rw [name_give]

theorem applyLogical?_type {spec : TypeSpec} {c d : Column}
    (h : spec.applyLogical? c = some d) : ColumnType.ofName? spec.name = some d.type := by
  obtain ⟨type, htype, rfl⟩ := Option.map_eq_some_iff.1 h
  rw [htype, type_give]

end TypeSpec

end SchemaShift
