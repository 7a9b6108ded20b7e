import SchemaShift.Codec.Key
import SchemaShift.Column.Basic
import SchemaShift.Node.Untyped

/-!
# Columns in documents

An auto-incrementing integer is written with a type of its own, `increments` or `big_increments`.
A default needs no name for its kind: flags, integers, fractions and texts differ as atoms, and an
SQL expression is a record of its own. Integers too large for a signed word but not for an
unsigned one are read as floating-point numbers.

* `DefaultValue.ofNode_toDatum`: a default is read back as it was written.
* `typeOfText_typeText`: so are the type and the auto-increment flag of a column.
-/

namespace SchemaShift

/-! ## Defaults -/

namespace DefaultValue

/-- A default as plain data. -/
def toDatum : DefaultValue → Datum
  | integer i => .ofInt i.toInt
  | float d => .atom (.float d)
  | text s => .ofText s
  | bool b => .ofFlag b
  | raw sql => .record [("raw", .ofText sql)]

/-- The default an integer stands for. -/
def ofInt? (i : Int) : Option DefaultValue :=
  match Number.int64? i with
  | some word => some (integer word)
  | none => if 0 ≤ i ∧ i < UInt64.size then some (float (.ofInt i)) else none

/-- The default an atom stands for. -/
def ofAtom : Atom → Decoder DefaultValue
  | .bool b => pure (bool b)
  | .integer i =>
    match ofInt? i with
    | some value => pure value
    | none => throw .outOfRange
  | .float d => pure (float d)
  | .text s => pure (text s)
  | .null => throw (.expected "a default")

/-- The number of lists and records that may be nested in a document. -/
def documentDepth : Nat := 128

/-- The number of lists and records that hold a default. -/
def depthOfDefaults : Nat := 6

/-- What a field of an expression holds: the expression, if it is its field. The field has a name,
and is the first. Others are passed over, but must have a reading. -/
def expression? (field : Node × Node) : Decoder (Option String) := do
  let label ← field.1.label
  if label = .name "raw" ∨ label = .place 0 then
    match ← field.2.resolve with
    | .scalar s =>
      match s.value? with
      | some (.text sql) => return some sql
      | _ => throw (.expected "an expression")
    | _ => throw (.expected "an expression")
  else
    field.2.survey (documentDepth - depthOfDefaults - 1)
    return none

/-- The expression that is given once. -/
def onlyExpression : List String → Decoder DefaultValue
  | [sql] => pure (raw sql)
  | [] => throw (.missingField "raw")
  | _ => throw (.repeatedField "raw")

/-- Reads a default. -/
def ofNode (n : Node) : Decoder DefaultValue := do
  match ← n.resolve with
  | .native (.atom value) => ofAtom value
  | .native (.record fields) => do
    match ← (Node.Fields.native fields).find "raw" with
    | some (.native (.atom (.text sql))) => return raw sql
    | _ => throw (.expected "an expression")
  | .scalar s => ofAtom (← Node.scalarAtom s)
  | .record fields => do onlyExpression ((← fields.mapM expression?).filterMap id)
  | _ => throw (.expected "a default")

theorem ofInt?_toInt (i : Int64) : ofInt? i.toInt = some (integer i) := by
  simp only [ofInt?, Number.int64?_toInt]

theorem ofNode_toDatum (v : DefaultValue) : ofNode (.native v.toDatum) = pure v := by
  cases v with
  | integer i =>
    simp only [toDatum, Datum.ofInt, ofNode, Node.resolve, pure_bind, ofAtom, ofInt?_toInt]
  | _ => rfl

end DefaultValue

/-! ## Roles -/

namespace ForeignRole

/-- A role as plain data. -/
def toDatum (role : ForeignRole) : Datum :=
  .record ([("on", .ofText role.table), ("references", .ofText role.column)] ++
    Fields.whenSome "on_delete" ForeignAction.toDatum role.onDelete ++
    Fields.whenSome "on_update" ForeignAction.toDatum role.onUpdate ++
    Fields.whenSome "name" .ofText role.name)

/-- Reads a role. -/
def ofNode (n : Node) : Decoder ForeignRole := do
  let fields ← n.fields
  return {
    table := ← fields.required "on" Node.text
    column := ← fields.required "references" Node.text
    onDelete := ← fields.optional "on_delete" ForeignAction.ofNode
    onUpdate := ← fields.optional "on_update" ForeignAction.ofNode
    name := ← fields.optional "name" Node.text }

end ForeignRole

/-! ## Columns -/

namespace Column

/-- The name of a type together with the auto-increment flag, and what of the flag the name does
not say. -/
def typeText (type : ColumnType) (autoIncrement : Bool) : String × Bool :=
  match type, autoIncrement with
  | .integer, true => ("increments", false)
  | .bigInteger, true => ("big_increments", false)
  | type, flag => (type.name, flag)

/-- The type a name stands for, and whether the name says that the column counts up. -/
def typeOfText (name : String) : Except DataFault (ColumnType × Bool) :=
  if name = "increments" then .ok (.integer, true)
  else if name = "big_increments" then .ok (.bigInteger, true)
  else
    match ColumnType.ofName? name with
    | some type => .ok (type, false)
    | none => .error (.unknownVariant name)

theorem typeOfText_typeText (type : ColumnType) (flag : Bool) :
    (typeOfText (typeText type flag).1).map (fun t => (t.1, (typeText type flag).2 || t.2)) =
      .ok (type, flag) := by
  cases type <;> cases flag <;> rfl

/-- A column as plain data. -/
def toDatum (c : Column) : Datum :=
  let (type, counts) := typeText c.type c.autoIncrement
  .record ([("name", .ofText c.name), ("type", .ofText type)] ++
    Fields.whenSome "length" .ofWord32 c.length ++
    Fields.whenSome "precision" .ofWord32 c.precision ++
    Fields.whenSome "scale" .ofWord32 c.scale ++
    Fields.whenAny "allowed" .ofText c.allowed ++
    Fields.whenSet "nullable" c.nullable ++
    Fields.whenSet "unsigned" c.unsigned ++
    Fields.whenSet "auto_increment" counts ++
    Fields.whenSet "use_current" c.useCurrent ++
    Fields.whenSome "default" DefaultValue.toDatum c.default ++
    Fields.whenSet "change" c.change ++
    Fields.whenSome "foreign" ForeignRole.toDatum c.foreign)

/-- Reads a column. -/
def ofNode (n : Node) : Decoder Column := do
  let fields ← n.fields
  let (type, counts) ← typeOfText (← fields.required "type" Node.text)
  return {
    name := ← fields.required "name" Node.text
    type
    length := ← fields.optional "length" Node.word32
    precision := ← fields.optional "precision" Node.word32
    scale := ← fields.optional "scale" Node.word32
    allowed := ← fields.listOf "allowed" Node.text
    nullable := ← fields.flag "nullable"
    unsigned := ← fields.flag "unsigned"
    autoIncrement := (← fields.flag "auto_increment") || counts
    useCurrent := ← fields.flag "use_current"
    default := ← fields.optional "default" DefaultValue.ofNode
    change := ← fields.flag "change"
    foreign := ← fields.optional "foreign" ForeignRole.ofNode }

end Column

end SchemaShift
