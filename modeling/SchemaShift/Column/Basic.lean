import SchemaShift.Column.Default
import SchemaShift.Error
import SchemaShift.Key

/-!
# Columns

A column descriptor carries a logical type, its arguments and the modifiers, and may be the local
side of a single-column foreign key.

* `check_eq_ok_iff`: a column is accepted exactly when an auto-incrementing one is a
  non-nullable integer and an enum has values.
-/

namespace SchemaShift

/-- Makes a column the local side of a foreign key on that column alone. -/
structure ForeignRole where
  table : String
  column : String
  onDelete : Option ForeignAction := none
  onUpdate : Option ForeignAction := none
  name : Option String := none
deriving DecidableEq, Repr

namespace ForeignRole

/-- The foreign key a role stands for on a column. -/
def toKey (role : ForeignRole) (column : String) : ForeignKey :=
  { columns := [column], table := role.table, references := [role.column],
    onDelete := role.onDelete, onUpdate := role.onUpdate, name := role.name }

end ForeignRole

/-- A column descriptor. A column flagged `change` redefines an existing column. -/
structure Column where
  name : String
  type : ColumnType
  length : Option UInt32 := none
  precision : Option UInt32 := none
  scale : Option UInt32 := none
  allowed : List String := []
  nullable : Bool := false
  unsigned : Bool := false
  autoIncrement : Bool := false
  useCurrent : Bool := false
  default : Option DefaultValue := none
  change : Bool := false
  foreign : Option ForeignRole := none
deriving DecidableEq, Repr

namespace Column

/-- The length of a string column without one. -/
def defaultLength : UInt32 := 255

/-- The effective length of a string column. -/
def stringLength (c : Column) : UInt32 := c.length.getD defaultLength

/-! ## Modifying -/

def orNull (c : Column) : Column := { c with nullable := true }

def withoutSign (c : Column) : Column := { c with unsigned := true }

def withDefault (c : Column) (value : DefaultValue) : Column := { c with default := some value }

/-- Takes the current time as the default. -/
def withCurrent (c : Column) : Column := { c with useCurrent := true }

/-- Flags a column, so that it redefines an existing one. -/
def redefining (c : Column) : Column := { c with change := true }

/-- Makes a column refer to one of another table. -/
def referring (c : Column) (table column : String) : Column :=
  { c with foreign := some { table, column } }

/-- Says what becomes of a reference when what it refers to is deleted. -/
def onDelete (c : Column) (action : ForeignAction) : Column :=
  { c with foreign := c.foreign.map fun role => { role with onDelete := some action } }

/-- Says what becomes of a reference when what it refers to is updated. -/
def onUpdate (c : Column) (action : ForeignAction) : Column :=
  { c with foreign := c.foreign.map fun role => { role with onUpdate := some action } }

/-! ## Equality -/

/-- Equality up to the comparison of floating-point defaults. -/
def same (a b : Column) : Bool :=
  { a with default := none } == { b with default := none } &&
    match a.default, b.default with
    | some x, some y => x.same y
    | none, none => true
    | _, _ => false

/-! ## Validity -/

/-- The first fault of a descriptor. -/
def fault? (c : Column) : Option ColumnFault :=
  if c.autoIncrement && !c.type.isInteger then some (.incrementNotInteger c.type)
  else if c.autoIncrement && c.nullable then some .incrementNullable
  else if c.type = .enum && c.allowed.isEmpty then some .enumWithoutValues
  else none

/-- A descriptor that can be compiled: an auto-incrementing column is an integer that is not
nullable, and an enum has at least one value. -/
def Valid (c : Column) : Prop :=
  (c.autoIncrement = true → c.type.isInteger = true ∧ c.nullable = false) ∧
    (c.type = .enum → c.allowed ≠ [])

instance (c : Column) : Decidable c.Valid := by unfold Valid; infer_instance

/-- Accepts a descriptor that can be compiled. -/
def check (c : Column) : Except Error Unit :=
  match c.fault? with
  | some fault => .error (.invalidColumn c.name fault)
  | none => .ok ()

theorem fault?_eq_none_iff {c : Column} : c.fault? = none ↔ c.Valid := by
  unfold fault? Valid
  cases c.autoIncrement <;> cases c.type.isInteger <;> cases c.nullable <;> simp

theorem check_eq_ok_iff {c : Column} : c.check = .ok () ↔ c.Valid := by
  rw [← fault?_eq_none_iff]
  unfold check
  cases c.fault? <;> simp

end Column

end SchemaShift
