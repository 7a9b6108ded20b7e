import SchemaShift.Datum.Fields
import SchemaShift.Node.Decoder

/-!
# Reading records

Records are read by name: unknown names are passed over, and a name that is asked for must not be
given twice. The names of a record are texts.
-/

namespace SchemaShift.Node

/-- The fields of a record by their names. -/
abbrev Fields : Type := List (String × Node)

/-- Fields of plain data. -/
def Fields.native (fields : SchemaShift.Fields) : Fields :=
  fields.map fun (name, d) => (name, .native d)

/-- The fields of a record; a blank stands for none. -/
def fields (n : Node) : Decoder Fields := do
  match (← n.resolve).unmarked with
  | record fields => fields.mapM fun (name, n) => do return (← name.text, n)
  | native (.record fields) => return .native fields
  | scalar s => if s.isBlank then return [] else throw (.expected "a record")
  | _ => throw (.expected "a record")

namespace Fields

variable {α : Type}

/-- The value of a name that is given at most once. -/
def find (fields : Fields) (name : String) : Decoder (Option Node) :=
  match fields.filter fun field => field.1 == name with
  | [] => pure none
  | [field] => pure (some field.2)
  | _ => throw (.repeatedField name)

/-- The value of a field that has to be there. -/
def required (fields : Fields) (name : String) (read : Node → Decoder α) : Decoder α := do
  match ← fields.find name with
  | some n => read n
  | none => throw (.missingField name)

/-- The value of a field, or a usual value where the field is absent. -/
def getD (fields : Fields) (name : String) (read : Node → Decoder α) (usual : α) : Decoder α := do
  match ← fields.find name with
  | some n => read n
  | none => return usual

/-- The value of a field that may be absent or null. -/
def optional (fields : Fields) (name : String) (read : Node → Decoder α) : Decoder (Option α) :=
  fields.getD name (Node.optional read) none

/-- A flag that is not set where the field is absent. -/
def flag (fields : Fields) (name : String) : Decoder Bool := fields.getD name Node.flag false

/-- A list that is empty where the field is absent. -/
def listOf (fields : Fields) (name : String) (read : Node → Decoder α) : Decoder (List α) :=
  fields.getD name (Node.listOf read) []

end Fields

end SchemaShift.Node
