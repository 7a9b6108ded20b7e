import SchemaShift.Datum.Basic

/-!
# Records as plain data

Records are written field by field, and fields with the usual value are left out.
-/

namespace SchemaShift

/-- The fields of a record. -/
abbrev Fields : Type := List (String × Datum)

namespace Fields

variable {α : Type}

/-- A field that is left out when there is no value. -/
def whenSome (name : String) (encode : α → Datum) : Option α → Fields
  | some a => [(name, encode a)]
  | none => []

/-- A flag that is left out when it is not set. -/
def whenSet (name : String) (b : Bool) : Fields := if b then [(name, .ofFlag true)] else []

/-- A list that is left out when it is empty. -/
def whenAny (name : String) (encode : α → Datum) (as : List α) : Fields :=
  if as.isEmpty then [] else [(name, .list (as.map encode))]

end Fields

end SchemaShift
