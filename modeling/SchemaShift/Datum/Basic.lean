import SchemaShift.Number.Double

/-!
# Plain data

What is written to documents is plain data first: atoms, lists and records. JSON values are plain
data too.
-/

namespace SchemaShift

/-- A value without parts. -/
inductive Atom where
  | null
  | bool (b : Bool)
  | integer (i : Int)
  | float (d : Double)
  | text (s : String)
deriving DecidableEq, Repr

/-- Plain data. The fields of a record keep their order. -/
inductive Datum where
  | atom (value : Atom)
  | list (items : List Datum)
  | record (fields : List (String × Datum))

instance : Inhabited Datum := ⟨.atom .null⟩

namespace Datum

/-- A text as plain data. -/
def ofText (s : String) : Datum := atom (.text s)

/-- A flag as plain data. -/
def ofFlag (b : Bool) : Datum := atom (.bool b)

/-- An integer as plain data. -/
def ofInt (i : Int) : Datum := atom (.integer i)

/-- A word of 32 bits as plain data. -/
def ofWord32 (n : UInt32) : Datum := ofInt n.toNat

/-- A word of 16 bits as plain data. -/
def ofWord16 (n : UInt16) : Datum := ofInt n.toNat

end Datum

end SchemaShift
