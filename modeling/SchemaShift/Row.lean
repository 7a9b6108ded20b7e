import SchemaShift.Number.Shortest
import SchemaShift.Text.Case
import SchemaShift.Text.Quoted
import SchemaShift.Text.Utf8

/-!
# Result rows

The values a query returns and the rows that hold them. Catalogs answer in two shapes, by column
name or by position, so a row can be read either way; a name is looked up without regard to the
case of ASCII letters, and the first column with the name counts.

* `Row.get?_ofPairs_cons`: looking up a name in a row built from pairs.
-/

namespace SchemaShift

/-- A single value of a result row. -/
inductive Value where
  | null
  | bool (b : Bool)
  | integer (i : Int64)
  | float (d : Double)
  | text (s : String)
  | bytes (b : List UInt8)
deriving DecidableEq, Repr

namespace Value

/-- The text of a text value. -/
def asText? : Value → Option String
  | text s => some s
  | _ => none

/-- The integer a value stands for. Text and bytes that hold a decimal integer count, since
several drivers return catalog numbers as text. -/
def asInt? : Value → Option Int64
  | integer i => some i
  | bool b => some (if b then 1 else 0)
  | float d => d.toInt?
  | text s => Number.readInt64? (Text.trim s)
  | bytes b => (Text.ofUtf8? b).bind fun s => Number.readInt64? (Text.trim s)
  | null => none

/-- The flag a value stands for. -/
def asFlag? : Value → Option Bool
  | bool b => some b
  | integer i => some (i != 0)
  | text s =>
    let word := Text.asciiLower s
    if ["1", "t", "true", "y", "yes"].contains word then some true
    else if ["0", "f", "false", "n", "no"].contains word then some false
    else none
  | _ => none

/-- Any value but NULL as text. -/
def toText? : Value → Option String
  | null => none
  | bool b => some (if b then "true" else "false")
  | integer i => some (toString i.toInt)
  | float d => some (d.render Double.statementLayout)
  | text s => some s
  | bytes b => some (Text.ofUtf8Lossy b)

end Value

/-- A result row with named columns. -/
structure Row where
  columns : List String
  values : List Value
deriving DecidableEq, Repr

namespace Row

/-- A row of named values. -/
def ofPairs (pairs : List (String × Value)) : Row :=
  { columns := pairs.map Prod.fst, values := pairs.map Prod.snd }

/-- A row whose columns are named `col0`, `col1` and so on. -/
def ofTuple (values : List Value) : Row :=
  { columns := (List.range values.length).map fun i => "col" ++ toString i, values }

/-- The value in the first column with a given name. -/
def get? (r : Row) (name : String) : Option Value :=
  (r.columns.findIdx? fun c => Text.sameWord c name).bind fun i => r.values[i]?

/-- The value at a position. -/
def at? (r : Row) (index : Nat) : Option Value := r.values[index]?

/-- The text of a named value. -/
def text? (r : Row) (name : String) : Option String := (r.get? name).bind Value.toText?

/-- The text of a named value, or the empty text. -/
def text (r : Row) (name : String) : String := (r.text? name).getD ""

/-- The text of the value at a position. -/
def textAt? (r : Row) (index : Nat) : Option String := (r.at? index).bind Value.toText?

/-- The text of the value at a position, or the empty text. -/
def textAt (r : Row) (index : Nat) : String := (r.textAt? index).getD ""

/-- The integer a named value stands for. -/
def int? (r : Row) (name : String) : Option Int64 := (r.get? name).bind Value.asInt?

/-- The integer the value at a position stands for. -/
def intAt? (r : Row) (index : Nat) : Option Int64 := (r.at? index).bind Value.asInt?

/-- The flag a named value stands for, or false. -/
def flag (r : Row) (name : String) : Bool := ((r.get? name).bind Value.asFlag?).getD false

/-- The flag the value at a position stands for, or false. -/
def flagAt (r : Row) (index : Nat) : Bool := ((r.at? index).bind Value.asFlag?).getD false

theorem get?_ofPairs_cons (key : String) (value : Value) (pairs : List (String × Value))
    (name : String) :
    (ofPairs ((key, value) :: pairs)).get? name =
      if Text.sameWord key name then some value else (ofPairs pairs).get? name := by
  by_cases h : Text.sameWord key name = true
  · simp [get?, ofPairs, List.findIdx?_cons, h]
  · simp only [get?, ofPairs, List.map_cons, List.findIdx?_cons, h]
    cases (List.map Prod.fst pairs).findIdx? (fun c => Text.sameWord c name) <;> simp

theorem get?_ofPairs_nil (name : String) : (ofPairs []).get? name = none := rfl

end Row

end SchemaShift
