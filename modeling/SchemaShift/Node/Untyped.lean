import SchemaShift.Node.Decoder

/-!
# Values of any kind

A reader that takes any kind of value has to look into all of it before it knows what it has. A
value has such a reading if its scalars are what their tags say, its integers fit a word of 64 bits,
with a sign or without, nothing in it is only for an application, and it is not nested too deeply.
-/

namespace SchemaShift.Node

/-- Whether an integer fits a word of 64 bits, with a sign or without. -/
def fitsWord (i : Int) : Bool := -(Int64.size / 2 : Int) ≤ i && i < UInt64.size

/-- An atom whose integers fit. -/
def surveyAtom : Atom → Decoder Atom
  | .integer i => if fitsWord i then pure (.integer i) else throw .outOfRange
  | a => pure a

/-- The atom a scalar stands for. -/
def scalarAtom (s : Yaml.Scalar) : Decoder Atom :=
  match s.value? with
  | some a => surveyAtom a
  | none => throw (.expected "a value")

/-- Looks into a value in which so many lists and records may be nested. -/
def survey (depth : Nat) (n : Node) : Decoder Unit := do
  match ← n.resolve with
  | native _ => return
  | scalar s =>
    let _ ← scalarAtom s
  | list items =>
    match depth with
    | 0 => throw .tooDeep
    | depth + 1 => items.forM (survey depth)
  | record fields =>
    match depth with
    | 0 => throw .tooDeep
    | depth + 1 => fields.forM fun (name, n) => do
      survey depth name
      survey depth n
  | _ => throw (.expected "a value")

/-- How a record of any kind names a field: by a text, or by its place. -/
inductive Label where
  | name (s : String)
  | place (n : Nat)
deriving DecidableEq, Repr

/-- The label in front of a field. Places have no sign. -/
def label (n : Node) : Decoder Label := do
  match ← n.resolve with
  | scalar s =>
    match ← scalarAtom s with
    | .text name => return .name name
    | .integer _ =>
      match Yaml.Plain.unsigned? s.text.toList with
      | some place => return .place place
      | none => throw (.expected "a field")
    | _ => throw (.expected "a field")
  | _ => throw (.expected "a field")

end SchemaShift.Node
