import SchemaShift.Yaml.Scalar

/-!
# Values of documents

A document holds one value. Its scalars are kept as they are written, and the names of its fields
may be values of any kind. A value that is anchored has a number, and references stand for the value
of a number. Numbers may be given twice; the value that starts last then has it, wherever the
reference stands. So a reference may stand inside the value it refers to.

* `size_pos`: every value has a size.
-/

namespace SchemaShift

/-- A value of a document, or plain data that no document holds. -/
inductive Node where
  | native (d : Datum)
  | scalar (s : Yaml.Scalar)
  | list (items : List Node)
  | record (fields : List (Node × Node))
  /-- A list or a record behind a tag that only an application understands. -/
  | marked (name : String) (value : Node)
  | anchored (number : Nat) (value : Node)
  | reference (number : Nat)

instance : Inhabited Node := ⟨.scalar .blank⟩

namespace Node

/-! ## Anchors -/

mutual

/-- The anchored values in a value, the last to start first, in front of those found before. -/
def anchorsOnto (found : List (Nat × Node)) : Node → List (Nat × Node)
  | native _ | scalar _ | reference _ => found
  | list items => itemAnchorsOnto found items
  | record fields => fieldAnchorsOnto found fields
  | marked _ n => anchorsOnto found n
  | anchored number n => anchorsOnto ((number, n) :: found) n

/-- The anchored values in items. -/
def itemAnchorsOnto (found : List (Nat × Node)) : List Node → List (Nat × Node)
  | [] => found
  | n :: rest => itemAnchorsOnto (anchorsOnto found n) rest

/-- The anchored values in fields. -/
def fieldAnchorsOnto (found : List (Nat × Node)) : List (Node × Node) → List (Nat × Node)
  | [] => found
  | (name, n) :: rest => fieldAnchorsOnto (anchorsOnto (anchorsOnto found name) n) rest

end

/-- The values that references stand for. -/
def anchors (n : Node) : List (Nat × Node) := n.anchorsOnto []

/-! ## Sizes -/

mutual

/-- The number of events in a value: a scalar and a reference are one, a list and a record start and
end. -/
def size : Node → Nat
  | native _ | scalar _ | reference _ => 1
  | list items => 2 + itemSizes items
  | record fields => 2 + fieldSizes fields
  | marked _ n | anchored _ n => size n

/-- The number of events in items. -/
def itemSizes : List Node → Nat
  | [] => 0
  | n :: rest => size n + itemSizes rest

/-- The number of events in fields. -/
def fieldSizes : List (Node × Node) → Nat
  | [] => 0
  | (name, n) :: rest => size name + size n + fieldSizes rest

end

/-! ## Laws -/

theorem size_pos : (n : Node) → 0 < n.size
  | native _ | scalar _ | reference _ => by simp [size]
  | list _ | record _ => by simp only [size]; omega
  | marked _ n | anchored _ n => by simpa only [size] using size_pos n

end Node

end SchemaShift
