import SchemaShift.Error

/-!
# Identifiers

Names of tables, columns, indexes and constraints cannot be bound as parameters, so they are
checked before they are quoted into a statement.

* `check_eq_ok_iff`: a name is accepted exactly when it is not empty, holds no NUL and has at most
  `maxIdentifierBytes` bytes.
-/

namespace SchemaShift.Identifier

/-- A name that can be used as an identifier. -/
def Valid (name : String) : Prop :=
  name ≠ "" ∧ '\x00' ∉ name.toList ∧ name.utf8ByteSize ≤ maxIdentifierBytes

instance (name : String) : Decidable (Valid name) := by unfold Valid; infer_instance

/-- The first fault of a name: emptiness, then NUL, then length. -/
def fault? (name : String) : Option IdentifierFault :=
  if name = "" then some .empty
  else if '\x00' ∈ name.toList then some (.containsNul name)
  else if maxIdentifierBytes < name.utf8ByteSize then some (.tooLong name)
  else none

/-- Accepts a name that can be used as an identifier. -/
def check (name : String) : Except Error Unit :=
  match fault? name with
  | some fault => .error (.identifier fault)
  | none => .ok ()

theorem fault?_eq_none_iff {name : String} : fault? name = none ↔ Valid name := by
  unfold fault? Valid
  by_cases empty : name = ""
  · simp [empty]
  by_cases nul : '\x00' ∈ name.toList
  · simp [empty, nul]
  by_cases long : maxIdentifierBytes < name.utf8ByteSize
  · simp [empty, nul, long]
  · simp [empty, nul, long, Nat.le_of_not_lt long]

theorem check_eq_ok_iff {name : String} : check name = .ok () ↔ Valid name := by
  rw [← fault?_eq_none_iff]
  unfold check
  cases fault? name <;> simp

end SchemaShift.Identifier
