import SchemaShift.Sql.Definition

/-!
# What a definition carries

A column has at most one default clause, and where it stands depends on the column: the current
time travels with the type, any other default is a modifier. This file says which default a
definition carries, whatever the engine.

Results:
* `default?_definition`: the default that the definition of a column carries.
* `nullability_mem_definition_iff`, `unsigned_mem_definition_iff`: the nullability that it states,
  and whether it says that the column is unsigned.
-/

namespace SchemaShift.Sql

/-- The default that a clause of a definition sets. -/
def ColumnPart.default? : ColumnPart → Option DefaultPart
  | .default d => some d
  | _ => none

/-- The default that a definition carries: that of its first default clause. -/
def ColumnDefinition.default? (d : ColumnDefinition) : Option DefaultPart :=
  d.parts.findSome? ColumnPart.default?

/-- The default of a column: none if it counts up, the current time if it uses it and can, and
otherwise its own. -/
def carriedDefault? (c : Column) : Option DefaultPart :=
  if c.autoIncrement then none
  else if c.useCurrent then (if c.type.isTemporal then some .currentTime else none)
  else c.default.map .value

/-! ## Clauses -/

theorem findSome?_currentTimePart (c : Column) :
    (currentTimePart c).findSome? ColumnPart.default? =
      if c.useCurrent then (if c.type.isTemporal then some .currentTime else none) else none := by
  unfold currentTimePart
  cases c.type.isTemporal <;> cases c.useCurrent <;> rfl

theorem findSome?_valueCheckPart (c : Column) :
    (valueCheckPart c).findSome? ColumnPart.default? = none := by
  unfold valueCheckPart
  split <;> rfl

theorem findSome?_unsignedPart (d : Dialect) (c : Column) :
    (unsignedPart d c).toList.findSome? ColumnPart.default? = none := by
  unfold unsignedPart
  split <;> rfl

theorem findSome?_incrementPart (c : Column) :
    (incrementPart c).toList.findSome? ColumnPart.default? = none := by
  unfold incrementPart
  split <;> rfl

theorem findSome?_defaultPart (c : Column) :
    (defaultPart c).toList.findSome? ColumnPart.default? =
      if c.autoIncrement || c.useCurrent then none else c.default.map .value := by
  unfold defaultPart
  split
  · rfl
  · cases c.default <;> rfl

/-- Among the modifiers only the default clause sets a default. -/
theorem findSome?_modifiers (d : Dialect) (c : Column) :
    (modifiers d c).findSome? ColumnPart.default? =
      if c.autoIncrement || c.useCurrent then none else c.default.map .value := by
  have stated : (nullabilityPart c).default? = none := rfl
  cases d <;>
    simp [modifiers, List.findSome?_append, findSome?_unsignedPart, findSome?_incrementPart,
      findSome?_defaultPart, stated]

/-! ## Definitions -/

/-- A type that counts up is not one that the current time is a default of. -/
theorem not_isTemporal_of_isInteger {t : ColumnType} (h : t.isInteger = true) :
    t.isTemporal = false := by
  cases t <;> first | rfl | cases h

/-- The type carries the current time, if anything. -/
theorem findSome?_typeParts (d : Dialect) (c : Column) :
    (typeParts d c).findSome? ColumnPart.default? =
      if c.useCurrent then (if c.type.isTemporal then some .currentTime else none) else none := by
  have silent : ∀ t, ColumnPart.default? (.type t) = none := fun _ => rfl
  have origin : ∀ t, ColumnPart.default? (.origin t) = none := fun _ => rfl
  cases d with
  | mySql => simp [typeParts, silent, findSome?_currentTimePart]
  | sqlite =>
    simp [typeParts, silent, origin, List.findSome?_append, findSome?_valueCheckPart,
      findSome?_currentTimePart]
  | postgres =>
    rw [typeParts]
    split
    · rename_i counts
      simp only [Bool.and_eq_true] at counts
      simp [silent, not_isTemporal_of_isInteger counts.2]
    · simp [silent, List.findSome?_append, findSome?_valueCheckPart, findSome?_currentTimePart]

/-- The default that the definition of a column carries, on every engine. -/
theorem default?_definition {c : Column}
    (integer : c.autoIncrement = true → c.type.isInteger = true) (d : Dialect) :
    (definition d c).default? = carriedDefault? c := by
  rw [ColumnDefinition.default?, definition, List.findSome?_append, findSome?_typeParts,
    findSome?_modifiers, carriedDefault?]
  by_cases counts : c.autoIncrement = true
  · simp [counts, not_isTemporal_of_isInteger (integer counts)]
  · by_cases current : c.useCurrent = true <;> simp [counts, current]

/-! ## Modifiers -/

/-- Whether a clause is a modifier, and not the type or what travels with it. -/
def ColumnPart.isModifier : ColumnPart → Bool
  | .unsigned | .nullability _ | .increment | .default (.value _) => true
  | .type _ | .origin _ | .valueCheck _ _ | .default .currentTime => false

theorem mem_modifiers_iff {d : Dialect} {c : Column} {p : ColumnPart} :
    p ∈ modifiers d c ↔ unsignedPart d c = some p ∨ p = nullabilityPart c ∨
      defaultPart c = some p ∨ incrementPart c = some p := by
  have unsigned : unsignedPart .postgres c = none := by simp [unsignedPart]
  cases d with
  | postgres =>
    simp only [modifiers, unsigned, List.mem_append, Option.mem_toList, List.mem_singleton]
    grind
  | mySql | sqlite =>
    simp only [modifiers, List.mem_append, Option.mem_toList, List.mem_singleton]
    grind

theorem not_mem_typeParts {p : ColumnPart} (h : p.isModifier = true) (d : Dialect) (c : Column) :
    p ∉ typeParts d c := by
  have type : ∀ t, p ≠ .type t := by rintro t rfl; cases h
  have origin : ∀ t, p ≠ .origin t := by rintro t rfl; cases h
  have noTime : p ∉ currentTimePart c := by
    unfold currentTimePart
    split <;> simp
    rintro rfl
    cases h
  have noCheck : p ∉ valueCheckPart c := by
    unfold valueCheckPart
    split <;> simp
    rintro rfl
    cases h
  cases d with
  | mySql => simp [typeParts, type, noTime]
  | sqlite => simp [typeParts, type, origin, noTime, noCheck]
  | postgres =>
    rw [typeParts]
    split <;> simp [type, noTime, noCheck]

/-- A definition states the nullability of its column. -/
theorem nullability_mem_definition_iff (d : Dialect) (c : Column) (n : Bool) :
    .nullability n ∈ (definition d c).parts ↔ n = c.nullable := by
  have type : .nullability n ∉ typeParts d c := not_mem_typeParts rfl d c
  have unsigned : unsignedPart d c ≠ some (.nullability n) := by simp [unsignedPart]
  have default : defaultPart c ≠ some (.nullability n) := by simp [defaultPart]
  have increment : incrementPart c ≠ some (.nullability n) := by simp [incrementPart]
  rw [definition, List.mem_append, mem_modifiers_iff]
  simp [type, unsigned, default, increment, nullabilityPart]

/-- A definition says that its column is unsigned where it has the clause. -/
theorem unsigned_mem_definition_iff (d : Dialect) (c : Column) :
    .unsigned ∈ (definition d c).parts ↔ unsignedPart d c = some .unsigned := by
  have type : .unsigned ∉ typeParts d c := not_mem_typeParts rfl d c
  have default : defaultPart c ≠ some .unsigned := by simp [defaultPart]
  have increment : incrementPart c ≠ some .unsigned := by simp [incrementPart]
  rw [definition, List.mem_append, mem_modifiers_iff]
  simp [type, default, increment, nullabilityPart]

end SchemaShift.Sql
