import Mathlib.Data.Finset.Image
import SchemaShift.Compile.Sqlite

/-!
# The shape of a table

What a blueprint does to an existing table, seen as the set of its columns and the set of its
indexes. A command that names a column or an index which is not there is an error; a dropped
column takes the indexes on it along.

`Blueprint.inOrder` is what the commands of a blueprint mean, one after the other.

Results:
* `mem_columns_without`, `mem_indexes_without`: what is left without some columns.
* `without_without`: columns can be left out in any order.
* `WellFormed.without`: what is left is well formed.
-/

namespace SchemaShift

/-- The columns of a table, and its indexes with their columns. -/
structure Shape where
  columns : Finset String
  indexes : Finset (String × List String)
deriving DecidableEq

namespace Shape

/-- An index is on columns of the table. -/
def WellFormed (s : Shape) : Prop := ∀ i ∈ s.indexes, ∀ c ∈ i.2, c ∈ s.columns

instance (s : Shape) : Decidable s.WellFormed := by unfold WellFormed; infer_instance

/-! ## Changes -/

/-- Adds a column. -/
def addColumn (s : Shape) (name : String) : Shape := { s with columns := insert name s.columns }

/-- Adds columns. -/
def addColumns (s : Shape) (names : List String) : Shape := names.foldl addColumn s

/-- The name of a column after another one has been renamed. -/
def renamed (source target name : String) : String := if name = source then target else name

/-- Renames a column, also in the indexes on it. -/
def renameColumn (s : Shape) (source target : String) : Option Shape :=
  if source ∈ s.columns then
    some
      { columns := s.columns.image (renamed source target)
        indexes := s.indexes.image fun i => (i.1, i.2.map (renamed source target)) }
  else none

/-- Adds an index. -/
def addIndex (s : Shape) (name : String) (columns : List String) : Option Shape :=
  if ∀ c ∈ columns, c ∈ s.columns then some { s with indexes := insert (name, columns) s.indexes }
  else none

/-- Drops an index. -/
def dropIndex (s : Shape) (name : String) : Option Shape :=
  if ∃ i ∈ s.indexes, i.1 = name then
    some { s with indexes := s.indexes.filter fun i => i.1 ≠ name }
  else none

/-- What is left without some columns and without the indexes on them. -/
def without (s : Shape) (names : List String) : Shape :=
  { columns := s.columns.filter fun c => c ∉ names
    indexes := s.indexes.filter fun i => ∀ c ∈ i.2, c ∉ names }

/-- Drops columns. -/
def dropColumns (s : Shape) (names : List String) : Option Shape :=
  if ∀ c ∈ names, c ∈ s.columns then some (s.without names) else none

/-! ## Laws -/

theorem mem_columns_without {s : Shape} {names : List String} {c : String} :
    c ∈ (s.without names).columns ↔ c ∈ s.columns ∧ c ∉ names := by
  simp [without]

theorem mem_indexes_without {s : Shape} {names : List String} {i : String × List String} :
    i ∈ (s.without names).indexes ↔ i ∈ s.indexes ∧ ∀ c ∈ i.2, c ∉ names := by
  simp [without]

theorem ext_mem {s t : Shape} (columns : ∀ c, c ∈ s.columns ↔ c ∈ t.columns)
    (indexes : ∀ i, i ∈ s.indexes ↔ i ∈ t.indexes) : s = t := by
  cases s
  cases t
  rw [Shape.mk.injEq]
  exact ⟨Finset.ext columns, Finset.ext indexes⟩

theorem WellFormed.without {s : Shape} (h : s.WellFormed) (names : List String) :
    (s.without names).WellFormed := by
  intro i hi c hc
  obtain ⟨hi, apart⟩ := mem_indexes_without.1 hi
  exact mem_columns_without.2 ⟨h i hi c hc, apart c hc⟩

theorem without_nil (s : Shape) : s.without [] = s := by
  simp [without]

theorem without_without (s : Shape) (xs ys : List String) :
    (s.without xs).without ys = s.without (xs ++ ys) := by
  apply ext_mem
  · intro c
    simp only [mem_columns_without, List.mem_append, not_or, and_assoc]
  · intro i
    simp only [mem_indexes_without, List.mem_append, not_or, and_assoc]
    constructor
    · rintro ⟨hi, apartX, apartY⟩
      exact ⟨hi, fun c hc => ⟨apartX c hc, apartY c hc⟩⟩
    · rintro ⟨hi, apart⟩
      exact ⟨hi, fun c hc => (apart c hc).1, fun c hc => (apart c hc).2⟩

end Shape

/-! ## Commands -/

/-- The commands that change the columns and the indexes of an existing table. -/
def Command.IsAlteration : Command → Prop
  | dropColumns _ | renameColumn _ _ | dropUnique _ | dropIndex _ => True
  | addIndex i => i.kind ≠ .primary
  | create | add | change | drop | dropIfExists | rename _ | addForeign _ | dropPrimary _
  | dropForeign _ => False

instance (c : Command) : Decidable c.IsAlteration := by
  cases c <;> unfold Command.IsAlteration <;> infer_instance

namespace Blueprint

/-- What a command means for a table of a given shape. -/
def perform (b : Blueprint) (s : Shape) : Command → Option Shape
  | .add => some (s.addColumns (b.addedColumns.map (·.name)))
  | .change => if ∀ c ∈ b.changedColumns, c.name ∈ s.columns then some s else none
  | .dropColumns columns => s.dropColumns columns
  | .renameColumn source target => s.renameColumn source target
  | .addIndex i => s.addIndex (i.resolvedName b.table) i.columns
  | .dropUnique name | .dropIndex name => s.dropIndex name
  | .create | .drop | .dropIfExists | .rename _ | .addForeign _ | .dropPrimary _
  | .dropForeign _ => none

/-- What the commands of a blueprint mean, one after the other. -/
def inOrder (b : Blueprint) (s : Shape) : Option Shape :=
  b.compiledCommands.foldlM (fun now c => b.perform now c) s

end Blueprint

end SchemaShift
