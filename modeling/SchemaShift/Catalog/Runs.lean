import SchemaShift.Key
import SchemaShift.Row

/-!
# Runs of catalog rows

Catalogs report a key over several columns as one row for each column, ordered by the name of the
key. A run is a maximal stretch of neighbouring rows with the same key; it always has a first row.

* `flatten_runs`: the rows of all runs, in order, are the rows.
* `key_of_mem_runs`: the rows of a run have the key of its first row.
-/

namespace SchemaShift.Catalog

variable {α κ : Type} [DecidableEq κ]

/-- The runs of rows with the same key: the first row of each and the others. -/
def runs (key : α → κ) : List α → List (α × List α)
  | [] => []
  | a :: rest =>
    match runs key rest with
    | [] => [(a, [])]
    | (b, bs) :: others =>
      if key a = key b then (a, b :: bs) :: others else (a, []) :: (b, bs) :: others

/-- The rows of a run. -/
def rowsOf (run : α × List α) : List α := run.1 :: run.2

theorem flatten_runs (key : α → κ) (rows : List α) :
    (runs key rows).flatMap rowsOf = rows := by
  induction rows with
  | nil => rfl
  | cons a rest ih =>
    simp only [runs]
    split
    · rename_i h
      rw [h] at ih
      simp only [List.flatMap_nil] at ih
      simp [rowsOf, ← ih]
    · rename_i b bs others h
      rw [h] at ih
      split <;> simpa [rowsOf] using ih

theorem key_of_mem_runs (key : α → κ) (rows : List α) {run : α × List α}
    (h : run ∈ runs key rows) {row : α} (hrow : row ∈ rowsOf run) : key row = key run.1 := by
  induction rows generalizing run row with
  | nil => simp [runs] at h
  | cons a rest ih =>
    simp only [runs] at h
    split at h
    · simp only [List.mem_singleton] at h
      subst h
      simp [rowsOf] at hrow
      simp [hrow]
    · rename_i b bs others hruns
      have hb : ∀ r ∈ rowsOf (b, bs), key r = key b := fun r hr =>
        have first : (b, bs) ∈ runs key rest := by simp [hruns]
        ih first hr
      split at h
      · rename_i same
        rcases List.mem_cons.1 h with rfl | h
        · rcases List.mem_cons.1 hrow with rfl | hrow
          · rfl
          · exact (hb row hrow).trans same.symm
        · exact ih (by simp [hruns, h]) hrow
      · rcases List.mem_cons.1 h with rfl | h
        · simp [rowsOf] at hrow
          simp [hrow]
        · exact ih (by simpa [hruns] using h) hrow

/-- A column of one key that refers to a column of another table, as one catalog row reports
it. -/
structure KeyColumn where
  column : String
  reference : String

/-- A foreign key over the columns of a run. -/
def foreignKeyOf (part : Row → KeyColumn) (table : String) (onDelete onUpdate :
    Option ForeignAction) (name : Option String) (run : Row × List Row) : ForeignKey :=
  let parts := (rowsOf run).map part
  { columns := parts.map (·.column), table, references := parts.map (·.reference),
    onDelete := ForeignAction.explicit onDelete, onUpdate := ForeignAction.explicit onUpdate, name }

end SchemaShift.Catalog
