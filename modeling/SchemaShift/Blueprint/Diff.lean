import SchemaShift.Blueprint.Basic

/-!
# Table diffs

An engine that cannot drop or redefine a column in place rebuilds the table. What is to change is
a diff: the columns to remove and the new definitions of others. Applying it to the description of
the live table gives the blueprint of the new one.

* `apply_eq_ok_iff`: a diff applies exactly when the table has every column it names.
* `names_target`: the columns of the new table are the surviving ones.
-/

namespace SchemaShift

/-- Changes to the columns of one existing table. New definitions belong to columns by name. -/
structure TableDiff where
  table : String
  removed : List String := []
  changed : List Column := []
deriving DecidableEq, Repr

namespace TableDiff

/-- Removes further columns. -/
def removing (d : TableDiff) (columns : List String) : TableDiff :=
  { d with removed := d.removed ++ columns }

/-- Redefines further columns. -/
def changing (d : TableDiff) (columns : List Column) : TableDiff :=
  { d with changed := d.changed ++ columns.map fun c => { c with change := false } }

/-- Nothing is to change. -/
def isEmpty (d : TableDiff) : Bool := d.removed.isEmpty && d.changed.isEmpty

/-- The columns a diff names. -/
def names (d : TableDiff) : List String := d.removed ++ d.changed.map (·.name)

/-- Whether a column stays. -/
def keeps (d : TableDiff) (c : Column) : Bool := !d.removed.contains c.name

/-- The definition of a column in the new table. -/
def redefined (d : TableDiff) (c : Column) : Column :=
  (d.changed.find? (·.name == c.name)).getD c

/-- Whether a command of the live table's description holds in the new table: keys that mention a
removed column do not. -/
def keepsCommand (d : TableDiff) : Command → Bool
  | .addIndex i => !i.columns.any d.removed.contains
  | .addForeign fk => !fk.columns.any d.removed.contains
  | _ => false

/-- The blueprint of the new table. -/
def target (d : TableDiff) (current : Blueprint) : Blueprint :=
  { table := current.table
    engine := current.engine
    columns := (current.columns.filter d.keeps).map d.redefined
    commands := .create :: current.commands.filter d.keepsCommand }

/-- Applies a diff to the description of the live table. -/
def apply (d : TableDiff) (current : Blueprint) : Except Error Blueprint :=
  match d.names.find? fun name => (current.column? name).isNone with
  | some name => .error (.invalidColumn name (.unknownOn d.table))
  | none => .ok (d.target current)

/-- The names of the columns that stay, in the order of the live table. -/
def survivors (d : TableDiff) (current : Blueprint) : List String :=
  (current.columns.filter d.keeps).map (·.name)

/-! ## Laws -/

theorem name_redefined (d : TableDiff) (c : Column) : (d.redefined c).name = c.name := by
  unfold redefined
  cases h : d.changed.find? (·.name == c.name) with
  | none => rfl
  | some found => simpa using List.find?_some h

theorem names_target (d : TableDiff) (current : Blueprint) :
    (d.target current).columns.map (·.name) = d.survivors current := by
  simp [target, survivors, name_redefined]

theorem apply_eq_ok_iff {d : TableDiff} {current target : Blueprint} :
    d.apply current = .ok target ↔
      (∀ name ∈ d.names, (current.column? name).isSome) ∧ target = d.target current := by
  unfold apply
  split
  · rename_i name h
    have missing := List.find?_some h
    have named := List.mem_of_find?_eq_some h
    simp only [Option.isNone_iff_eq_none] at missing
    simp only [reduceCtorEq, false_iff, not_and]
    intro all
    have := all name named
    simp [missing] at this
  · rename_i h
    rw [List.find?_eq_none] at h
    simp only [Option.isNone_iff_eq_none, Option.isSome_iff_ne_none] at h ⊢
    constructor
    · intro e; cases e; exact ⟨h, rfl⟩
    · rintro ⟨_, rfl⟩; rfl

end TableDiff

end SchemaShift
