import Mathlib.Data.Multiset.MapFold
import Mathlib.Logic.Function.Basic
import SchemaShift.Proofs.Rebuild.Execution

/-!
# Executing statements over rows

What the statements of a rebuild do to the rows of a database, read relationally: a table has
distinct columns and a bag of rows, a row has a cell for each column, and a query picks columns out
of every row. Types, constraints and indexes are out of the question here, as are statements that
are no part of a rebuild.

Results:
* `restrict_restrict`: picking the same columns twice is picking them once.
* `runAll_append`: statements put together are executed one run after the other.
* `runAll_moving`: the moves of a rebuild leave the rows with the surviving columns, and nothing
  beside them.
* `hasCopy_of_prefix`: wherever a rebuild is interrupted, a table has all of these rows.
-/

namespace SchemaShift

/-- The cells of a row by column name. -/
abbrev Cells (α : Type) : Type := String → Option α

/-- A row without the cells of other columns. -/
def Cells.restrict {α : Type} (names : List String) (row : Cells α) : Cells α :=
  fun name => if name ∈ names then row name else none

/-- A table of a database, with a bag of rows. -/
structure StoredTable (α : Type) where
  columns : List String
  rows : Multiset (Cells α)
  distinct : columns.Nodup

/-- A database: its tables by name. -/
abbrev Database (α : Type) : Type := String → Option (StoredTable α)

namespace StoredTable

variable {α : Type}

/-- A table without rows, if its columns are distinct. -/
def empty? (columns : List String) : Option (StoredTable α) :=
  if distinct : columns.Nodup then some { columns, rows := 0, distinct } else none

/-- What a query for distinct columns returns, if the table has them. -/
def select? (t : StoredTable α) (names : List String) : Option (StoredTable α) :=
  if h : names.Nodup ∧ ∀ name ∈ names, name ∈ t.columns then
    some { columns := names, rows := t.rows.map (Cells.restrict names), distinct := h.1 }
  else none

/-- A table with the rows of another one added, if that one has its columns. -/
def insert? (t other : StoredTable α) : Option (StoredTable α) :=
  if other.columns.Perm t.columns then some { t with rows := t.rows + other.rows } else none

/-- A table with some of its columns only. -/
def surviving (t : StoredTable α) (names : List String) (distinct : names.Nodup) :
    StoredTable α :=
  { columns := names, rows := t.rows.map (Cells.restrict names), distinct }

end StoredTable

namespace Sql

variable {α : Type}

/-! ## Statements -/

/-- What a statement does to the tables of a database. No statement replaces a table that is
there, or reads one that is not. -/
def Statement.run (db : Database α) : Statement → Option (Database α)
  | copyTable target columns source =>
    match db target, db source with
    | none, some t => (t.select? columns).map fun copy => Function.update db target (some copy)
    | _, _ => none
  | dropTable name ifExists =>
    if (db name).isSome ∨ ifExists then some (Function.update db name none) else none
  | createTable name columns _ _ =>
    match db name with
    | none =>
      (StoredTable.empty? (columns.map (·.name))).map fun t => Function.update db name (some t)
    | some _ => none
  | insertFrom target columns source =>
    match db target, db source with
    | some t, some s =>
      (s.select? columns).bind fun selected =>
        (t.insert? selected).map fun filled => Function.update db target (some filled)
    | _, _ => none
  | createIndex _ _ _ _ => some db
  | _ => none

/-- What statements do to the tables of a database, one after the other. -/
def runAll (statements : List Statement) (db : Database α) : Option (Database α) :=
  statements.foldlM (fun db s => s.run db) db

end Sql

/-! ## Laws -/

section

variable {α : Type}

theorem Cells.restrict_restrict (names : List String) (row : Cells α) :
    restrict names (restrict names row) = restrict names row := by
  funext name
  unfold restrict
  split <;> rfl

theorem Cells.map_restrict_restrict (names : List String) (rows : Multiset (Cells α)) :
    (rows.map (restrict names)).map (restrict names) = rows.map (restrict names) := by
  rw [Multiset.map_map]
  exact Multiset.map_congr rfl fun row _ => row.restrict_restrict names

end

namespace Sql

open Compile.Sqlite

section

variable {α : Type}

theorem runAll_nil (db : Database α) : runAll [] db = some db := rfl

theorem runAll_cons (s : Statement) (ss : List Statement) (db : Database α) :
    runAll (s :: ss) db = (s.run db).bind (runAll ss) := rfl

theorem runAll_append (xs ys : List Statement) (db : Database α) :
    runAll (xs ++ ys) db = (runAll xs db).bind (runAll ys) := by
  rw [runAll, List.foldlM_append]
  rfl

/-- Statements that only add indexes change no rows. -/
theorem runAll_of_createIndex {ss : List Statement} (db : Database α)
    (h : ∀ s ∈ ss, ∃ unique name table columns, s = .createIndex unique name table columns) :
    runAll ss db = some db := by
  induction ss with
  | nil => rfl
  | cons s ss ih =>
    obtain ⟨unique, name, table, columns, rfl⟩ := h s List.mem_cons_self
    rw [runAll_cons]
    exact ih fun s hs => h s (List.mem_cons_of_mem _ hs)

end

/-! ## Rebuilding -/

/-- The statements that move the rows of a table by way of a temporary one. -/
def moving (table : String) (survivors : List String) (ds : List ColumnDefinition)
    (constraints : List TableConstraint) : List Statement :=
  [.copyTable (temporaryName table) survivors table, .dropTable table false,
    .createTable table ds constraints none,
    .insertFrom table survivors (temporaryName table), .dropTable (temporaryName table) false]

/-- A table or the temporary one beside it has certain rows, in the columns of interest. -/
def HasCopy {α : Type} (table : String) (names : List String) (rows : Multiset (Cells α))
    (db : Database α) : Prop :=
  ∃ name t, (name = table ∨ name = temporaryName table) ∧ db name = some t ∧
    t.rows.map (Cells.restrict names) = rows

section

variable {α : Type} {db : Database α} {table : String} {stored : StoredTable α}
  {survivors : List String}

theorem select?_eq (distinct : survivors.Nodup) (covered : ∀ c ∈ survivors, c ∈ stored.columns) :
    stored.select? survivors = some (stored.surviving survivors distinct) :=
  dif_pos ⟨distinct, covered⟩

/-- Surviving columns survive again. -/
theorem surviving_surviving (distinct : survivors.Nodup) :
    (stored.surviving survivors distinct).surviving survivors distinct =
      stored.surviving survivors distinct := by
  rw [StoredTable.surviving, StoredTable.surviving, StoredTable.mk.injEq]
  exact ⟨rfl, Cells.map_restrict_restrict survivors stored.rows⟩

variable {ds : List ColumnDefinition} (constraints : List TableConstraint)

/-- The databases between the statements of a rebuild: the rows stand in the temporary table before
the table is dropped, and leave it after the new one has them. -/
theorem run_moving (there : db table = some stored) (alone : db (temporaryName table) = none)
    (covered : ∀ c ∈ survivors, c ∈ stored.columns) (distinct : survivors.Nodup)
    (names : ds.map (·.name) = survivors) :
    ∃ db₁ db₂ db₃ db₄ : Database α,
      (Statement.copyTable (temporaryName table) survivors table).run db = some db₁ ∧
        (Statement.dropTable table false).run db₁ = some db₂ ∧
        (Statement.createTable table ds constraints none).run db₂ = some db₃ ∧
        (Statement.insertFrom table survivors (temporaryName table)).run db₃ = some db₄ ∧
        (Statement.dropTable (temporaryName table) false).run db₄ =
          some (Function.update db table (some (stored.surviving survivors distinct))) ∧
        ∀ mid ∈ [db₁, db₂, db₃, db₄],
          mid (temporaryName table) = some (stored.surviving survivors distinct) := by
  have other := temporaryName_ne table
  set kept := stored.surviving survivors distinct with hkept
  set aside := Function.update db (temporaryName table) (some kept) with haside
  have temporary : aside (temporaryName table) = some kept := Function.update_self ..
  have same (t : Option (StoredTable α)) :
      Function.update aside table t (temporaryName table) = some kept := by
    rw [Function.update_of_ne other, temporary]
  refine ⟨aside, Function.update aside table none,
    Function.update aside table (some { columns := survivors, rows := 0, distinct }),
    Function.update aside table (some kept), ?_, ?_, ?_, ?_, ?_, ?_⟩
  · simp only [Statement.run, there, alone, select?_eq distinct covered]
    rfl
  · rw [Statement.run, if_pos]
    left
    rw [haside, Function.update_of_ne other.symm, there]
    rfl
  · have empty : StoredTable.empty? (α := α) (ds.map (·.name)) =
        some { columns := survivors, rows := 0, distinct } := by
      rw [names]
      exact dif_pos distinct
    simp only [Statement.run, Function.update_self, empty, Option.map_some, Function.update_idem]
  · have again : kept.select? survivors = some kept := by
      rw [select?_eq distinct fun _ hc => hc, hkept, surviving_surviving]
    have filled : StoredTable.insert? { columns := survivors, rows := 0, distinct } kept =
        some kept := by
      refine (if_pos (List.Perm.refl survivors)).trans ?_
      simp only [Multiset.zero_add, hkept, StoredTable.surviving]
    simp only [Statement.run, Function.update_self, same, again, Option.bind_some, filled,
      Option.map_some, Function.update_idem]
  · rw [Statement.run, if_pos (.inl (by rw [same]; rfl)), Function.update_comm other.symm, haside,
      Function.update_idem, ← alone, Function.update_eq_self]
  · simp [temporary, same]

/-- A rebuild leaves the table with its surviving columns and no other table changed, so that the
temporary table is gone. -/
theorem runAll_moving (there : db table = some stored) (alone : db (temporaryName table) = none)
    (covered : ∀ c ∈ survivors, c ∈ stored.columns) (distinct : survivors.Nodup)
    (names : ds.map (·.name) = survivors) :
    runAll (moving table survivors ds constraints) db =
      some (Function.update db table (some (stored.surviving survivors distinct))) := by
  obtain ⟨_, _, _, _, first, second, third, fourth, fifth, -⟩ :=
    run_moving constraints there alone covered distinct names
  simp only [moving, runAll_cons, first, second, third, fourth, fifth, Option.bind_some,
    runAll_nil]

/-- Wherever a rebuild is interrupted, a table has all of the rows. -/
theorem hasCopy_of_prefix (there : db table = some stored)
    (alone : db (temporaryName table) = none) (covered : ∀ c ∈ survivors, c ∈ stored.columns)
    (distinct : survivors.Nodup) (names : ds.map (·.name) = survivors) (n : Nat) :
    ∃ mid, runAll ((moving table survivors ds constraints).take n) db = some mid ∧
      HasCopy table survivors (stored.rows.map (Cells.restrict survivors)) mid := by
  obtain ⟨db₁, db₂, db₃, db₄, first, second, third, fourth, fifth, keep⟩ :=
    run_moving constraints there alone covered distinct names
  have temporary {mid : Database α}
      (h : mid (temporaryName table) = some (stored.surviving survivors distinct)) :
      HasCopy table survivors (stored.rows.map (Cells.restrict survivors)) mid :=
    ⟨_, _, .inr rfl, h, Cells.map_restrict_restrict survivors stored.rows⟩
  rcases n with - | - | - | - | - | n
  · exact ⟨db, rfl, table, stored, .inl rfl, there, rfl⟩
  · exact ⟨db₁, by simp [moving, runAll_cons, first, runAll_nil], temporary (keep _ (by simp))⟩
  · exact ⟨db₂, by simp [moving, runAll_cons, first, second, runAll_nil],
      temporary (keep _ (by simp))⟩
  · exact ⟨db₃, by simp [moving, runAll_cons, first, second, third, runAll_nil],
      temporary (keep _ (by simp))⟩
  · exact ⟨db₄, by simp [moving, runAll_cons, first, second, third, fourth, runAll_nil],
      temporary (keep _ (by simp))⟩
  · have all : (moving table survivors ds constraints).take (n + 5) =
        moving table survivors ds constraints := List.take_of_length_le (by simp [moving])
    rw [all]
    exact ⟨_, runAll_moving constraints there alone covered distinct names, table, _, .inl rfl,
      Function.update_self .., Cells.map_restrict_restrict survivors stored.rows⟩

end

end Sql

end SchemaShift
