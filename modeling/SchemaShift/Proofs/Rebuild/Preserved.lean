import SchemaShift.Proofs.Rebuild.Agreement
import SchemaShift.Proofs.Rebuild.Rows

/-!
# A rebuild preserves the surviving data

Three lists of columns have to agree for a rebuild to bring the rows back: the columns of the new
table, of which those marked as redefinitions are left out, the columns that survive, and the
columns that are copied. They agree exactly when the new table has no column with that mark. A diff
takes the mark off the definitions it is given, so they do agree for what a blueprint changes,
whatever is removed or redefined, and however often.

Results:
* `ownIndexes_target`: the indexes of the new table are those of the old one on columns that stay.
* `rebuilds_iff_of_rebuildFrom`: the statements of a rebuild move the rows of the surviving columns
  and make those indexes again exactly when no column of the new table has the mark.
* `Made.rebuilds`, `rebuilds_rebuildDiff`: a rebuild does so when its diff is made step by step, as
  that of a blueprint is.
* `rebuilds_iff_of_result`: any other rebuild that compiles does so under the same condition.
* `exists_not_rebuilds`: not every diff does, and an index that the table has twice is made twice.
-/

namespace SchemaShift

open Compile.Sqlite Sql

namespace TableDiff

variable {d : TableDiff} {current : Blueprint}

/-- All columns are new when none is marked as a redefinition. -/
theorem addedColumns_eq_columns_iff {b : Blueprint} :
    b.addedColumns = b.columns ↔ b.changedColumns = [] := by
  rw [Blueprint.addedColumns, Blueprint.changedColumns, List.filter_eq_self,
    List.filter_eq_nil_iff]
  simp

/-- The indexes of the new table are those of the old one on columns that stay, in their order. -/
theorem ownIndexes_target :
    ownIndexes (d.target current) =
      (ownIndexes current).filter fun i => ∀ c ∈ i.columns, c ∉ d.removed := by
  have indexes : ∀ cs : List Command,
      (cs.filter d.keepsCommand).filterMap Command.index? =
        (cs.filterMap Command.index?).filter fun i => ∀ c ∈ i.columns, c ∉ d.removed := by
    intro cs
    induction cs with
    | nil => rfl
    | cons c cs ih =>
      cases c with
      | addIndex i =>
        have kept : d.keepsCommand (.addIndex i) = decide (∀ c ∈ i.columns, c ∉ d.removed) := by
          rw [keepsCommand, Bool.eq_iff_iff]
          simp
        have entry : (Command.addIndex i :: cs).filterMap Command.index? =
            i :: cs.filterMap Command.index? := rfl
        rw [List.filter_cons, kept, entry, List.filter_cons, ← ih]
        split <;> rfl
      | addForeign fk =>
        rw [List.filterMap_cons_none rfl, ← ih, List.filter_cons]
        split <;> rfl
      | _ => exact ih
  have commands := indexes current.commands
  rw [ownIndexes, ownIndexes, Blueprint.indexes, Blueprint.indexes, target,
    List.filterMap_cons_none rfl, commands, List.filter_filter, List.filter_filter]
  simp only [Bool.and_comm]

theorem survivors_sublist (d : TableDiff) (current : Blueprint) :
    (d.survivors current).Sublist (current.columns.map (·.name)) :=
  List.filter_sublist.map _

/-! ## Rebuilding -/

/-- Statements that rebuild a table: its rows are moved to a new table of the surviving columns,
and then the indexes on columns that stay are made again. -/
structure Rebuilds (d : TableDiff) (current : Blueprint) (ss : List Statement) : Prop where
  /-- The new table has the columns that are copied out and back. -/
  statements : ∃ ds constraints, ds.map (·.name) = d.survivors current ∧
    ss = moving d.table (d.survivors current) ds constraints ++
      ((ownIndexes current).filter fun i => ∀ c ∈ i.columns, c ∉ d.removed).map fun i =>
        .createIndex (i.kind == .unique) (i.resolvedName d.table) d.table i.columns
  /-- The table keeps its rows, restricted to the surviving columns, and is the only one that
  changes. -/
  rows : ∀ {α : Type} {db : Database α} {stored : StoredTable α}, db d.table = some stored →
    stored.columns = current.columns.map (·.name) → db (temporaryName d.table) = none →
    ∃ after kept, runAll ss db = some after ∧ after d.table = some kept ∧
      kept.columns = d.survivors current ∧
      kept.rows = stored.rows.map (Cells.restrict (d.survivors current)) ∧
      after (temporaryName d.table) = none ∧ ∀ name ≠ d.table, after name = db name
  /-- Wherever the statements are interrupted, these rows are all there. -/
  safe : ∀ {α : Type} {db : Database α} {stored : StoredTable α}, db d.table = some stored →
    stored.columns = current.columns.map (·.name) → db (temporaryName d.table) = none →
    ∀ n, ∃ mid, runAll (ss.take n) db = some mid ∧
      HasCopy d.table (d.survivors current)
        (stored.rows.map (Cells.restrict (d.survivors current))) mid

/-- What is copied is there, each column once. -/
theorem survivors_stored {α : Type} {stored : StoredTable α}
    (columns : stored.columns = current.columns.map (·.name)) :
    (∀ c ∈ d.survivors current, c ∈ stored.columns) ∧ (d.survivors current).Nodup := by
  have sublist : (d.survivors current).Sublist stored.columns :=
    columns ▸ d.survivors_sublist current
  exact ⟨fun _ hc => sublist.subset hc, stored.distinct.sublist sublist⟩

/-- Indexes that are made again leave all rows alone. -/
theorem runAll_createIndexes {α : Type} {is : List Index} {ss : List Statement}
    (made : ∀ s ∈ ss, s ∈ is.map fun i =>
      .createIndex (i.kind == .unique) (i.resolvedName d.table) d.table i.columns)
    (db : Database α) : runAll ss db = some db := by
  apply runAll_of_createIndex
  intro s hs
  obtain ⟨i, -, rfl⟩ := List.mem_map.1 (made s hs)
  exact ⟨_, _, _, _, rfl⟩

/-- Moving the rows and then adding indexes is a rebuild. -/
theorem rebuilds_of_moving {ds : List ColumnDefinition} {constraints : List TableConstraint}
    (names : ds.map (·.name) = d.survivors current) :
    d.Rebuilds current
      (moving d.table (d.survivors current) ds constraints ++
        ((ownIndexes current).filter fun i => ∀ c ∈ i.columns, c ∉ d.removed).map fun i =>
          .createIndex (i.kind == .unique) (i.resolvedName d.table) d.table i.columns) where
  statements := ⟨ds, constraints, names, rfl⟩
  rows := by
    intro α db stored there columns alone
    obtain ⟨covered, distinct⟩ := d.survivors_stored columns
    refine ⟨_, stored.surviving (d.survivors current) distinct, ?_, Function.update_self .., rfl,
      rfl, ?_, fun _ other => Function.update_of_ne other _ _⟩
    · rw [runAll_append, runAll_moving constraints there alone covered distinct names,
        Option.bind_some]
      exact runAll_createIndexes (fun _ hs => hs) _
    · rw [Function.update_of_ne (temporaryName_ne d.table), alone]
  safe := by
    intro α db stored there columns alone n
    obtain ⟨covered, distinct⟩ := d.survivors_stored columns
    obtain ⟨mid, run, copy⟩ := hasCopy_of_prefix constraints there alone covered distinct names n
    refine ⟨mid, ?_, copy⟩
    rw [List.take_append, runAll_append, run, Option.bind_some]
    exact runAll_createIndexes (fun _ hs => List.mem_of_mem_take hs) mid

/-- The statements of a rebuild have the columns that are copied in the new table exactly when none
of these is marked as a redefinition. -/
theorem rebuilds_iff_of_rebuildFrom {ss : List Statement} (same : current.table = d.table)
    (h : rebuildFrom d current = .ok ss) :
    d.Rebuilds current ss ↔ (d.target current).changedColumns = [] := by
  obtain ⟨-, created, compiled, rfl⟩ := rebuildFrom_eq_ok h
  obtain ⟨ds, constraints, names, rfl⟩ := create_eq_ok compiled
  have same : (d.target current).table = d.table := same
  constructor
  · intro rebuilds
    obtain ⟨ds', constraints', names', statements⟩ := rebuilds.statements
    have defined : ds = ds' := by
      simp only [rebuildStatements, moving, List.cons_append, List.cons.injEq,
        Statement.createTable.injEq] at statements
      exact statements.2.2.1.2.1
    have count : (d.target current).addedColumns.length = (d.target current).columns.length := by
      rw [← List.length_map (·.name), ← names, defined, names', ← names_target, List.length_map]
    exact addedColumns_eq_columns_iff.1 (List.filter_sublist.eq_of_length count)
  · intro unmarked
    have indexes : createIndex (d.target current) = fun i =>
        .createIndex (i.kind == .unique) (i.resolvedName d.table) d.table i.columns := by
      funext i
      rw [createIndex, same]
    rw [addedColumns_eq_columns_iff.2 unmarked, names_target] at names
    rw [rebuildStatements, ownIndexes_target, indexes, same]
    exact rebuilds_of_moving names

section

variable {σ : Type} {session : Session σ} {x x' : σ} {ss : List Statement}

/-- The rebuild of a diff that is made step by step preserves the surviving data. -/
theorem Made.rebuilds (made : d.Made) (sqlite : session.dialect = .sqlite)
    (h : (rebuild session d).result x = (.ok ss, x')) :
    ∃ current, (Catalog.table session d.table).result x = (.ok current, x') ∧
      d.Rebuilds current ss := by
  obtain ⟨current, read, rebuilt⟩ := exists_rebuildFrom h
  obtain ⟨same, plain⟩ := table_of_result sqlite read
  have unmarked := addedColumns_target plain made.change_eq_false
  exact ⟨current, read,
    (rebuilds_iff_of_rebuildFrom same rebuilt).2 (addedColumns_eq_columns_iff.1 unmarked)⟩

/-- So does the one rebuild of a blueprint. -/
theorem rebuilds_rebuildDiff {b : Blueprint} (sqlite : session.dialect = .sqlite)
    (h : (rebuild session (rebuildDiff b)).result x = (.ok ss, x')) :
    ∃ current, (Catalog.table session b.table).result x = (.ok current, x') ∧
      (rebuildDiff b).Rebuilds current ss := by
  rw [← rebuildDiff_table]
  exact (made_rebuildDiff b).rebuilds sqlite h

/-- A rebuild of a live table that compiles preserves the surviving data exactly when no column of
the new table is marked as a redefinition. The columns of the new table are those that are copied
out and back then, so that its rows come back, and the indexes on columns that stay are made
again. -/
theorem rebuilds_iff_of_result (sqlite : session.dialect = .sqlite)
    (h : (rebuild session d).result x = (.ok ss, x')) :
    ∃ current, (Catalog.table session d.table).result x = (.ok current, x') ∧
      (d.Rebuilds current ss ↔ (d.target current).changedColumns = []) := by
  obtain ⟨current, read, rebuilt⟩ := exists_rebuildFrom h
  exact ⟨current, read, rebuilds_iff_of_rebuildFrom (table_of_result sqlite read).1 rebuilt⟩

end

end TableDiff

/-- The catalog of books with an index on their author and title. -/
def booksSession : Session Unit :=
  let column (name type : String) : Row :=
    .ofPairs [("name", .text name), ("type", .text type), ("notnull", .integer 1),
      ("dflt_value", .null), ("pk", .integer 0)]
  let indexed (name : String) : Row := .ofPairs [("column_name", .text name)]
  .answering
    [(Query.columns .sqlite "main" "books",
        [column "id" "INTEGER", column "title" "TEXT", column "author" "INTEGER",
          column "shelf" "INTEGER"]),
      (Query.indexes .sqlite "main" "books",
        [.ofPairs [("name", .text "by_author"), ("unique", .integer 0), ("origin", .text "c")]]),
      (Query.indexColumns "by_author", [indexed "author", indexed "title"])]

/-- Books leave their shelves, and authors get larger numbers, after which a second definition
does not count. -/
def unshelving : TableDiff :=
  (({ table := "books" } : TableDiff).removing ["shelf", "shelf"]).changing
    [{ name := "author", type := .bigInteger, change := true },
      { name := "author", type := .string }]

/-- The authors and their index are kept, as nothing is marked any more. -/
theorem rebuilds_iff_of_result_unshelving :
    ∃ ss, (rebuild booksSession unshelving).result () = (.ok ss, ()) ∧ ss.length = 6 ∧
      ∃ current, (Catalog.table booksSession unshelving.table).result () = (.ok current, ()) ∧
        unshelving.Rebuilds current ss := by
  have six : ((rebuild booksSession unshelving).result ()).1.toOption.map List.length = some 6 := by
    decide +kernel
  obtain ⟨ss, compiled, length⟩ := DbM.exists_of_map_result six
  obtain ⟨current, read, rebuilds⟩ :=
    TableDiff.rebuilds_iff_of_result (rfl : booksSession.dialect = .sqlite) compiled
  have unmarked : ((Catalog.table booksSession unshelving.table).result ()).1.toOption.map
      (fun b => (unshelving.target b).changedColumns) = some [] := by decide +kernel
  rw [read] at unmarked
  exact ⟨ss, compiled, length, current, read, rebuilds.2 (Option.some_inj.1 unmarked)⟩

/-! ## What is not preserved -/

/-- A definition of authors that is marked as a redefinition, in a diff that was not made step by
step. -/
def marking : TableDiff :=
  { table := "books", changed := [{ name := "author", type := .bigInteger, change := true }] }

/-- The catalog of users whose addresses are unique, once by a constraint and once by an index. -/
def uniqueSession : Session Unit :=
  let unique (name origin : String) : Row :=
    .ofPairs [("name", .text name), ("unique", .integer 1), ("origin", .text origin)]
  let email : Row := .ofPairs [("column_name", .text "email")]
  .answering
    [(Query.columns .sqlite "main" "users",
        [.ofPairs [("name", .text "email"), ("type", .text "TEXT"), ("notnull", .integer 1),
            ("dflt_value", .null), ("pk", .integer 0)],
          .ofPairs [("name", .text "votes"), ("type", .text "INTEGER"), ("notnull", .integer 1),
            ("dflt_value", .null), ("pk", .integer 0)]]),
      (Query.indexes .sqlite "main" "users",
        [unique "users_email_unique" "c", unique "sqlite_autoindex_users_1" "u"]),
      (Query.indexColumns "users_email_unique", [email]),
      (Query.indexColumns "sqlite_autoindex_users_1", [email])]

/-- Its indexes, in the order of the catalog and of a blueprint. -/
def uniqueIndexes : List Index :=
  [{ kind := .unique, columns := ["email"], name := some "users_email_unique" },
    { kind := .unique, columns := ["email"] }]

/-- The users that it describes. The first index has the name that it gets without one. -/
def uniqueUsers : Blueprint :=
  { table := "users"
    columns := [{ name := "email", type := .text }, { name := "votes", type := .integer }]
    commands := [.create, .addIndex { kind := .unique, columns := ["email"] },
      .addIndex { kind := .unique, columns := ["email"] }] }

theorem table_uniqueSession :
    (Catalog.table uniqueSession "users").result () = (.ok uniqueUsers, ()) := by
  have columns : (Catalog.columns uniqueSession "users").result () =
      (.ok uniqueUsers.columns, ()) := by decide +kernel
  have indexes : (Catalog.indexes uniqueSession "users").result () = (.ok uniqueIndexes, ()) := by
    decide +kernel
  have sorted : Catalog.sortedIndexes "users" uniqueIndexes = uniqueIndexes :=
    List.mergeSort_of_pairwise (List.pairwise_pair.2 (by decide +kernel))
  have canonical : uniqueUsers =
      (Catalog.ofParts "users" uniqueUsers.columns uniqueIndexes []).canonical := by
    rw [Catalog.ofParts, sorted]
    decide +kernel
  rw [canonical, Catalog.table]
  exact DbM.result_bind_eq_ok_iff.2 ⟨_, (), columns,
    DbM.result_bind_eq_ok_iff.2 ⟨_, (), indexes, rfl⟩⟩

/-- Not every rebuild preserves the surviving data, and not every index is made again by one
statement: a definition that is marked is left out of the new table, though its column survives, and
an index that the table has twice is made twice. -/
theorem exists_not_rebuilds :
    (∃ ss current, (rebuild booksSession marking).result () = (.ok ss, ()) ∧
      (Catalog.table booksSession "books").result () = (.ok current, ()) ∧
      marking.survivors current = ["id", "title", "author", "shelf"] ∧
      ¬ marking.Rebuilds current ss) ∧
    ∃ ss, (rebuild uniqueSession { table := "users", removed := ["votes"] }).result () =
        (.ok ss, ()) ∧
      ss.count (.createIndex true "users_email_unique" "users" ["email"]) = 2 := by
  constructor
  · obtain ⟨ss, compiled, -⟩ := DbM.exists_of_map_result (f := List.length) (b := 6)
      (by decide +kernel : ((rebuild booksSession marking).result ()).1.toOption.map List.length =
        some 6)
    obtain ⟨current, read, rebuilt⟩ := exists_rebuildFrom compiled
    obtain ⟨same, -⟩ := table_of_result rfl read
    have marked : ((Catalog.table booksSession marking.table).result ()).1.toOption.map
        (fun b => (marking.survivors b, (marking.target b).changedColumns.isEmpty)) =
          some (["id", "title", "author", "shelf"], false) := by decide +kernel
    rw [read] at marked
    obtain ⟨survivors, filled⟩ := Prod.mk.inj (Option.some_inj.1 marked)
    refine ⟨ss, current, compiled, read, survivors, ?_⟩
    rw [TableDiff.rebuilds_iff_of_rebuildFrom same rebuilt, ← List.isEmpty_iff, filled]
    exact Bool.false_ne_true
  · refine ⟨_, DbM.result_bind_eq_ok_iff.2 ⟨uniqueUsers, (), table_uniqueSession, rfl⟩, ?_⟩
    decide +kernel

end SchemaShift
