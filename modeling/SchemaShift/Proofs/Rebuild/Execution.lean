import SchemaShift.Proofs.Rebuild.Shape

/-!
# Executing statements over a shape

What SQLite does with the statements that change one table, seen as a change of its shape. While a
table is rebuilt its rows stand in a temporary table, of which only the columns matter, and the
table itself is gone for a while, with its indexes.

Results:
* `executeAll_append`: statements put together are executed one run after the other.
* `executeAll_addColumns`: a run of added columns.
* `executeAll_rebuildStatements`: a rebuild reads the surviving columns and then leaves the new
  table, whatever stood there before.
* `executeAll_toggled`: the enforcement of foreign keys changes nothing.
-/

namespace SchemaShift

/-- A table, if it is there, and the columns of the temporary table that keeps its rows, if that
is there. -/
structure LiveTable where
  shape : Option Shape
  kept : Option (List String) := none
deriving DecidableEq

namespace LiveTable

/-- A table of a given shape, with no temporary table beside it. -/
def ofShape (s : Shape) : LiveTable := { shape := some s }

/-- Changes the table in place. -/
def alter (live : LiveTable) (f : Shape → Option Shape) : Option LiveTable :=
  (live.shape.bind f).map fun s => { live with shape := some s }

end LiveTable

namespace Sql

open Compile.Sqlite

/-! ## Statements -/

/-- What an alteration does to the shape of its table. -/
def Alteration.perform (s : Shape) : Alteration → Option Shape
  | addColumn d => some (s.addColumn d.name)
  | renameColumn source target => s.renameColumn source target
  | _ => none

/-- What a statement does to the table of a given name. Statements about other tables are out of
the question, and so is what the table does not have. -/
def Statement.perform (table : String) (live : LiveTable) : Statement → Option LiveTable
  | copyTable target columns source =>
    if target = temporaryName table ∧ source = table ∧
        ∃ s ∈ live.shape, ∀ c ∈ columns, c ∈ s.columns then
      some { live with kept := some columns }
    else none
  | insertFrom target columns source =>
    if target = table ∧ source = temporaryName table ∧
        (∃ s ∈ live.shape, ∀ c ∈ columns, c ∈ s.columns) ∧
          ∃ kept ∈ live.kept, ∀ c ∈ columns, c ∈ kept then some live
    else none
  | dropTable name _ =>
    if name = table ∧ live.shape.isSome then some { live with shape := none }
    else if name = temporaryName table ∧ live.kept.isSome then some { live with kept := none }
    else none
  | createTable name columns _ _ =>
    if name = table ∧ live.shape = none then
      some { live with shape := some ⟨(columns.map (·.name)).toFinset, ∅⟩ }
    else none
  | alterTable name alterations =>
    if name = table then live.alter fun s => alterations.foldlM (fun s a => a.perform s) s
    else none
  | createIndex _ name target columns =>
    if target = table then live.alter fun s => s.addIndex name columns else none
  | dropIndex name => live.alter fun s => s.dropIndex name
  | enforceForeignKeys _ => some live
  | renameTable _ _ => none

/-- What statements do to the table of a given name, one after the other. -/
def executeAll (table : String) (statements : List Statement) (live : LiveTable) :
    Option LiveTable :=
  statements.foldlM (fun live s => s.perform table live) live

/-! ## Runs of statements -/

theorem executeAll_nil (table : String) (live : LiveTable) :
    executeAll table [] live = some live := rfl

theorem executeAll_cons (table : String) (s : Statement) (ss : List Statement)
    (live : LiveTable) :
    executeAll table (s :: ss) live = (s.perform table live).bind (executeAll table ss) := rfl

theorem executeAll_append (table : String) (xs ys : List Statement) (live : LiveTable) :
    executeAll table (xs ++ ys) live =
      (executeAll table xs live).bind (executeAll table ys) := by
  rw [executeAll, List.foldlM_append]
  rfl

theorem executeAll_singleton (table : String) (s : Statement) (live : LiveTable) :
    executeAll table [s] live = s.perform table live := by
  rw [executeAll_cons]
  cases s.perform table live <;> rfl

theorem executeAll_toggled (table : String) (enforced : Bool) (statements : List Statement)
    (live : LiveTable) :
    executeAll table (toggled enforced statements) live = executeAll table statements live := by
  cases enforced with
  | false => rfl
  | true =>
    show executeAll table (.enforceForeignKeys false :: statements ++ [_]) live = _
    rw [List.cons_append, executeAll_cons]
    show executeAll table (statements ++ [.enforceForeignKeys true]) live = _
    rw [executeAll_append]
    cases executeAll table statements live <;> rfl

/-- Columns are added one by one. -/
theorem executeAll_addColumns (table : String) (ds : List ColumnDefinition) (s : Shape) :
    executeAll table (ds.map fun d => .alterTable table [.addColumn d]) (.ofShape s) =
      some (.ofShape (s.addColumns (ds.map (·.name)))) := by
  induction ds generalizing s with
  | nil => rfl
  | cons d ds ih =>
    have first : (Statement.alterTable table [.addColumn d]).perform table (.ofShape s) =
        some (.ofShape (s.addColumn d.name)) := by
      rw [Statement.perform, if_pos rfl]
      rfl
    rw [List.map_cons, executeAll_cons, first, Option.bind_some, ih]
    rfl

/-- Indexes on columns of the table are added one by one. -/
theorem executeAll_createIndexes (b : Blueprint) (is : List Index) (s : Shape)
    (h : ∀ i ∈ is, ∀ c ∈ i.columns, c ∈ s.columns) :
    executeAll b.table (is.map (createIndex b)) (.ofShape s) =
      some (.ofShape
        { s with
          indexes :=
            s.indexes ∪ (is.map fun i => (i.resolvedName b.table, i.columns)).toFinset }) := by
  induction is generalizing s with
  | nil => simp [executeAll_nil]
  | cons i is ih =>
    have first : (createIndex b i).perform b.table (.ofShape s) =
        some (.ofShape
          { s with indexes := insert (i.resolvedName b.table, i.columns) s.indexes }) := by
      rw [createIndex, Statement.perform, if_pos rfl, LiveTable.alter, LiveTable.ofShape]
      simp only [Option.bind_some, Shape.addIndex]
      rw [if_pos (h i (by simp))]
      rfl
    have others := ih { s with indexes := insert (i.resolvedName b.table, i.columns) s.indexes }
      fun j hj => h j (List.mem_cons_of_mem i hj)
    rw [List.map_cons, executeAll_cons, first, Option.bind_some, others]
    simp [Finset.insert_union]

/-! ## Rebuilding -/

theorem temporaryName_ne (table : String) : temporaryName table ≠ table := by
  intro h
  have lengths := congrArg String.length h
  rw [temporaryName, String.length_append] at lengths
  have : "__temp__".length = 8 := rfl
  omega

/-- A rebuild needs the surviving columns in the table it finds. It leaves the table it is told to
make, with the indexes that belong to it. -/
theorem executeAll_rebuildStatements {target : Blueprint} {survivors : List String}
    {ds : List ColumnDefinition} {constraints : List TableConstraint} {engine : Option String}
    (names : ds.map (·.name) = survivors)
    (covered : ∀ i ∈ ownIndexes target, ∀ c ∈ i.columns, c ∈ survivors) (s : Shape) :
    executeAll target.table
        (rebuildStatements target.table survivors target
          (.createTable target.table ds constraints engine)) (.ofShape s) =
      if ∀ c ∈ survivors, c ∈ s.columns then
        some (.ofShape
          { columns := survivors.toFinset
            indexes := ((ownIndexes target).map fun i =>
              (i.resolvedName target.table, i.columns)).toFinset })
      else none := by
  have other := temporaryName_ne target.table
  have copy : (Statement.copyTable (temporaryName target.table) survivors target.table).perform
      target.table (.ofShape s) =
        if ∀ c ∈ survivors, c ∈ s.columns then
          some { shape := some s, kept := some survivors }
        else none := by
    simp [Statement.perform, LiveTable.ofShape]
  rw [rebuildStatements, List.cons_append, executeAll_cons, copy]
  split
  · have drop : (Statement.dropTable target.table false).perform target.table
        { shape := some s, kept := some survivors } =
          some { shape := none, kept := some survivors } := by
      simp [Statement.perform]
    have create : (Statement.createTable target.table ds constraints engine).perform target.table
        { shape := none, kept := some survivors } =
          some { shape := some ⟨survivors.toFinset, ∅⟩, kept := some survivors } := by
      simp [Statement.perform, names]
    have insert : (Statement.insertFrom target.table survivors (temporaryName target.table)).perform
        target.table { shape := some ⟨survivors.toFinset, ∅⟩, kept := some survivors } =
          some { shape := some ⟨survivors.toFinset, ∅⟩, kept := some survivors } := by
      simp [Statement.perform]
    have forget : (Statement.dropTable (temporaryName target.table) false).perform target.table
        { shape := some ⟨survivors.toFinset, ∅⟩, kept := some survivors } =
          some (.ofShape ⟨survivors.toFinset, ∅⟩) := by
      simp [Statement.perform, other, LiveTable.ofShape]
    simp only [List.cons_append, executeAll_cons, Option.bind_some, drop, create, insert, forget,
      List.nil_append]
    rw [executeAll_createIndexes target _ _ (by simpa using covered)]
    simp
  · rfl

end Sql

end SchemaShift
