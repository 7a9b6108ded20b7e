import SchemaShift.Proofs.Blueprint.KeptKeys
import SchemaShift.Proofs.Rebuild.Shape
import SchemaShift.Proofs.Except
import SchemaShift.Compile.Alike

/-!
# The table that is rebuilt

A rebuild starts from what the catalog of its session reports. The statements it consists of are
compiled while nothing is executed, so the session is asked in states that queries do not leave.

Results:
* `table_of_result`: a table read from the catalog has the name asked for, and only new columns.
* `rebuild_eq_ok`: what a rebuild consists of.
* `shape_target`: the new table is what is left of the old one without the removed columns.
* `Made.change_eq_false`: no definition that a diff is given is marked as a redefinition.
-/

namespace SchemaShift

open Compile.Sqlite

/-! ## Columns of the catalog -/

theorem TypeSpec.change_give (spec : TypeSpec) (type : ColumnType) (c : Column) :
    (spec.give type c).change = c.change := by
  unfold give
  split <;> rfl

namespace Catalog.Sqlite

theorem change_readDefault (c : Column) (text : String) :
    (readDefault c text).change = c.change := by
  unfold readDefault
  dsimp only
  repeat' split
  all_goals rfl

theorem change_typed? {name physical : String} {hint : ColumnHint} {c : Column}
    (h : typed? name physical hint = some c) : c.change = false := by
  unfold typed? at h
  dsimp only at h
  split at h
  · obtain ⟨type, -, rfl⟩ := Option.map_eq_some_iff.1 h
    rw [TypeSpec.change_give]
  · obtain ⟨spec, -, applied⟩ := Option.bind_eq_some_iff.1 h
    obtain ⟨type, -, rfl⟩ := Option.map_eq_some_iff.1 applied
    rw [TypeSpec.change_give]

/-- No column of the catalog redefines another one. -/
theorem change_column {table : String} {hints : ColumnHints} {row : Row} {c : Column}
    (h : column table hints row = .ok c) : c.change = false := by
  unfold column at h
  dsimp only at h
  split at h
  · cases h
  · rename_i typed typing
    have plain := change_typed? typing
    split at h
    · cases h
      exact plain
    · split at h
      · cases h
        exact plain
      · cases h
        rw [change_readDefault]
        exact plain

theorem change_columns {table : String} {hints : ColumnHints} {rows : List Row}
    {cs : List Column} (h : rows.mapM (column table hints) = .ok cs) :
    ∀ c ∈ cs, c.change = false :=
  Except.forall_of_mapM_eq_ok (fun _ _ read => change_column read) h

end Catalog.Sqlite

/-! ## Canonical form -/

namespace Blueprint

theorem change_giveRole {name : String} {role : ForeignRole} {columns given : List Column}
    (h : giveRole name role columns = some given) :
    given.map (·.change) = columns.map (·.change) := by
  induction columns generalizing given with
  | nil => cases h
  | cons c cs ih =>
    rw [giveRole] at h
    split at h
    · cases h
      rfl
    · obtain ⟨rest, hrest, rfl⟩ := Option.map_eq_some_iff.1 h
      rw [List.map_cons, List.map_cons, ih hrest]

theorem change_step (s : Surroundings) (columns : List Column) (c : Command) :
    (s.step columns c).1.map (·.change) = columns.map (·.change) := by
  cases c with
  | addForeign fk =>
    unfold Surroundings.step
    dsimp only
    split
    · rename_i given h
      obtain ⟨⟨column, role⟩, -, hgiven⟩ := Option.bind_eq_some_iff.1 h
      exact change_giveRole hgiven
    · rfl
  | _ => rfl

theorem change_steps (s : Surroundings) (columns : List Column) (cs : List Command) :
    (s.steps columns cs).1.map (·.change) = columns.map (·.change) := by
  induction cs generalizing columns with
  | nil => rfl
  | cons c cs ih =>
    show (s.steps (s.step columns c).1 cs).1.map (·.change) = _
    rw [ih, change_step]

/-- The canonical form redefines a column where the blueprint does. -/
theorem change_canonical (b : Blueprint) :
    b.canonical.columns.map (·.change) = b.columns.map (·.change) := change_steps _ _ _

theorem change_of_mem_canonical {b : Blueprint} (h : ∀ c ∈ b.columns, c.change = false) :
    ∀ c ∈ b.canonical.columns, c.change = false := by
  intro c hc
  have marked : c.change ∈ b.columns.map (·.change) := by
    rw [← change_canonical]
    exact List.mem_map_of_mem hc
  obtain ⟨old, hold, same⟩ := List.mem_map.1 marked
  rw [← same]
  exact h old hold

end Blueprint

/-- Columns that can be defined have the definitions that they are to have. -/
theorem Sql.eq_of_defineAll {d : Dialect} {cs : List Column} {ds : List ColumnDefinition}
    (h : defineAll d cs = .ok ds) : ds = cs.map (definition d) := by
  induction cs generalizing ds with
  | nil =>
    cases h
    rfl
  | cons c cs ih =>
    rw [defineAll] at h
    split at h
    · cases h
    · rename_i first defined
      obtain ⟨-, rfl⟩ := define_eq_ok_iff.1 defined
      obtain ⟨ds', others, rfl⟩ := Except.exists_of_map_eq_ok h
      rw [List.map_cons, ih others]

theorem Sql.map_name_defineAll {d : Dialect} {cs : List Column} {ds : List ColumnDefinition}
    (h : defineAll d cs = .ok ds) : ds.map (·.name) = cs.map (·.name) := by
  rw [eq_of_defineAll h, List.map_map]
  rfl

/-! ## Reading the table -/

section

variable {σ : Type} {session : Session σ} {x x' : σ} {current : Blueprint}

/-- A table read from the catalog of SQLite has the name asked for and redefines nothing. -/
theorem table_of_result {name : String} (sqlite : session.dialect = .sqlite)
    (h : (Catalog.table session name).result x = (.ok current, x')) :
    current.table = name ∧ ∀ c ∈ current.columns, c.change = false := by
  unfold Catalog.table at h
  obtain ⟨columns, x₁, read, h⟩ := DbM.result_bind_eq_ok_iff.1 h
  split at h
  · cases h
  · obtain ⟨indexes, x₂, -, h⟩ := DbM.result_bind_eq_ok_iff.1 h
    obtain ⟨keys, x₃, -, h⟩ := DbM.result_bind_eq_ok_iff.1 h
    obtain ⟨rfl, -⟩ := DbM.result_pure_eq_ok_iff.1 h
    refine ⟨rfl, Blueprint.change_of_mem_canonical ?_⟩
    unfold Catalog.columns at read
    rw [sqlite] at read
    obtain ⟨hints, x₄, -, read⟩ := DbM.result_bind_eq_ok_iff.1 read
    obtain ⟨rows, x₅, -, read⟩ := DbM.result_bind_eq_ok_iff.1 read
    exact Catalog.Sqlite.change_columns (DbM.result_ofExcept_eq_ok_iff.1 read).1

/-- A new table has the definitions of its columns, and the keys that belong to its definition. -/
theorem eq_of_create {b : Blueprint} {created : Sql.Statement} (h : create b = .ok created) :
    created = .createTable b.table (b.addedColumns.map (Sql.definition .sqlite))
      (b.compiledCommands.filterMap (constraint? b)) none := by
  obtain ⟨ds, defined, rfl⟩ := Except.exists_of_map_eq_ok h
  rw [Sql.eq_of_defineAll defined]

theorem create_eq_ok {b : Blueprint} {created : Sql.Statement} (h : create b = .ok created) :
    ∃ ds constraints, ds.map (·.name) = b.addedColumns.map (·.name) ∧
      created = .createTable b.table ds constraints none := by
  refine ⟨_, _, ?_, eq_of_create h⟩
  rw [List.map_map]
  rfl

/-- A rebuild from a description that has what the diff names. -/
theorem rebuildFrom_eq_ok {d : TableDiff} {ss : List Sql.Statement}
    (h : rebuildFrom d current = .ok ss) :
    (∀ name ∈ d.names, (current.column? name).isSome) ∧
      ∃ created, create (d.target current) = .ok created ∧
        ss = rebuildStatements d.table (d.survivors current) (d.target current) created := by
  unfold rebuildFrom at h
  obtain ⟨target, applied, h⟩ := Except.bind_eq_ok_iff.1 h
  obtain ⟨created, made, h⟩ := Except.bind_eq_ok_iff.1 h
  obtain ⟨known, rfl⟩ := TableDiff.apply_eq_ok_iff.1 applied
  exact ⟨known, created, made, (Except.ok.inj h).symm⟩

/-- A rebuild is made from the description of the live table. -/
theorem exists_rebuildFrom {d : TableDiff} {ss : List Sql.Statement}
    (h : (rebuild session d).result x = (.ok ss, x')) :
    ∃ current, (Catalog.table session d.table).result x = (.ok current, x') ∧
      rebuildFrom d current = .ok ss := by
  obtain ⟨current, x₁, read, h⟩ := DbM.result_bind_eq_ok_iff.1 h
  obtain ⟨compiled, rfl⟩ := DbM.result_ofExcept_eq_ok_iff.1 h
  exact ⟨current, read, compiled⟩

theorem rebuild_eq_ok {d : TableDiff} {ss : List Sql.Statement}
    (h : (rebuild session d).result x = (.ok ss, x')) :
    ∃ current created, (Catalog.table session d.table).result x = (.ok current, x') ∧
      create (d.target current) = .ok created ∧
      ss = rebuildStatements d.table (d.survivors current) (d.target current) created := by
  obtain ⟨current, read, compiled⟩ := exists_rebuildFrom h
  obtain ⟨-, created, made, same⟩ := rebuildFrom_eq_ok compiled
  exact ⟨current, created, read, made, same⟩

end

/-! ## Shapes -/

namespace Blueprint

/-- The shape of the table that a blueprint describes. -/
def shape (b : Blueprint) : Shape :=
  { columns := (b.columns.map (·.name)).toFinset
    indexes := ((ownIndexes b).map fun i => (i.resolvedName b.table, i.columns)).toFinset }

theorem mem_columns_shape {b : Blueprint} {name : String} :
    name ∈ b.shape.columns ↔ ∃ c ∈ b.columns, c.name = name := by
  simp [shape]

theorem mem_ownIndexes_iff {b : Blueprint} {i : Index} :
    i ∈ ownIndexes b ↔ .addIndex i ∈ b.commands ∧ i.kind ≠ .primary := by
  rw [ownIndexes, List.mem_filter, mem_indexes_iff]
  simp

theorem mem_indexes_shape {b : Blueprint} {entry : String × List String} :
    entry ∈ b.shape.indexes ↔
      ∃ i ∈ ownIndexes b, (i.resolvedName b.table, i.columns) = entry := by
  simp [shape]

end Blueprint

namespace TableDiff

variable {d : TableDiff} {current : Blueprint}

theorem mem_survivors_iff {name : String} :
    name ∈ d.survivors current ↔ name ∈ (current.shape.without d.removed).columns := by
  rw [Shape.mem_columns_without, Blueprint.mem_columns_shape]
  simp only [survivors, keeps, List.mem_map, List.mem_filter, List.contains_eq_mem,
    Bool.not_eq_true', decide_eq_false_iff_not]
  constructor
  · rintro ⟨c, ⟨hc, stays⟩, rfl⟩
    exact ⟨⟨c, hc, rfl⟩, stays⟩
  · rintro ⟨⟨c, hc, rfl⟩, stays⟩
    exact ⟨c, ⟨hc, stays⟩, rfl⟩

theorem mem_ownIndexes_target_iff {i : Index} :
    i ∈ ownIndexes (d.target current) ↔
      i ∈ ownIndexes current ∧ ∀ c ∈ i.columns, c ∉ d.removed := by
  rw [Blueprint.mem_ownIndexes_iff, Blueprint.mem_ownIndexes_iff]
  simp only [target, List.mem_cons, reduceCtorEq, List.mem_filter, keepsCommand, false_or,
    Bool.not_eq_true', List.any_eq_false, List.contains_eq_mem, decide_eq_true_eq]
  constructor
  · rintro ⟨⟨mem, apart⟩, kind⟩
    exact ⟨⟨mem, kind⟩, apart⟩
  · rintro ⟨⟨mem, kind⟩, apart⟩
    exact ⟨⟨mem, apart⟩, kind⟩

/-- The new table is what is left of the old one without the removed columns. -/
theorem shape_target : (d.target current).shape = current.shape.without d.removed := by
  apply Shape.ext_mem
  · intro name
    rw [← mem_survivors_iff, ← names_target, Blueprint.shape, List.mem_toFinset]
  · intro entry
    rw [Shape.mem_indexes_without, Blueprint.mem_indexes_shape, Blueprint.mem_indexes_shape]
    constructor
    · rintro ⟨i, hi, rfl⟩
      obtain ⟨own, apart⟩ := mem_ownIndexes_target_iff.1 hi
      exact ⟨⟨i, own, rfl⟩, apart⟩
    · rintro ⟨⟨i, own, rfl⟩, apart⟩
      exact ⟨i, mem_ownIndexes_target_iff.2 ⟨own, apart⟩, rfl⟩

/-- The diffs of a table that are made step by step: nothing is to change at first, and then columns
are removed and redefined. -/
inductive Made : TableDiff → Prop
  | unchanged (table : String) : Made { table }
  | removing {d : TableDiff} (made : d.Made) (columns : List String) : Made (d.removing columns)
  | changing {d : TableDiff} (made : d.Made) (columns : List Column) : Made (d.changing columns)

/-- No definition that a diff is given is marked as a redefinition. -/
theorem Made.change_eq_false {d : TableDiff} (made : d.Made) :
    ∀ c ∈ d.changed, c.change = false := by
  induction made with
  | unchanged table => exact fun _ hc => nomatch hc
  | removing _ columns ih => exact ih
  | changing _ columns ih =>
    intro c hc
    rcases List.mem_append.1 hc with earlier | new
    · exact ih c earlier
    · obtain ⟨given, -, rfl⟩ := List.mem_map.1 new
      rfl

/-- The one diff of a blueprint is among them. -/
theorem made_rebuildDiff (b : Blueprint) : (rebuildDiff b).Made := by
  unfold rebuildDiff
  dsimp only
  split
  · exact .removing (.changing (.unchanged _) _) _
  · exact .removing (.unchanged _) _

/-- The new table has only new columns if neither side of the diff redefines any. -/
theorem addedColumns_target (new : ∀ c ∈ current.columns, c.change = false)
    (redefined : ∀ c ∈ d.changed, c.change = false) :
    (d.target current).addedColumns = (d.target current).columns := by
  rw [Blueprint.addedColumns, List.filter_eq_self]
  intro c hc
  obtain ⟨old, hold, -, rfl⟩ := mem_columns_target_iff.1 hc
  rcases d.redefined_mem_or_eq old with defined | ⟨same, -⟩
  · rw [redefined _ defined]
    rfl
  · rw [same, new old hold]
    rfl

end TableDiff

end SchemaShift
