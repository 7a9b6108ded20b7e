import SchemaShift.Proofs.Blueprint.KeptKeys
import SchemaShift.Proofs.Rebuild.Agreement

/-!
# What is declared

What a blueprint declares stands in the statements that it compiles to. New columns are defined
where the table is made or altered, redefined ones where it is altered or rebuilt, and keys are
clauses of the table, alterations or indexes of their own.

Results:
* `exists_compiled`: the statements of each command are among those of a blueprint.
* `exists_created`: a rebuild makes the table with its new definitions.
* `exists_defines`, `redefines_changed`, `exists_refers`, `exists_indexes`: columns, keys and
  indexes are declared.
* `declares_toSql`: nothing that is declared is lost.
-/

namespace SchemaShift

open Sql

namespace Sql

/-! ## Clauses -/

namespace Statement

/-- The columns with which a statement makes a table. -/
def madeColumns (table : String) : Statement → List ColumnDefinition
  | createTable made columns _ _ => if made = table then columns else []
  | _ => []

/-- The constraints with which a statement makes a table. -/
def madeConstraints (table : String) : Statement → List TableConstraint
  | createTable made _ constraints _ => if made = table then constraints else []
  | _ => []

/-- What a statement alters about a table. -/
def alterations (table : String) : Statement → List Alteration
  | alterTable altered alterations => if altered = table then alterations else []
  | _ => []

theorem madeColumns_createTable (table : String) (columns : List ColumnDefinition)
    (constraints : List TableConstraint) (engine : Option String) :
    (createTable table columns constraints engine).madeColumns table = columns := if_pos rfl

theorem madeConstraints_createTable (table : String) (columns : List ColumnDefinition)
    (constraints : List TableConstraint) (engine : Option String) :
    (createTable table columns constraints engine).madeConstraints table = constraints :=
  if_pos rfl

theorem alterations_alterTable (table : String) (as : List Alteration) :
    (alterTable table as).alterations table = as := if_pos rfl

/-- A statement defines a new column. -/
def Defines (table : String) (d : ColumnDefinition) (s : Statement) : Prop :=
  d ∈ s.madeColumns table ∨ .addColumn d ∈ s.alterations table

/-- A statement declares a foreign key. -/
def Refers (table : String) (fk : ForeignKey) (s : Statement) : Prop :=
  .foreignKey fk ∈ s.madeConstraints table ∨
    .addForeignKey (fk.resolvedName table) fk ∈ s.alterations table

/-- A statement declares an index. -/
def Indexes (table : String) (i : Index) (s : Statement) : Prop :=
  match i.kind with
  | .primary =>
    .primaryKey i.columns ∈ s.madeConstraints table ∨
      .addPrimaryKey i.columns ∈ s.alterations table
  | .unique =>
    .addUnique (i.resolvedName table) i.columns ∈ s.alterations table ∨
      s = createIndex true (i.resolvedName table) table i.columns
  | .index =>
    .addIndex (i.resolvedName table) i.columns ∈ s.alterations table ∨
      s = createIndex false (i.resolvedName table) table i.columns

instance (table : String) (d : ColumnDefinition) (s : Statement) :
    Decidable (s.Defines table d) := inferInstanceAs (Decidable (_ ∨ _))

end Statement

/-- Statements redefine a column: in one clause on MySQL, where the table is made anew on SQLite,
and clause by clause on PostgreSQL, where the values of an enum are a clause of their own. -/
def Redefines (d : Dialect) (table : String) (c : Column) (ss : List Statement) : Prop :=
  match d with
  | .mySql => ∃ s ∈ ss, .modifyColumn (definition .mySql c) ∈ s.alterations table
  | .postgres =>
    (∃ s ∈ ss, .setType c.name (postgresType c) ∈ s.alterations table ∧
      .setNullability c.name c.nullable ∈ s.alterations table ∧
      Compile.Postgres.defaultChange c ∈ s.alterations table) ∧
    (c.type = .enum →
      ∃ s ∈ ss, .addValueCheck (Compile.Postgres.checkName table c.name) c.name c.allowed ∈
        s.alterations table)
  | .sqlite => ∃ s ∈ ss, definition .sqlite c ∈ s.madeColumns table

instance (d : Dialect) (table : String) (c : Column) (ss : List Statement) :
    Decidable (Redefines d table c ss) :=
  match d with
  | .mySql => inferInstanceAs (Decidable (∃ s ∈ ss, _))
  | .postgres => inferInstanceAs (Decidable (_ ∧ _))
  | .sqlite => inferInstanceAs (Decidable (∃ s ∈ ss, _))

theorem Redefines.mono {d : Dialect} {table : String} {c : Column} {ss ts : List Statement}
    (h : Redefines d table c ss) (sub : ss ⊆ ts) : Redefines d table c ts := by
  cases d with
  | mySql | sqlite =>
    obtain ⟨s, hs, clause⟩ := h
    exact ⟨s, sub hs, clause⟩
  | postgres =>
    obtain ⟨⟨s, hs, clauses⟩, check⟩ := h
    refine ⟨⟨s, sub hs, clauses⟩, ?_⟩
    intro enum
    obtain ⟨s', hs', clause⟩ := check enum
    exact ⟨s', sub hs', clause⟩

end Sql

namespace Blueprint

/-! ## What is declared -/

/-- Whether a changed column is redefined: for a new table nothing is, unless a command asks for
it. Where one rebuild covers everything, dropped columns are gone, and the first definition of a
column counts. -/
def Retypes (d : Dialect) (b : Blueprint) (c : Column) : Prop :=
  match d with
  | .mySql | .postgres => b.creating = false ∨ .change ∈ b.commands
  | .sqlite =>
    b.creating = false ∧ c.name ∉ b.droppedColumns ∧
      b.changedColumns.find? (·.name == c.name) = some c

/-- Every column is defined or redefined. -/
def DeclaresColumns (d : Dialect) (b : Blueprint) (ss : List Statement) : Prop :=
  ∀ c ∈ b.columns, (∃ s ∈ ss, s.Defines b.table (definition d c)) ∨ Redefines d b.table c ss

instance (d : Dialect) (b : Blueprint) (ss : List Statement) :
    Decidable (b.DeclaresColumns d ss) := inferInstanceAs (Decidable (∀ c ∈ b.columns, _ ∨ _))

/-- An index is the primary key of the column that counts up, whose definition says so. -/
def Increments (b : Blueprint) (i : Index) (ss : List Statement) : Prop :=
  i.kind = .primary ∧ ∃ c, b.autoIncrement? = some c ∧ i.columns = [c.name] ∧
    (definition .sqlite c).isPrimary = true ∧
    (c.change = false → ∃ s ∈ ss, s.Defines b.table (definition .sqlite c))

/-- Statements for which nothing is lost that a blueprint declares. -/
structure Declares (d : Dialect) (b : Blueprint) (ss : List Statement) : Prop where
  added : ∀ c ∈ b.columns, c.change = false → ∃ s ∈ ss, s.Defines b.table (definition d c)
  changed : ∀ c ∈ b.columns, c.change = true → b.Retypes d c → Redefines d b.table c ss
  roles : ∀ c ∈ b.columns, ∀ role, c.foreign = some role →
    (c.change = false ∨ d = .sqlite ∧ b.Retypes d c) →
      ∃ s ∈ ss, s.Refers b.table (role.toKey c.name)
  foreignKeys : ∀ fk, .addForeign fk ∈ b.commands → ∃ s ∈ ss, s.Refers b.table fk
  indexes : ∀ i, .addIndex i ∈ b.commands →
    (∃ s ∈ ss, s.Indexes b.table i) ∨ d = .sqlite ∧ b.Increments i ss

variable {σ : Type} {session : Session σ} {b : Blueprint} {x x' : σ} {ss : List Statement}

/-! ## Commands -/

/-- The statements of a command, whenever it is compiled. -/
def Compiles (session : Session σ) (b : Blueprint) (c : Command) (part : List Statement) : Prop :=
  ∃ x x', (b.compile session c).result x = (.ok part, x')

/-- The statements of each command are among those of a blueprint. -/
theorem exists_compiled {cs : List Command}
    (h : (b.compileAll session cs).result x = (.ok ss, x')) {c : Command} (hc : c ∈ cs) :
    ∃ part, b.Compiles session c part ∧ part ⊆ ss := by
  induction cs generalizing x ss with
  | nil => cases hc
  | cons c' cs ih =>
    obtain ⟨first, x₁, compiled, h⟩ := DbM.result_bind_eq_ok_iff.1 h
    obtain ⟨others, x₂, rest, h⟩ := DbM.result_bind_eq_ok_iff.1 h
    obtain ⟨rfl, rfl⟩ := DbM.result_pure_eq_ok_iff.1 h
    rcases List.mem_cons.1 hc with rfl | later
    · exact ⟨first, ⟨x, x₁, compiled⟩, List.subset_append_left _ _⟩
    · obtain ⟨part, compiled', sub⟩ := ih rest later
      exact ⟨part, compiled', List.subset_append_of_subset_right _ sub⟩

/-- The command that makes a table defines its new columns. -/
theorem defines_of_create {part : List Statement} (h : b.Compiles session .create part)
    {c : Column} (hc : c ∈ b.addedColumns) :
    ∃ s ∈ part, definition session.dialect c ∈ s.madeColumns b.table := by
  obtain ⟨x, x', h⟩ := h
  have mem : definition session.dialect c ∈ b.addedColumns.map (definition session.dialect) :=
    List.mem_map_of_mem hc
  unfold Blueprint.compile at h
  cases dialect : session.dialect with
  | mySql | postgres =>
    rw [dialect] at h mem
    obtain ⟨h, -⟩ := DbM.result_ofExcept_eq_ok_iff.1 h
    obtain ⟨ds, defined, rfl⟩ := Except.exists_of_map_eq_ok h
    rw [eq_of_defineAll defined]
    refine ⟨_, List.mem_singleton.2 rfl, ?_⟩
    rw [Statement.madeColumns_createTable]
    exact mem
  | sqlite =>
    rw [dialect] at h mem
    obtain ⟨h, -⟩ := DbM.result_ofExcept_eq_ok_iff.1 h
    obtain ⟨created, made, rfl⟩ := Except.exists_of_map_eq_ok h
    refine ⟨_, List.mem_singleton.2 rfl, ?_⟩
    rw [eq_of_create made, Statement.madeColumns_createTable]
    exact mem

/-- The command that adds columns defines them. -/
theorem defines_of_add {part : List Statement} (h : b.Compiles session .add part)
    {c : Column} (hc : c ∈ b.addedColumns) :
    ∃ s ∈ part, .addColumn (definition session.dialect c) ∈ s.alterations b.table := by
  obtain ⟨x, x', h⟩ := h
  have mem : definition session.dialect c ∈ b.addedColumns.map (definition session.dialect) :=
    List.mem_map_of_mem hc
  unfold Blueprint.compile at h
  cases dialect : session.dialect with
  | mySql | postgres =>
    rw [dialect] at h mem
    obtain ⟨h, -⟩ := DbM.result_ofExcept_eq_ok_iff.1 h
    obtain ⟨ds, defined, rfl⟩ := Except.exists_of_map_eq_ok h
    rw [eq_of_defineAll defined]
    refine ⟨_, List.mem_singleton.2 rfl, ?_⟩
    rw [Statement.alterations_alterTable]
    exact List.mem_map_of_mem mem
  | sqlite =>
    rw [dialect] at h mem
    obtain ⟨h, -⟩ := DbM.result_ofExcept_eq_ok_iff.1 h
    obtain ⟨ds, defined, rfl⟩ := Except.exists_of_map_eq_ok h
    rw [eq_of_defineAll defined]
    refine ⟨_, List.mem_map_of_mem mem, ?_⟩
    rw [Statement.alterations_alterTable]
    exact List.mem_singleton.2 rfl

/-- The command that makes a table declares its foreign keys on SQLite. -/
theorem refers_of_create {part : List Statement} (sqlite : session.dialect = .sqlite)
    (h : b.Compiles session .create part) {fk : ForeignKey}
    (hfk : .addForeign fk ∈ b.compiledCommands) : ∃ s ∈ part, s.Refers b.table fk := by
  obtain ⟨x, x', h⟩ := h
  unfold Blueprint.compile at h
  rw [sqlite] at h
  obtain ⟨h, -⟩ := DbM.result_ofExcept_eq_ok_iff.1 h
  obtain ⟨created, made, rfl⟩ := Except.exists_of_map_eq_ok h
  refine ⟨_, List.mem_singleton.2 rfl, .inl ?_⟩
  rw [eq_of_create made, Statement.madeConstraints_createTable]
  exact List.mem_filterMap.2 ⟨_, hfk, rfl⟩

/-- The command that makes a table declares its primary key on SQLite, unless the column that counts
up stands for it. -/
theorem indexes_of_create {part : List Statement} (sqlite : session.dialect = .sqlite)
    (h : b.Compiles session .create part) {i : Index} (hi : .addIndex i ∈ b.compiledCommands)
    (primary : i.kind = .primary) (explicit : Compile.Sqlite.isImplied b i = false) :
    ∃ s ∈ part, s.Indexes b.table i := by
  obtain ⟨x, x', h⟩ := h
  unfold Blueprint.compile at h
  rw [sqlite] at h
  obtain ⟨h, -⟩ := DbM.result_ofExcept_eq_ok_iff.1 h
  obtain ⟨created, made, rfl⟩ := Except.exists_of_map_eq_ok h
  refine ⟨_, List.mem_singleton.2 rfl, ?_⟩
  rw [Statement.Indexes, primary, eq_of_create made, Statement.madeConstraints_createTable]
  refine .inl (List.mem_filterMap.2 ⟨_, hi, ?_⟩)
  rw [Compile.Sqlite.constraint?, if_pos ⟨primary, explicit⟩]

/-- The primary key that is left out of a new table is that of the column that counts up. -/
theorem exists_of_isImplied {i : Index} (implied : Compile.Sqlite.isImplied b i = true) :
    ∃ c ∈ b.columns, b.autoIncrement? = some c ∧ i.columns = [c.name] ∧
      (definition .sqlite c).isPrimary = true := by
  unfold Compile.Sqlite.isImplied at implied
  split at implied
  · rename_i column increment only found
    have counts : increment.autoIncrement = true := List.find?_some found
    refine ⟨increment, List.mem_of_find?_eq_some found, found, ?_, ?_⟩
    · rw [only, beq_iff_eq.1 implied]
    · rw [isPrimary_definition, counts]
  · cases implied

/-- The command that adds a foreign key declares it, or on SQLite the table is new. -/
theorem refers_of_addForeign {part : List Statement} {fk : ForeignKey}
    (h : b.Compiles session (.addForeign fk) part) :
    (∃ s ∈ part, s.Refers b.table fk) ∨ session.dialect = .sqlite ∧ b.creating = true := by
  obtain ⟨x, x', h⟩ := h
  unfold Blueprint.compile at h
  cases dialect : session.dialect with
  | mySql | postgres =>
    rw [dialect] at h
    obtain ⟨⟨⟩, -⟩ := DbM.result_ofExcept_eq_ok_iff.1 h
    refine .inl ⟨_, List.mem_singleton.2 rfl, .inr ?_⟩
    rw [Statement.alterations_alterTable]
    exact List.mem_singleton.2 rfl
  | sqlite =>
    rw [dialect] at h
    by_cases creates : b.creating = true
    · exact .inr ⟨rfl, creates⟩
    · dsimp only [Compile.Sqlite.compile] at h
      rw [if_neg creates] at h
      cases h

/-- The command that adds an index declares it, or on SQLite it is the primary key of a new
table. -/
theorem indexes_of_addIndex {part : List Statement} {i : Index}
    (h : b.Compiles session (.addIndex i) part) :
    (∃ s ∈ part, s.Indexes b.table i) ∨
      session.dialect = .sqlite ∧ i.kind = .primary ∧ b.creating = true := by
  obtain ⟨x, x', h⟩ := h
  unfold Blueprint.compile at h
  cases dialect : session.dialect with
  | mySql =>
    rw [dialect] at h
    obtain ⟨⟨⟩, -⟩ := DbM.result_ofExcept_eq_ok_iff.1 h
    refine .inl ⟨_, List.mem_singleton.2 rfl, ?_⟩
    rw [Statement.Indexes, Statement.alterations_alterTable]
    unfold Compile.MySql.addIndex
    cases i.kind with
    | primary => exact .inr (List.mem_singleton.2 rfl)
    | unique | index => exact .inl (List.mem_singleton.2 rfl)
  | postgres =>
    rw [dialect] at h
    obtain ⟨⟨⟩, -⟩ := DbM.result_ofExcept_eq_ok_iff.1 h
    left
    unfold Statement.Indexes Compile.Postgres.addIndex
    cases i.kind with
    | primary =>
      refine ⟨_, List.mem_singleton.2 rfl, .inr ?_⟩
      rw [Statement.alterations_alterTable]
      exact List.mem_singleton.2 rfl
    | unique =>
      refine ⟨_, List.mem_singleton.2 rfl, .inl ?_⟩
      rw [Statement.alterations_alterTable]
      exact List.mem_singleton.2 rfl
    | index => exact ⟨_, List.mem_singleton.2 rfl, .inr rfl⟩
  | sqlite =>
    rw [dialect] at h
    dsimp only [Compile.Sqlite.compile] at h
    unfold Compile.Sqlite.addIndex at h
    by_cases primary : i.kind = .primary
    · rw [if_pos primary] at h
      by_cases creates : b.creating = true
      · exact .inr ⟨rfl, primary, creates⟩
      · rw [if_neg creates] at h
        cases h
    · rw [if_neg primary] at h
      obtain ⟨rfl, -⟩ := DbM.result_pure_eq_ok_iff.1 h
      refine .inl ⟨_, List.mem_singleton.2 rfl, ?_⟩
      unfold Statement.Indexes Compile.Sqlite.createIndex
      cases kind : i.kind with
      | primary => exact absurd kind primary
      | unique | index => exact .inr rfl

/-! ## Redefined columns -/

/-- The command that changes columns redefines them on MySQL and on PostgreSQL. -/
theorem redefines_of_change {part : List Statement} (inPlace : session.dialect ≠ .sqlite)
    (h : b.Compiles session .change part) {c : Column} (hc : c ∈ b.changedColumns) :
    Redefines session.dialect b.table c part := by
  obtain ⟨x, x', h⟩ := h
  unfold Blueprint.compile at h
  cases dialect : session.dialect with
  | mySql =>
    rw [dialect] at h
    obtain ⟨h, -⟩ := DbM.result_ofExcept_eq_ok_iff.1 h
    obtain ⟨ds, defined, rfl⟩ := Except.exists_of_map_eq_ok h
    rw [eq_of_defineAll defined]
    refine ⟨_, List.mem_singleton.2 rfl, ?_⟩
    rw [Statement.alterations_alterTable]
    exact List.mem_map_of_mem (List.mem_map_of_mem hc)
  | postgres =>
    rw [dialect] at h
    obtain ⟨⟨⟩, -⟩ := DbM.result_ofExcept_eq_ok_iff.1 h
    have clauses : ∀ a ∈ Compile.Postgres.change b.table c,
        a ∈ b.changedColumns.flatMap (Compile.Postgres.change b.table) :=
      fun a ha => List.mem_flatMap.2 ⟨c, hc, ha⟩
    refine ⟨⟨_, List.mem_append_left _ (List.mem_singleton.2 rfl), ?_⟩, ?_⟩
    · rw [Statement.alterations_alterTable]
      exact ⟨clauses _ (by simp [Compile.Postgres.change]),
        clauses _ (by simp [Compile.Postgres.change]),
        clauses _ (by simp [Compile.Postgres.change])⟩
    · intro enum
      have check : .addValueCheck (Compile.Postgres.checkName b.table c.name) c.name c.allowed ∈
          b.changedColumns.filterMap (Compile.Postgres.check? b.table) :=
        List.mem_filterMap.2 ⟨c, hc, by rw [Compile.Postgres.check?, if_pos enum]⟩
      have some : (b.changedColumns.filterMap (Compile.Postgres.check? b.table)).isEmpty = false :=
        List.isEmpty_eq_false_iff_exists_mem.2 ⟨_, check⟩
      refine ⟨.alterTable b.table (b.changedColumns.filterMap (Compile.Postgres.check? b.table)),
        List.mem_append_right _ ?_, ?_⟩
      · rw [some]
        exact List.mem_singleton.2 rfl
      · rw [Statement.alterations_alterTable]
        exact check
  | sqlite => exact absurd dialect inPlace

/-- A rebuild makes the table from the description of the live one, which has what the blueprint
redefines. -/
theorem exists_created (sqlite : session.dialect = .sqlite)
    (redefining : Compile.Sqlite.redefines b = true) {part : List Statement}
    (h : b.Compiles session .change part) :
    ∃ current created, Compile.Sqlite.create ((Compile.Sqlite.rebuildDiff b).target current) =
        .ok created ∧ created ∈ part ∧ current.table = b.table ∧
      ∀ name ∈ (Compile.Sqlite.rebuildDiff b).names, (current.column? name).isSome := by
  obtain ⟨x, x', h⟩ := h
  unfold Blueprint.compile at h
  rw [sqlite] at h
  dsimp only [Compile.Sqlite.compile] at h
  unfold Compile.Sqlite.compileRebuild at h
  dsimp only at h
  have filled : ¬ (Compile.Sqlite.rebuildDiff b).isEmpty = true := by
    intro empty
    rw [((isEmpty_rebuildDiff b).1 empty).1] at redefining
    cases redefining
  rw [if_neg filled] at h
  obtain ⟨statements, x₁, rebuilt, h⟩ := DbM.result_bind_eq_ok_iff.1 h
  obtain ⟨current, read, compiled⟩ := exists_rebuildFrom rebuilt
  obtain ⟨known, created, made, rfl⟩ := rebuildFrom_eq_ok compiled
  have table : current.table = b.table :=
    (table_of_result sqlite read).1.trans (Compile.Sqlite.rebuildDiff_table b)
  refine ⟨current, created, made, ?_, table, known⟩
  have mem : created ∈ Compile.Sqlite.rebuildStatements (Compile.Sqlite.rebuildDiff b).table
      ((Compile.Sqlite.rebuildDiff b).survivors current)
      ((Compile.Sqlite.rebuildDiff b).target current) created := by
    simp [Compile.Sqlite.rebuildStatements]
  split at h
  · obtain ⟨rfl, -⟩ := DbM.result_pure_eq_ok_iff.1 h
    exact mem
  · obtain ⟨enforced, rfl⟩ := withoutForeignKeys_eq_ok h
    unfold Compile.Sqlite.toggled
    split
    · exact List.mem_append_left _ (List.mem_cons_of_mem _ mem)
    · exact mem

theorem changed_rebuildDiff_of_redefines (redefining : Compile.Sqlite.redefines b = true) :
    (Compile.Sqlite.rebuildDiff b).changed =
      b.changedColumns.map fun c => { c with change := false } := by
  unfold Compile.Sqlite.rebuildDiff
  dsimp only
  rw [if_pos redefining]
  rfl

theorem redefines_of_retypes {c : Column} (hc : c ∈ b.changedColumns)
    (retypes : b.Retypes .sqlite c) : Compile.Sqlite.redefines b = true := by
  have some : b.changedColumns.isEmpty = false :=
    List.isEmpty_eq_false_iff_exists_mem.2 ⟨c, hc⟩
  rw [Compile.Sqlite.redefines, retypes.1, some]
  rfl

/-- The new table has the new definition of a column. -/
theorem mem_addedColumns_target {c : Column} (hc : c ∈ b.changedColumns)
    (retypes : b.Retypes .sqlite c) {current : Blueprint}
    (known : ∀ name ∈ (Compile.Sqlite.rebuildDiff b).names, (current.column? name).isSome) :
    { c with change := false } ∈
      ((Compile.Sqlite.rebuildDiff b).target current).addedColumns := by
  have redefining := redefines_of_retypes hc retypes
  obtain ⟨-, stays, first⟩ := retypes
  have changed := changed_rebuildDiff_of_redefines redefining
  have named : c.name ∈ (Compile.Sqlite.rebuildDiff b).names := by
    rw [TableDiff.names, changed, List.map_map]
    exact List.mem_append_right _ (List.mem_map_of_mem hc)
  obtain ⟨old, found⟩ := Option.isSome_iff_exists.1 (known c.name named)
  have same : old.name = c.name := by simpa using List.find?_some found
  have redefined : (Compile.Sqlite.rebuildDiff b).redefined old = { c with change := false } := by
    rw [TableDiff.redefined, changed, List.find?_map, same]
    show ((b.changedColumns.find? (·.name == c.name)).map _).getD old = _
    rw [first]
    rfl
  refine List.mem_filter.2 ⟨TableDiff.mem_columns_target_iff.2 ⟨old, ?_, ?_, redefined⟩, rfl⟩
  · exact List.mem_of_find?_eq_some found
  · rw [removed_rebuildDiff, same]
    exact stays

/-- A rebuild makes the table with new definitions, and with the foreign keys of their roles. -/
theorem makes_of_change (sqlite : session.dialect = .sqlite) {part : List Statement}
    (h : b.Compiles session .change part) {c : Column} (hc : c ∈ b.changedColumns)
    (retypes : b.Retypes .sqlite c) :
    (∃ s ∈ part, definition .sqlite c ∈ s.madeColumns b.table) ∧
      ∀ role, c.foreign = some role → ∃ s ∈ part, s.Refers b.table (role.toKey c.name) := by
  obtain ⟨current, created, made, mem, table, known⟩ :=
    exists_created sqlite (redefines_of_retypes hc retypes) h
  have defined := mem_addedColumns_target hc retypes known
  have statement := eq_of_create made
  rw [show ((Compile.Sqlite.rebuildDiff b).target current).table = b.table from table]
    at statement
  refine ⟨⟨created, mem, ?_⟩, ?_⟩
  · rw [statement, Statement.madeColumns_createTable]
    exact List.mem_map.2 ⟨_, defined, rfl⟩
  · intro role hrole
    refine ⟨created, mem, .inl ?_⟩
    rw [statement, Statement.madeConstraints_createTable]
    refine List.mem_filterMap.2 ⟨.addForeign (role.toKey c.name), ?_, rfl⟩
    refine addForeign_mem_compiledCommands_iff.2 (.inr (mem_impliedForeignKeys_iff.2 ?_))
    exact ⟨_, (List.mem_filter.1 defined).1, rfl, role, hrole, rfl⟩

/-! ## Blueprints -/

theorem mem_compiledCommands_of_mem {c : Command} (h : c ∈ b.commands) :
    c ∈ b.compiledCommands := List.mem_append_left _ (List.mem_append_right _ h)

theorem change_mem_compiledCommands {c : Column} (hc : c ∈ b.changedColumns)
    (existing : b.creating = false) : .change ∈ b.compiledCommands := by
  have some : b.changedColumns.isEmpty = false :=
    List.isEmpty_eq_false_iff_exists_mem.2 ⟨c, hc⟩
  refine List.mem_append_left _ (List.mem_append_left _ ?_)
  rw [impliedLeading, existing, some]
  exact List.mem_append_left _ (List.mem_singleton.2 rfl)

theorem add_mem_compiledCommands {c : Column} (hc : c ∈ b.addedColumns)
    (existing : b.creating = false) : .add ∈ b.compiledCommands := by
  have some : b.addedColumns.isEmpty = false :=
    List.isEmpty_eq_false_iff_exists_mem.2 ⟨c, hc⟩
  refine List.mem_append_left _ (List.mem_append_left _ ?_)
  rw [impliedLeading, existing, some]
  exact List.mem_append_right _ (List.mem_singleton.2 rfl)

section CompiledCommands

variable (h : (b.compileAll session b.compiledCommands).result x = (.ok ss, x'))

include h

/-- A new column is defined where the table is made, or else where columns are added. -/
theorem exists_defines {c : Column} (hc : c ∈ b.columns) (new : c.change = false) :
    ∃ s ∈ ss, s.Defines b.table (definition session.dialect c) := by
  have mem : c ∈ b.addedColumns := List.mem_filter.2 ⟨hc, by rw [new]; rfl⟩
  cases creates : b.creating with
  | true =>
    obtain ⟨part, made, sub⟩ :=
      exists_compiled h (mem_compiledCommands_of_mem (creating_iff.1 creates))
    obtain ⟨s, hs, clause⟩ := defines_of_create made mem
    exact ⟨s, sub hs, .inl clause⟩
  | false =>
    obtain ⟨part, added, sub⟩ := exists_compiled h (add_mem_compiledCommands mem creates)
    obtain ⟨s, hs, clause⟩ := defines_of_add added mem
    exact ⟨s, sub hs, .inr clause⟩

/-- A foreign key is declared by its own command, or else where the table is made. -/
theorem exists_refers {fk : ForeignKey} (hfk : .addForeign fk ∈ b.compiledCommands) :
    ∃ s ∈ ss, s.Refers b.table fk := by
  obtain ⟨part, added, sub⟩ := exists_compiled h hfk
  rcases refers_of_addForeign added with ⟨s, hs, clause⟩ | ⟨sqlite, creates⟩
  · exact ⟨s, sub hs, clause⟩
  · obtain ⟨part, made, sub⟩ :=
      exists_compiled h (mem_compiledCommands_of_mem (creating_iff.1 creates))
    obtain ⟨s, hs, clause⟩ := refers_of_create sqlite made hfk
    exact ⟨s, sub hs, clause⟩

theorem exists_refers_of_role {c : Column} (hc : c ∈ b.columns) (new : c.change = false)
    {role : ForeignRole} (hrole : c.foreign = some role) :
    ∃ s ∈ ss, s.Refers b.table (role.toKey c.name) :=
  exists_refers h <| addForeign_mem_compiledCommands_iff.2 <| .inr <|
    mem_impliedForeignKeys_iff.2 ⟨c, hc, new, role, hrole, rfl⟩

/-- A rebuild makes the table with the new definition of a changed column, and with the foreign key
of its role. -/
theorem makes_changed (sqlite : session.dialect = .sqlite) {c : Column}
    (hc : c ∈ b.changedColumns) (retypes : b.Retypes .sqlite c) :
    (∃ s ∈ ss, definition .sqlite c ∈ s.madeColumns b.table) ∧
      ∀ role, c.foreign = some role → ∃ s ∈ ss, s.Refers b.table (role.toKey c.name) := by
  obtain ⟨part, rebuilt, sub⟩ := exists_compiled h (change_mem_compiledCommands hc retypes.1)
  obtain ⟨⟨s, hs, defined⟩, roles⟩ := makes_of_change sqlite rebuilt hc retypes
  refine ⟨⟨s, sub hs, defined⟩, ?_⟩
  intro role hrole
  obtain ⟨s, hs, clause⟩ := roles role hrole
  exact ⟨s, sub hs, clause⟩

/-- A changed column is redefined. -/
theorem redefines_changed {c : Column} (hc : c ∈ b.changedColumns)
    (retypes : b.Retypes session.dialect c) : Redefines session.dialect b.table c ss := by
  -- in place it takes a command to change columns, which the blueprint implies or has
  have inPlace (asked : b.creating = false ∨ .change ∈ b.commands)
      (live : session.dialect ≠ .sqlite) : Redefines session.dialect b.table c ss := by
    have mem : .change ∈ b.compiledCommands :=
      asked.elim (change_mem_compiledCommands hc) mem_compiledCommands_of_mem
    obtain ⟨part, changed, sub⟩ := exists_compiled h mem
    exact (redefines_of_change live changed hc).mono sub
  cases dialect : session.dialect with
  | mySql | postgres =>
    rw [dialect] at retypes inPlace
    exact inPlace retypes nofun
  | sqlite =>
    rw [dialect] at retypes
    exact (makes_changed h dialect hc retypes).1

/-- An index is declared by its own command, or else where the table is made, or by the column that
counts up. -/
theorem exists_indexes {i : Index} (hi : .addIndex i ∈ b.compiledCommands) :
    (∃ s ∈ ss, s.Indexes b.table i) ∨ session.dialect = .sqlite ∧ b.Increments i ss := by
  obtain ⟨part, added, sub⟩ := exists_compiled h hi
  rcases indexes_of_addIndex added with ⟨s, hs, clause⟩ | ⟨sqlite, primary, creates⟩
  · exact .inl ⟨s, sub hs, clause⟩
  · cases implied : Compile.Sqlite.isImplied b i with
    | true =>
      obtain ⟨c, hc, first, only, counts⟩ := exists_of_isImplied implied
      exact .inr ⟨sqlite, primary, c, first, only, counts,
        fun new => sqlite ▸ exists_defines h hc new⟩
    | false =>
      obtain ⟨part, made, sub⟩ :=
        exists_compiled h (mem_compiledCommands_of_mem (creating_iff.1 creates))
      obtain ⟨s, hs, clause⟩ := indexes_of_create sqlite made hi primary implied
      exact .inl ⟨s, sub hs, clause⟩

end CompiledCommands

/-- Nothing is lost that a blueprint declares. -/
theorem declares_statements (h : (b.statements session).result x = (.ok ss, x')) :
    b.Declares session.dialect ss := by
  obtain ⟨_, x₁, -, h⟩ := DbM.result_bind_eq_ok_iff.1 h
  refine
    { added := fun c hc new => exists_defines h hc new
      changed := fun c hc change retypes =>
        redefines_changed h (List.mem_filter.2 ⟨hc, change⟩) retypes
      roles := ?_
      foreignKeys := fun fk hfk => exists_refers h (mem_compiledCommands_of_mem hfk)
      indexes := fun i hi => exists_indexes h (mem_compiledCommands_of_mem hi) }
  rintro c hc role hrole (new | ⟨sqlite, retypes⟩)
  · exact exists_refers_of_role h hc new hrole
  · cases change : c.change with
    | true =>
      rw [sqlite] at retypes
      exact (makes_changed h sqlite (List.mem_filter.2 ⟨hc, change⟩) retypes).2 role hrole
    | false => exact exists_refers_of_role h hc change hrole

/-- The SQL of a blueprint is the text of statements that declare what the blueprint declares. -/
theorem declares_toSql {sqls : List String} (h : (b.toSql session).result x = (.ok sqls, x')) :
    ∃ ss, (b.statements session).result x = (.ok ss, x') ∧
      sqls = ss.map (·.render session.dialect) ∧ b.Declares session.dialect ss := by
  obtain ⟨ss, compiled, rfl⟩ := toSql_eq_ok_iff.1 h
  exact ⟨ss, compiled, rfl, declares_statements compiled⟩

/-- Votes refer to ballots, and users get an address of their own. -/
def balloting : Blueprint :=
  { table := "users"
    columns :=
      [{ name := "votes", type := .bigInteger, change := true,
          foreign := some { table := "ballots", column := "id" } },
        { name := "email", type := .string }]
    commands := [.addIndex { kind := .unique, columns := ["email"] }] }

/-- The votes, their ballots, the address and its index are all declared. -/
theorem declares_toSql_balloting :
    ∃ sqls ss, (balloting.toSql usersSession).result () = (.ok sqls, ()) ∧
      sqls = ss.map (·.render .sqlite) ∧ balloting.Declares .sqlite ss := by
  obtain ⟨ss, compiled⟩ := exists_statements (b := balloting) (by decide +kernel)
  have written : (balloting.toSql usersSession).result () =
      (.ok (ss.map (·.render .sqlite)), ()) := toSql_eq_ok_iff.2 ⟨ss, compiled, rfl⟩
  obtain ⟨ss', -, same, declares⟩ := declares_toSql written
  exact ⟨_, ss', written, same, declares⟩

/-! ## What is not declared -/

theorem exists_undeclared {session : Session Unit} {b : Blueprint}
    (h : ((b.statements session).result ()).1.toOption.map
      (fun ss => decide (b.DeclaresColumns session.dialect ss)) = some false) :
    ∃ ss, (b.statements session).result () = (.ok ss, ()) ∧
      ¬ b.DeclaresColumns session.dialect ss := by
  obtain ⟨ss, compiled, undeclared⟩ := DbM.exists_of_map_result h
  exact ⟨ss, compiled, of_decide_eq_false undeclared⟩

/-- A new table with a column that is to be redefined. -/
def redefining : Blueprint :=
  { table := "posts"
    columns :=
      [{ name := "body", type := .text }, { name := "title", type := .string, change := true }]
    commands := [.create] }

/-- Votes are redefined and dropped. -/
def dropping : Blueprint :=
  { table := "users"
    columns := [{ name := "votes", type := .bigInteger, change := true }]
    commands := [.dropColumns ["votes"]] }

/-- Votes are redefined twice. -/
def wavering : Blueprint :=
  { table := "users"
    columns :=
      [{ name := "votes", type := .bigInteger, change := true },
        { name := "votes", type := .decimal, change := true }] }

/-- Not every column is declared: for a new table nothing is redefined, and on SQLite neither is a
column that is dropped, nor one a second time. -/
theorem exists_not_declaresColumns :
    (∃ ss, (redefining.statements { usersSession with dialect := .mySql }).result () =
        (.ok ss, ()) ∧ ¬ redefining.DeclaresColumns .mySql ss) ∧
      (∃ ss, (dropping.statements usersSession).result () = (.ok ss, ()) ∧
        ¬ dropping.DeclaresColumns .sqlite ss) ∧
      ∃ ss, (wavering.statements usersSession).result () = (.ok ss, ()) ∧
        ¬ wavering.DeclaresColumns .sqlite ss :=
  ⟨exists_undeclared (by decide +kernel), exists_undeclared (by decide +kernel),
    exists_undeclared (by decide +kernel)⟩

end Blueprint

end SchemaShift
