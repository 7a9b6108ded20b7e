import Mathlib.Algebra.GroupWithZero.Nat
import SchemaShift.Proofs.Blueprint.Declared

/-!
# How often a primary key is declared

A column that counts up is the primary key, and its definition says so. A command that adds a
primary key declares one as well: by an alteration of its own on MySQL and on PostgreSQL, and in the
definition of the new table on SQLite, where the key on the column that counts up is left out. A
rebuild declares the keys of the table that it makes.

Results:
* `Sql.primaryKeys`: how often statements declare a primary key.
* `exists_primaryKeys_compile`: how often those of a command do.
* `exists_primaryKeys_compileAll`: the statements of a blueprint declare what its commands declare.
* `keysOfAll_compiledCommands`: a new table has the keys of its new columns and those of its own.
* `primaryKeys_toSql_iff`: they are too many exactly when a new column counts up and the table has
  a key of its own.
-/

namespace SchemaShift

open Sql

namespace Sql

/-! ## Declarations -/

/-- Whether a constraint of a new table is a primary key. -/
def TableConstraint.isPrimary : TableConstraint → Bool
  | primaryKey _ => true
  | foreignKey _ => false

/-- Whether an alteration declares a primary key, by itself or with a column. -/
def Alteration.isPrimary : Alteration → Bool
  | addColumn d | modifyColumn d => d.isPrimary
  | addPrimaryKey _ => true
  | _ => false

/-- How often a statement declares a primary key. -/
def Statement.primaryKeys : Statement → Nat
  | createTable _ columns constraints _ =>
    columns.countP (·.isPrimary) + constraints.countP (·.isPrimary)
  | alterTable _ alterations => alterations.countP (·.isPrimary)
  | copyTable .. | insertFrom .. | dropTable .. | renameTable .. | createIndex .. | dropIndex _
  | enforceForeignKeys _ => 0

/-- How often statements declare a primary key. -/
def primaryKeys (ss : List Statement) : Nat := (ss.map Statement.primaryKeys).sum

theorem primaryKeys_append (ss ts : List Statement) :
    primaryKeys (ss ++ ts) = primaryKeys ss + primaryKeys ts := by
  rw [primaryKeys, List.map_append, List.sum_append, primaryKeys, primaryKeys]

theorem primaryKeys_singleton (s : Statement) : primaryKeys [s] = s.primaryKeys := by
  simp [primaryKeys]

/-- The definitions of columns declare a primary key for each that counts up. -/
theorem countP_isPrimary (d : Dialect) (cs : List Column) :
    (cs.map (definition d)).countP (·.isPrimary) = cs.countP (·.autoIncrement) := by
  rw [List.countP_map]
  exact List.countP_congr fun c _ => by simp [isPrimary_definition]

end Sql

namespace Blueprint

open Compile.Sqlite (isImplied constraint? rebuildDiff)

variable {σ : Type} {session : Session σ} {b : Blueprint} {x x' : σ} {ss : List Statement}

/-! ## What commands declare -/

/-- Whether a command declares a primary key of its own. On SQLite the key on the column that counts
up is left to that column. -/
def ownsKey (d : Dialect) (b : Blueprint) : Command → Bool
  | .addIndex i => i.kind == .primary && !(d == .sqlite && isImplied b i)
  | _ => false

/-- How often the new columns of a blueprint declare a primary key. -/
def incrementKeys (b : Blueprint) : Nat := b.addedColumns.countP (·.autoIncrement)

/-- How often the commands of a blueprint declare a primary key of their own. -/
def ownKeys (d : Dialect) (b : Blueprint) : Nat := b.commands.countP (b.ownsKey d)

/-- How often the statements of a command declare a primary key, apart from rebuilds. -/
def keysOf (d : Dialect) (b : Blueprint) (c : Command) : Nat :=
  match c with
  | .create => b.incrementKeys + if d = .sqlite then b.ownKeys d else 0
  | .add => b.incrementKeys
  | .change => if d = .mySql then b.changedColumns.countP (·.autoIncrement) else 0
  | .addIndex _ => if d ≠ .sqlite ∧ b.ownsKey d c = true then 1 else 0
  | _ => 0

/-- How often the commands of a blueprint together declare a primary key, apart from rebuilds. -/
def keysOfAll (d : Dialect) (b : Blueprint) (cs : List Command) : Nat := (cs.map (b.keysOf d)).sum

/-- Blueprints of tables that rebuilds make anew. -/
def Rebuilds (session : Session σ) (b : Blueprint) (rebuilt : List Blueprint) : Prop :=
  ∀ r ∈ rebuilt, session.dialect = .sqlite ∧ (rebuildDiff b).isEmpty = false ∧
    ∃ current, r = (rebuildDiff b).target current

/-- How often tables declare a primary key that are made anew. -/
def keysMade (rebuilt : List Blueprint) : Nat :=
  (rebuilt.map fun r => r.keysOf .sqlite .create).sum

theorem Rebuilds.append {rs ts : List Blueprint} (h : b.Rebuilds session rs)
    (h' : b.Rebuilds session ts) : b.Rebuilds session (rs ++ ts) := by
  intro r hr
  rcases List.mem_append.1 hr with hr | hr
  · exact h r hr
  · exact h' r hr

/-- What the columns imply does not own a key. -/
theorem countP_compiledCommands (d : Dialect) (b : Blueprint) :
    b.compiledCommands.countP (b.ownsKey d) = b.ownKeys d := by
  have leading : b.impliedLeading.countP (b.ownsKey d) = 0 := by
    unfold impliedLeading
    split
    · rfl
    · split <;> split <;> rfl
  have foreign : (b.impliedForeignKeys.map .addForeign).countP (b.ownsKey d) = 0 := by
    rw [List.countP_map, List.countP_eq_zero]
    intro fk _
    exact Bool.false_ne_true
  rw [compiledCommands, List.countP_append, List.countP_append, leading, foreign, ownKeys]
  omega

/-- The constraints of a new table on SQLite are the keys that its commands own. -/
theorem countP_constraint? (b : Blueprint) :
    (b.compiledCommands.filterMap (constraint? b)).countP (·.isPrimary) = b.ownKeys .sqlite := by
  rw [List.countP_filterMap, ← countP_compiledCommands]
  refine List.countP_congr fun c _ => ?_
  cases c with
  | addIndex i =>
    by_cases owns : i.kind = .primary ∧ isImplied b i = false
    · simp [constraint?, ownsKey, owns, TableConstraint.isPrimary]
    · simp [constraint?, ownsKey, owns]
  | addForeign fk => simp [constraint?, ownsKey, TableConstraint.isPrimary]
  | _ => simp [constraint?, ownsKey]

theorem primaryKeys_create {created : Statement} (h : Compile.Sqlite.create b = .ok created) :
    created.primaryKeys = b.keysOf .sqlite .create := by
  rw [eq_of_create h, Statement.primaryKeys, countP_isPrimary, countP_constraint?, keysOf,
    if_pos rfl, incrementKeys]

/-- A rebuild declares the keys of the table that it makes. -/
theorem primaryKeys_rebuildStatements (table : String) (survivors : List String)
    (target : Blueprint) (created : Statement) :
    primaryKeys (Compile.Sqlite.rebuildStatements table survivors target created) =
      created.primaryKeys := by
  have own : ∀ is : List Index,
      primaryKeys (is.map (Compile.Sqlite.createIndex target)) = 0 := by
    intro is
    induction is with
    | nil => rfl
    | cons i is ih => exact (Nat.zero_add _).trans ih
  rw [Compile.Sqlite.rebuildStatements, primaryKeys_append, own]
  simp [primaryKeys, Statement.primaryKeys]

theorem primaryKeys_toggled (enforced : Bool) (ss : List Statement) :
    primaryKeys (Compile.Sqlite.toggled enforced ss) = primaryKeys ss := by
  cases enforced with
  | false => rfl
  | true =>
    show primaryKeys ([.enforceForeignKeys false] ++ ss ++ [.enforceForeignKeys true]) = _
    rw [primaryKeys_append, primaryKeys_append, primaryKeys_singleton, primaryKeys_singleton]
    simp [Statement.primaryKeys]

/-- The one rebuild of a blueprint makes a table, or there is nothing to rebuild. -/
theorem exists_primaryKeys_compileRebuild (sqlite : session.dialect = .sqlite)
    (h : (Compile.Sqlite.compileRebuild session b).result x = (.ok ss, x')) :
    ∃ rebuilt, b.Rebuilds session rebuilt ∧ primaryKeys ss = keysMade rebuilt := by
  unfold Compile.Sqlite.compileRebuild at h
  dsimp only at h
  cases filled : (rebuildDiff b).isEmpty with
  | true =>
    rw [if_pos filled] at h
    obtain ⟨rfl, -⟩ := DbM.result_pure_eq_ok_iff.1 h
    exact ⟨[], List.forall_mem_nil _, rfl⟩
  | false =>
    rw [if_neg (by simp [filled])] at h
    obtain ⟨statements, x₁, rebuilt, h⟩ := DbM.result_bind_eq_ok_iff.1 h
    obtain ⟨current, created, -, made, rfl⟩ := rebuild_eq_ok rebuilt
    have keys : keysMade [(rebuildDiff b).target current] = created.primaryKeys := by
      rw [primaryKeys_create made, keysMade]
      simp
    refine ⟨[(rebuildDiff b).target current], ?_, ?_⟩
    · intro r hr
      exact ⟨sqlite, filled, current, List.mem_singleton.1 hr⟩
    · split at h
      · obtain ⟨rfl, -⟩ := DbM.result_pure_eq_ok_iff.1 h
        rw [keys, primaryKeys_rebuildStatements]
      · obtain ⟨enforced, rfl⟩ := withoutForeignKeys_eq_ok h
        rw [keys, primaryKeys_toggled, primaryKeys_rebuildStatements]

/-! ## Commands -/

/-- How often the statements of a command declare a primary key on MySQL. -/
theorem primaryKeys_compile_mySql {c : Command} {part : List Statement}
    (h : Compile.MySql.compile b c = .ok part) : primaryKeys part = b.keysOf .mySql c := by
  cases c with
  | create =>
    obtain ⟨ds, defined, rfl⟩ := Except.exists_of_map_eq_ok h
    rw [eq_of_defineAll defined, primaryKeys_singleton, Statement.primaryKeys, countP_isPrimary]
    rfl
  | add =>
    obtain ⟨ds, defined, rfl⟩ := Except.exists_of_map_eq_ok h
    rw [eq_of_defineAll defined, Compile.MySql.alter, primaryKeys_singleton,
      Statement.primaryKeys, List.countP_map]
    exact countP_isPrimary .mySql b.addedColumns
  | change =>
    obtain ⟨ds, defined, rfl⟩ := Except.exists_of_map_eq_ok h
    rw [eq_of_defineAll defined, Compile.MySql.alter, primaryKeys_singleton,
      Statement.primaryKeys, List.countP_map]
    exact countP_isPrimary .mySql b.changedColumns
  | addIndex i =>
    cases h
    obtain ⟨kind, columns, name⟩ := i
    cases kind <;> rfl
  | dropColumns columns =>
    cases h
    rw [Compile.MySql.alter, primaryKeys_singleton, Statement.primaryKeys, List.countP_map]
    exact List.countP_eq_zero.2 fun _ _ => Bool.false_ne_true
  | drop | dropIfExists | rename | renameColumn | addForeign | dropPrimary | dropUnique | dropIndex
  | dropForeign =>
    cases h
    rfl

/-- Redefining columns clause by clause declares no primary key. -/
theorem primaryKeys_changes (b : Blueprint) : primaryKeys (Compile.Postgres.changes b) = 0 := by
  have redefined : ∀ a ∈ b.changedColumns.flatMap (Compile.Postgres.change b.table),
      ¬ a.isPrimary = true := by
    intro a ha
    obtain ⟨c, -, clause⟩ := List.mem_flatMap.1 ha
    simp only [Compile.Postgres.change, List.mem_cons, List.not_mem_nil, or_false] at clause
    rcases clause with rfl | rfl | rfl | rfl
    · exact Bool.false_ne_true
    · exact Bool.false_ne_true
    · unfold Compile.Postgres.defaultChange
      split <;> exact Bool.false_ne_true
    · exact Bool.false_ne_true
  have checked : ∀ a ∈ b.changedColumns.filterMap (Compile.Postgres.check? b.table),
      ¬ a.isPrimary = true := by
    intro a ha
    obtain ⟨c, -, clause⟩ := List.mem_filterMap.1 ha
    unfold Compile.Postgres.check? at clause
    split at clause
    · cases clause
      exact Bool.false_ne_true
    · cases clause
  rw [Compile.Postgres.changes, Compile.Postgres.alter, primaryKeys_append, primaryKeys_singleton,
    Statement.primaryKeys, List.countP_eq_zero.2 redefined]
  split
  · rfl
  · rw [Compile.Postgres.alter, primaryKeys_singleton, Statement.primaryKeys,
      List.countP_eq_zero.2 checked]

/-- How often the statements of a command declare a primary key on PostgreSQL. -/
theorem primaryKeys_compile_postgres {c : Command} {part : List Statement}
    (h : Compile.Postgres.compile b c = .ok part) : primaryKeys part = b.keysOf .postgres c := by
  cases c with
  | create =>
    obtain ⟨ds, defined, rfl⟩ := Except.exists_of_map_eq_ok h
    rw [eq_of_defineAll defined, primaryKeys_singleton, Statement.primaryKeys, countP_isPrimary]
    rfl
  | add =>
    obtain ⟨ds, defined, rfl⟩ := Except.exists_of_map_eq_ok h
    rw [eq_of_defineAll defined, Compile.Postgres.alter, primaryKeys_singleton,
      Statement.primaryKeys, List.countP_map]
    exact countP_isPrimary .postgres b.addedColumns
  | change =>
    cases h
    exact primaryKeys_changes b
  | addIndex i =>
    cases h
    obtain ⟨kind, columns, name⟩ := i
    cases kind <;> rfl
  | dropColumns columns =>
    cases h
    rw [Compile.Postgres.alter, primaryKeys_singleton, Statement.primaryKeys, List.countP_map]
    exact List.countP_eq_zero.2 fun _ _ => Bool.false_ne_true
  | drop | dropIfExists | rename | renameColumn | addForeign | dropPrimary | dropUnique | dropIndex
  | dropForeign =>
    cases h
    rfl

/-- Columns that are added one by one declare a primary key for each that counts up. -/
theorem primaryKeys_added (table : String) (ds : List ColumnDefinition) :
    primaryKeys (ds.map fun d => .alterTable table [.addColumn d]) = ds.countP (·.isPrimary) := by
  induction ds with
  | nil => rfl
  | cons d ds ih =>
    rw [List.map_cons, ← List.singleton_append, primaryKeys_append, ih, primaryKeys_singleton,
      List.countP_cons, Nat.add_comm]
    simp [Statement.primaryKeys, Alteration.isPrimary, List.countP_cons]

/-- How often the statements of a command declare a primary key on SQLite, apart from what a rebuild
declares. -/
theorem exists_primaryKeys_compile_sqlite (sqlite : session.dialect = .sqlite) {c : Command}
    (h : (Compile.Sqlite.compile session b c).result x = (.ok ss, x')) :
    ∃ rebuilt, b.Rebuilds session rebuilt ∧
      primaryKeys ss = b.keysOf .sqlite c + keysMade rebuilt := by
  -- nothing is rebuilt but where columns are changed or dropped
  have alone {n : Nat} (keys : primaryKeys ss = n) :
      ∃ rebuilt, b.Rebuilds session rebuilt ∧ primaryKeys ss = n + keysMade rebuilt :=
    ⟨[], List.forall_mem_nil _, keys⟩
  have rebuilds (h : (Compile.Sqlite.compileRebuild session b).result x = (.ok ss, x')) :
      ∃ rebuilt, b.Rebuilds session rebuilt ∧ primaryKeys ss = 0 + keysMade rebuilt := by
    simpa only [Nat.zero_add] using exists_primaryKeys_compileRebuild sqlite h
  cases c with
  | create =>
    obtain ⟨h, -⟩ := DbM.result_ofExcept_eq_ok_iff.1 h
    obtain ⟨created, made, rfl⟩ := Except.exists_of_map_eq_ok h
    exact alone ((primaryKeys_singleton created).trans (primaryKeys_create made))
  | add =>
    obtain ⟨h, -⟩ := DbM.result_ofExcept_eq_ok_iff.1 h
    obtain ⟨ds, defined, rfl⟩ := Except.exists_of_map_eq_ok h
    rw [eq_of_defineAll defined] at alone ⊢
    exact alone ((primaryKeys_added b.table _).trans (countP_isPrimary .sqlite b.addedColumns))
  | change => exact rebuilds h
  | dropColumns columns =>
    dsimp only [Compile.Sqlite.compile] at h
    split at h
    · exact rebuilds h
    · obtain ⟨rfl, -⟩ := DbM.result_pure_eq_ok_iff.1 h
      exact alone rfl
  | renameColumn source target =>
    obtain ⟨enforced, rfl⟩ := withoutForeignKeys_eq_ok h
    exact alone (primaryKeys_toggled enforced _)
  | addIndex i =>
    dsimp only [Compile.Sqlite.compile] at h
    unfold Compile.Sqlite.addIndex at h
    split at h
    · split at h
      · obtain ⟨rfl, -⟩ := DbM.result_pure_eq_ok_iff.1 h
        exact alone rfl
      · cases h
    · obtain ⟨rfl, -⟩ := DbM.result_pure_eq_ok_iff.1 h
      exact alone rfl
  | addForeign fk =>
    dsimp only [Compile.Sqlite.compile] at h
    split at h
    · obtain ⟨rfl, -⟩ := DbM.result_pure_eq_ok_iff.1 h
      exact alone rfl
    · cases h
  | drop | dropIfExists | rename | dropUnique | dropIndex =>
    obtain ⟨rfl, -⟩ := DbM.result_pure_eq_ok_iff.1 h
    exact alone rfl
  | dropPrimary | dropForeign => cases h

/-- How often the statements of a command declare a primary key. -/
theorem exists_primaryKeys_compile {c : Command}
    (h : (b.compile session c).result x = (.ok ss, x')) :
    ∃ rebuilt, b.Rebuilds session rebuilt ∧
      primaryKeys ss = b.keysOf session.dialect c + keysMade rebuilt := by
  unfold Blueprint.compile at h
  cases dialect : session.dialect with
  | mySql =>
    rw [dialect] at h
    obtain ⟨h, -⟩ := DbM.result_ofExcept_eq_ok_iff.1 h
    exact ⟨[], List.forall_mem_nil _, primaryKeys_compile_mySql h⟩
  | postgres =>
    rw [dialect] at h
    obtain ⟨h, -⟩ := DbM.result_ofExcept_eq_ok_iff.1 h
    exact ⟨[], List.forall_mem_nil _, primaryKeys_compile_postgres h⟩
  | sqlite =>
    rw [dialect] at h
    exact exists_primaryKeys_compile_sqlite dialect h

/-! ## Blueprints -/

/-- The statements of commands declare what the commands declare, and what rebuilds make. -/
theorem exists_primaryKeys_compileAll {cs : List Command}
    (h : (b.compileAll session cs).result x = (.ok ss, x')) :
    ∃ rebuilt, b.Rebuilds session rebuilt ∧
      primaryKeys ss = b.keysOfAll session.dialect cs + keysMade rebuilt := by
  induction cs generalizing x ss with
  | nil =>
    obtain ⟨rfl, rfl⟩ := DbM.result_pure_eq_ok_iff.1 h
    exact ⟨[], List.forall_mem_nil _, rfl⟩
  | cons c cs ih =>
    obtain ⟨first, x₁, compiled, h⟩ := DbM.result_bind_eq_ok_iff.1 h
    obtain ⟨others, x₂, rest, h⟩ := DbM.result_bind_eq_ok_iff.1 h
    obtain ⟨rfl, rfl⟩ := DbM.result_pure_eq_ok_iff.1 h
    obtain ⟨rs, rebuilds, keys⟩ := exists_primaryKeys_compile compiled
    obtain ⟨ts, rebuilds', keys'⟩ := ih rest
    refine ⟨rs ++ ts, rebuilds.append rebuilds', ?_⟩
    rw [primaryKeys_append, keys, keys', keysOfAll, keysOfAll, List.map_cons, List.sum_cons,
      keysMade, keysMade, keysMade, List.map_append, List.sum_append]
    omega

/-- Whether a command defines columns, in a table that is made or altered or made anew. -/
def definesColumns : Command → Bool
  | .create | .add | .change | .dropColumns _ => true
  | _ => false

/-- Whether a command adds a primary key. -/
def addsPrimary : Command → Bool
  | .addIndex i => i.kind == .primary
  | _ => false

/-- A new column counts up, and yet a command declares a primary key of its own. -/
def DeclaresTwice (d : Dialect) (b : Blueprint) : Prop :=
  (∃ c ∈ b.columns, c.change = false ∧ c.autoIncrement = true) ∧
    ∃ c ∈ b.commands, b.ownsKey d c = true

theorem keysOfAll_append (d : Dialect) (cs cs' : List Command) :
    b.keysOfAll d (cs ++ cs') = b.keysOfAll d cs + b.keysOfAll d cs' := by
  rw [keysOfAll, List.map_append, List.sum_append, keysOfAll, keysOfAll]

/-- Commands that define no columns declare keys of their own, which on SQLite belong to the new
table. -/
theorem keysOfAll_of_not_definesColumns (d : Dialect) {cs : List Command}
    (none : cs.countP definesColumns = 0) :
    b.keysOfAll d cs = if d = .sqlite then 0 else cs.countP (b.ownsKey d) := by
  induction cs with
  | nil => simp [keysOfAll]
  | cons c cs ih =>
    rw [List.countP_cons] at none
    have first : b.keysOf d c = if d = .sqlite then 0 else if b.ownsKey d c then 1 else 0 := by
      cases c with
      | create | add | change | dropColumns => simp [definesColumns] at none
      | addIndex i => by_cases sqlite : d = .sqlite <;> simp [keysOf, sqlite]
      | _ => simp [keysOf, ownsKey]
    rw [← List.singleton_append, keysOfAll_append, ih (by omega), List.countP_append,
      keysOfAll, List.map_singleton, List.sum_singleton, first]
    split
    · rfl
    · rw [List.countP_singleton]

/-- Where columns are defined once, no other command than that which makes the table defines any. -/
theorem exists_split_of_once (creating : b.creating = true)
    (once : b.commands.countP definesColumns = 1) :
    ∃ before after, b.commands = before ++ .create :: after ∧
      before.countP definesColumns = 0 ∧ after.countP definesColumns = 0 := by
  obtain ⟨before, after, split⟩ := List.append_of_mem (creating_iff.1 creating)
  rw [split, List.countP_append, List.countP_cons_of_pos rfl] at once
  exact ⟨before, after, split, by omega, by omega⟩

/-- A table that is made once has the keys of its new columns and those of its own. -/
theorem keysOfAll_compiledCommands (d : Dialect) (creating : b.creating = true)
    (once : b.commands.countP definesColumns = 1) :
    b.keysOfAll d b.compiledCommands = b.incrementKeys + b.ownKeys d := by
  obtain ⟨before, after, split, front, back⟩ := exists_split_of_once creating once
  have rest : (after ++ b.impliedForeignKeys.map Command.addForeign).countP definesColumns = 0 := by
    have foreign : (b.impliedForeignKeys.map Command.addForeign).countP definesColumns = 0 := by
      rw [List.countP_map, List.countP_eq_zero]
      exact fun _ _ => Bool.false_ne_true
    rw [List.countP_append, back, foreign]
  have all : b.compiledCommands =
      before ++ ([.create] ++ (after ++ b.impliedForeignKeys.map .addForeign)) := by
    rw [compiledCommands, split, show b.impliedLeading = [] from if_pos creating]
    simp
  have own := countP_compiledCommands d b
  have neither : [Command.create].countP (b.ownsKey d) = 0 := rfl
  rw [all, List.countP_append, List.countP_append] at own
  have made : b.keysOfAll d [.create] =
      b.incrementKeys + if d = .sqlite then b.ownKeys d else 0 := by
    simp [keysOfAll, keysOf]
  rw [all, keysOfAll_append, keysOfAll_append, made, keysOfAll_of_not_definesColumns d front,
    keysOfAll_of_not_definesColumns d rest]
  split <;> omega

/-- A new table whose columns are defined once is not made anew. -/
theorem isEmpty_rebuildDiff_of_once (creating : b.creating = true)
    (once : b.commands.countP definesColumns = 1) : (rebuildDiff b).isEmpty = true := by
  obtain ⟨before, after, split, front, back⟩ := exists_split_of_once creating once
  have drops : ∀ cs : List Command, cs.countP definesColumns = 0 →
      cs.filterMap Command.droppedColumns? = [] := by
    intro cs none
    refine List.filterMap_eq_nil_iff.2 fun c hc => ?_
    have defines := List.countP_eq_zero.1 none c hc
    cases c with
    | dropColumns columns => exact absurd rfl defines
    | _ => rfl
  refine (isEmpty_rebuildDiff b).2 ⟨by rw [Compile.Sqlite.redefines, creating]; rfl, ?_⟩
  rw [droppedColumns, split, List.filterMap_append, drops before front, List.filterMap_cons,
    drops after back]
  rfl

/-- The SQL of a new table with at most one column that counts up and at most one primary key is the
text of statements that declare what its commands declare, and what rebuilds make. Where its columns
are defined once, they declare a primary key at most once exactly when not both a new column and a
command of its own declare one. -/
theorem primaryKeys_toSql_iff (creating : b.creating = true)
    (increment : b.columns.countP (·.autoIncrement) ≤ 1)
    (primary : b.commands.countP addsPrimary ≤ 1) {sqls : List String}
    (h : (b.toSql session).result x = (.ok sqls, x')) :
    ∃ ss rebuilt, (b.statements session).result x = (.ok ss, x') ∧
      sqls = ss.map (·.render session.dialect) ∧ b.Rebuilds session rebuilt ∧
      primaryKeys ss = b.keysOfAll session.dialect b.compiledCommands + keysMade rebuilt ∧
      (b.commands.countP definesColumns = 1 →
        (primaryKeys ss ≤ 1 ↔ ¬ b.DeclaresTwice session.dialect)) := by
  obtain ⟨ss, compiled, rfl⟩ := toSql_eq_ok_iff.1 h
  obtain ⟨_, _, -, commands⟩ := DbM.result_bind_eq_ok_iff.1 compiled
  obtain ⟨rebuilt, rebuilds, keys⟩ := exists_primaryKeys_compileAll commands
  refine ⟨ss, rebuilt, compiled, rfl, rebuilds, keys, ?_⟩
  intro once
  have nothing : rebuilt = [] := by
    refine List.eq_nil_iff_forall_not_mem.2 fun r hr => ?_
    have filled := (rebuilds r hr).2.1
    rw [isEmpty_rebuildDiff_of_once creating once] at filled
    cases filled
  subst nothing
  rw [keysOfAll_compiledCommands _ creating once] at keys
  have few : b.incrementKeys ≤ 1 := List.filter_sublist.countP_le.trans increment
  have few' : b.ownKeys session.dialect ≤ 1 := by
    refine le_trans (List.countP_mono_left fun c _ owns => ?_) primary
    cases c with
    | addIndex i =>
      rw [ownsKey, Bool.and_eq_true] at owns
      exact owns.1
    | _ => cases owns
  have both : b.DeclaresTwice session.dialect ↔
      0 < b.incrementKeys ∧ 0 < b.ownKeys session.dialect := by
    rw [incrementKeys, ownKeys, List.countP_pos_iff, List.countP_pos_iff, DeclaresTwice]
    simp [addedColumns, and_assoc]
  rw [both, keys]
  show b.incrementKeys + b.ownKeys session.dialect + 0 ≤ 1 ↔ _
  omega

/-- A new table of posts with a column that counts up and a primary key. -/
def numbered (columns : List String) : Blueprint :=
  { table := "posts"
    columns := [{ name := "id", type := .bigInteger, autoIncrement := true },
      { name := "title", type := .string }]
    commands := [.create, .addIndex { kind := .primary, columns }] }

/-- On SQLite the key on the column that counts up is left to that column. -/
theorem primaryKeys_toSql_iff_numbered :
    ∃ sqls ss, ((numbered ["id"]).toSql usersSession).result () = (.ok sqls, ()) ∧
      sqls = ss.map (·.render .sqlite) ∧ primaryKeys ss ≤ 1 ∧
      ¬ (numbered ["id"]).DeclaresTwice .sqlite := by
  obtain ⟨ss, compiled⟩ := exists_statements (b := numbered ["id"]) (by decide +kernel)
  have written : ((numbered ["id"]).toSql usersSession).result () =
      (.ok (ss.map (·.render .sqlite)), ()) := toSql_eq_ok_iff.2 ⟨ss, compiled, rfl⟩
  have left : ¬ (numbered ["id"]).DeclaresTwice .sqlite := by
    rintro ⟨-, c, hc, owns⟩
    revert c
    decide
  obtain ⟨ss', rebuilt, -, same, -, -, once⟩ :=
    primaryKeys_toSql_iff (by decide) (by decide) (by decide) written
  exact ⟨_, ss', written, same, (once (by decide)).2 left, left⟩

/-- A primary key is declared twice: on MySQL and on PostgreSQL also the one on the column that
counts up, and on SQLite one on other columns. -/
theorem exists_primaryKeys_eq_two :
    (∃ ss, ((numbered ["id"]).statements { usersSession with dialect := .mySql }).result () =
        (.ok ss, ()) ∧ primaryKeys ss = 2) ∧
      (∃ ss, ((numbered ["id"]).statements { usersSession with dialect := .postgres }).result () =
        (.ok ss, ()) ∧ primaryKeys ss = 2) ∧
      (∃ ss, ((numbered ["id", "title"]).statements usersSession).result () = (.ok ss, ()) ∧
        primaryKeys ss = 2) ∧
      ∀ columns, (numbered columns).creating = true ∧
        (numbered columns).columns.countP (·.autoIncrement) ≤ 1 ∧
        (numbered columns).commands.countP addsPrimary ≤ 1 := by
  refine ⟨⟨_, rfl, ?_⟩, ⟨_, rfl, ?_⟩, ⟨_, rfl, ?_⟩, ?_⟩
  · decide
  · decide
  · decide
  · exact fun columns => ⟨rfl, Nat.le_refl 1, Nat.le_refl 1⟩

end Blueprint

end SchemaShift
