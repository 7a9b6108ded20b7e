import SchemaShift.Proofs.Blueprint.Declared
import SchemaShift.Proofs.Rebuild.Enforcement

/-!
# One rebuild for all drops

Where columns of a table are redefined and dropped, one rebuild is to cover all of it. Redefinitions
come first and bring the rebuild with them. Otherwise it is left to the first drop, which every drop
recognizes by the columns that it names: a drop that names the same columns once more takes itself
for the first one, and the table is rebuilt again.

Results:
* `exists_merges_compileRebuild`: a rebuild removes all columns that are dropped, and has the new
  definitions of those that stay.
* `exists_rebuilds_dropping`: a drop rebuilds the table where it names the columns of the first.
* `rebuilds_toSql_iff`: what a blueprint of columns and drops consists of, and when its table is
  rebuilt exactly once.
* `not_forall_rebuilt_once`: it is not always rebuilt once.
-/

namespace SchemaShift

open Compile.Sqlite Sql

namespace Blueprint

/-! ## Rebuilds -/

/-- A rebuild of a table begins with copying its rows aside. -/
def copiesAside (table : String) : Statement → Bool
  | .copyTable aside _ source => aside == temporaryName table && source == table
  | _ => false

/-- How often statements rebuild a table. -/
def rebuildCount (table : String) (ss : List Statement) : Nat := ss.countP (copiesAside table)

theorem rebuildCount_append (table : String) (ss ts : List Statement) :
    rebuildCount table (ss ++ ts) = rebuildCount table ss + rebuildCount table ts :=
  List.countP_append

theorem rebuildCount_toggled (table : String) (on : Bool) (ss : List Statement) :
    rebuildCount table (toggled on ss) = rebuildCount table ss := by
  cases on with
  | false => rfl
  | true =>
    show rebuildCount table ([.enforceForeignKeys false] ++ ss ++ [.enforceForeignKeys true]) = _
    rw [rebuildCount_append, rebuildCount_append]
    simp [rebuildCount, copiesAside]

theorem rebuildCount_rebuildStatements (table : String) (survivors : List String)
    (target : Blueprint) (ds : List ColumnDefinition) (constraints : List TableConstraint) :
    rebuildCount table (rebuildStatements table survivors target
      (.createTable table ds constraints none)) = 1 := by
  have own : rebuildCount table ((ownIndexes target).map (createIndex target)) = 0 := by
    rw [rebuildCount, List.countP_map, List.countP_eq_zero]
    exact fun _ _ => Bool.false_ne_true
  rw [rebuildStatements, rebuildCount_append, own]
  simp [rebuildCount, copiesAside]

/-- The rebuild of a blueprint whose table was read: the table is made anew with the columns that
are not dropped, which it had before as all that are dropped, and with the first new definition of
each column that is redefined. -/
structure Merges (b current : Blueprint) (ds : List ColumnDefinition) (part : List Statement) :
    Prop where
  statements : ∃ on target constraints, part = toggled on
    (rebuildStatements b.table (ds.map (·.name)) target (.createTable b.table ds constraints none))
  names : ds.map (·.name) =
    (current.columns.map (·.name)).filter fun name => !b.droppedColumns.contains name
  known : ∀ name ∈ b.droppedColumns, name ∈ current.columns.map (·.name)
  redefined : ∀ c ∈ b.changedColumns, b.Retypes .sqlite c → definition .sqlite c ∈ ds

theorem Merges.rebuildCount_eq {b current : Blueprint} {ds : List ColumnDefinition}
    {part : List Statement} (h : b.Merges current ds part) : rebuildCount b.table part = 1 := by
  obtain ⟨on, target, constraints, rfl⟩ := h.statements
  rw [rebuildCount_toggled, rebuildCount_rebuildStatements]

variable {σ : Type} {session : Session σ} {b : Blueprint} {x x' : σ} {ss : List Statement}

/-- Statements are the rebuild of a blueprint, for what a session says of its table. -/
def Rebuild (session : Session σ) (b : Blueprint) (part : List Statement) : Prop :=
  ∃ x x' current ds, (Catalog.table session b.table).result x = (.ok current, x') ∧
    b.Merges current ds part

/-- The new table has the columns that are not dropped. -/
theorem survivors_rebuildDiff (b current : Blueprint) :
    (rebuildDiff b).survivors current =
      (current.columns.map (·.name)).filter fun name => !b.droppedColumns.contains name := by
  rw [TableDiff.survivors, List.filter_map, ← removed_rebuildDiff]
  rfl

/-- A rebuild from what was read of the table. -/
theorem exists_merges_rebuildFrom {current : Blueprint} (table : current.table = b.table)
    (new : ∀ c ∈ current.columns, c.change = false)
    (h : rebuildFrom (rebuildDiff b) current = .ok ss) (on : Bool) :
    ∃ ds, b.Merges current ds (toggled on ss) := by
  obtain ⟨known, created, made, rfl⟩ := rebuildFrom_eq_ok h
  have target : ((rebuildDiff b).target current).table = b.table := table
  have names : (((rebuildDiff b).target current).addedColumns.map (definition .sqlite)).map
      (·.name) = (rebuildDiff b).survivors current := by
    rw [List.map_map,
      TableDiff.addedColumns_target new (TableDiff.made_rebuildDiff b).change_eq_false]
    exact TableDiff.names_target _ current
  have statements := eq_of_create made
  rw [target] at statements
  generalize ((rebuildDiff b).target current).compiledCommands.filterMap _ = constraints
    at statements
  refine ⟨_, ⟨on, (rebuildDiff b).target current, constraints, ?_⟩,
    names.trans (survivors_rebuildDiff b current), ?_, ?_⟩
  · rw [statements, names, rebuildDiff_table]
  · intro name dropped
    rw [← removed_rebuildDiff] at dropped
    obtain ⟨c, found⟩ := Option.isSome_iff_exists.1 (known name (List.mem_append_left _ dropped))
    have named : c.name = name := by simpa using List.find?_some found
    exact named ▸ List.mem_map_of_mem (List.mem_of_find?_eq_some found)
  · intro c hc retypes
    exact List.mem_map.2 ⟨_, mem_addedColumns_target hc retypes known, rfl⟩

/-- Where there is something to rebuild, a rebuild removes all columns that are dropped, and has the
new definitions of those that stay. -/
theorem exists_merges_compileRebuild (sqlite : session.dialect = .sqlite)
    (filled : ¬ (redefines b = false ∧ b.droppedColumns = []))
    (h : (compileRebuild session b).result x = (.ok ss, x')) : b.Rebuild session ss := by
  unfold compileRebuild at h
  dsimp only at h
  rw [if_neg (mt b.isEmpty_rebuildDiff.1 filled)] at h
  obtain ⟨statements, x₁, rebuilt, h⟩ := DbM.result_bind_eq_ok_iff.1 h
  have bracketed : ∃ on, ss = toggled on statements := by
    split at h
    · exact ⟨false, (DbM.result_pure_eq_ok_iff.1 h).1.symm⟩
    · exact withoutForeignKeys_eq_ok h
  obtain ⟨on, rfl⟩ := bracketed
  obtain ⟨current, read, compiled⟩ := exists_rebuildFrom rebuilt
  rw [rebuildDiff_table] at read
  obtain ⟨table, new⟩ := table_of_result sqlite read
  obtain ⟨ds, merges⟩ := exists_merges_rebuildFrom table new compiled on
  exact ⟨x, x₁, current, ds, read, merges⟩

/-! ## Commands -/

/-- The statements of two lists of commands stand one behind the other. -/
theorem exists_compileAll_append {cs more : List Command}
    (h : (b.compileAll session (cs ++ more)).result x = (.ok ss, x')) :
    ∃ first x₁ others, (b.compileAll session cs).result x = (.ok first, x₁) ∧
      (b.compileAll session more).result x₁ = (.ok others, x') ∧ ss = first ++ others := by
  induction cs generalizing x ss with
  | nil => exact ⟨[], x, ss, rfl, h, rfl⟩
  | cons c cs ih =>
    obtain ⟨part, x₁, compiled, h⟩ := DbM.result_bind_eq_ok_iff.1 h
    obtain ⟨rest, x₂, others, h⟩ := DbM.result_bind_eq_ok_iff.1 h
    obtain ⟨rfl, rfl⟩ := DbM.result_pure_eq_ok_iff.1 h
    obtain ⟨first, x₃, last, front, back, rfl⟩ := ih others
    refine ⟨part ++ first, x₃, last, ?_, back, (List.append_assoc _ _ _).symm⟩
    exact DbM.result_bind_eq_ok_iff.2 ⟨part, x₁, compiled,
      DbM.result_bind_eq_ok_iff.2 ⟨first, x₃, front, rfl⟩⟩

theorem compileAll_singleton_eq_ok {c : Command}
    (h : (b.compileAll session [c]).result x = (.ok ss, x')) :
    (b.compile session c).result x = (.ok ss, x') := by
  obtain ⟨part, x₁, compiled, h⟩ := DbM.result_bind_eq_ok_iff.1 h
  obtain ⟨⟨⟩, ⟨⟩⟩ := DbM.result_pure_eq_ok_iff.1 h
  rw [compiled, List.append_nil]

/-- New columns are added one by one. -/
def additions (b : Blueprint) : List Statement :=
  b.addedColumns.map fun c => .alterTable b.table [.addColumn (definition .sqlite c)]

theorem rebuildCount_additions (table : String) (b : Blueprint) :
    rebuildCount table b.additions = 0 := by
  rw [rebuildCount, additions, List.countP_map, List.countP_eq_zero]
  exact fun _ _ => Bool.false_ne_true

theorem eq_additions_of_compile_add (sqlite : session.dialect = .sqlite)
    (h : (b.compile session .add).result x = (.ok ss, x')) : ss = b.additions := by
  rw [compile, sqlite] at h
  obtain ⟨h, -⟩ := DbM.result_ofExcept_eq_ok_iff.1 h
  obtain ⟨ds, defined, rfl⟩ := Except.exists_of_map_eq_ok h
  rw [eq_of_defineAll defined, List.map_map]
  rfl

/-- Foreign keys cannot be added to a table that exists. -/
theorem eq_nil_of_compileAll_addForeign (sqlite : session.dialect = .sqlite)
    (existing : b.creating = false) {keys : List ForeignKey}
    (h : (b.compileAll session (keys.map .addForeign)).result x = (.ok ss, x')) : ss = [] := by
  cases keys with
  | nil => exact (DbM.result_pure_eq_ok_iff.1 h).1.symm
  | cons fk keys =>
    obtain ⟨part, x₁, compiled, -⟩ := DbM.result_bind_eq_ok_iff.1 h
    rw [compile, sqlite] at compiled
    dsimp only [Compile.Sqlite.compile] at compiled
    rw [existing] at compiled
    cases compiled

/-- A drop rebuilds the table where it names the columns of the first one, if there is something to
rebuild and nothing is redefined. -/
theorem exists_rebuilds_dropping (sqlite : session.dialect = .sqlite) {drops : List (List String)}
    (h : (b.compileAll session (drops.map .dropColumns)).result x = (.ok ss, x')) :
    ∃ rebuilds : List (List Statement), ss = rebuilds.flatten ∧
      (∀ part ∈ rebuilds, b.Rebuild session part) ∧
      rebuilds.length = if b.droppedColumns = [] then 0 else drops.countP (startsRebuild b) := by
  induction drops generalizing x ss with
  | nil =>
    refine ⟨[], (DbM.result_pure_eq_ok_iff.1 h).1.symm, List.forall_mem_nil _, ?_⟩
    simp
  | cons columns drops ih =>
    obtain ⟨first, x₁, compiled, h⟩ := DbM.result_bind_eq_ok_iff.1 h
    obtain ⟨others, x₂, rest, h⟩ := DbM.result_bind_eq_ok_iff.1 h
    obtain ⟨rfl, rfl⟩ := DbM.result_pure_eq_ok_iff.1 h
    obtain ⟨rebuilds, rfl, all, count⟩ := ih rest
    rw [compile, sqlite] at compiled
    dsimp only [Compile.Sqlite.compile] at compiled
    rw [List.countP_cons]
    by_cases starts : startsRebuild b columns = true
    · rw [if_pos starts] at compiled
      by_cases nothing : b.droppedColumns = []
      · have keeping : redefines b = false := by
          simp only [startsRebuild, Bool.and_eq_true, Bool.not_eq_true'] at starts
          exact starts.1
        unfold compileRebuild at compiled
        dsimp only at compiled
        rw [if_pos (b.isEmpty_rebuildDiff.2 ⟨keeping, nothing⟩)] at compiled
        obtain ⟨rfl, -⟩ := DbM.result_pure_eq_ok_iff.1 compiled
        rw [if_pos nothing] at count ⊢
        exact ⟨rebuilds, rfl, all, count⟩
      · have rebuild := exists_merges_compileRebuild sqlite (fun both => nothing both.2) compiled
        refine ⟨first :: rebuilds, rfl, List.forall_mem_cons.2 ⟨rebuild, all⟩, ?_⟩
        rw [List.length_cons, count, if_neg nothing, if_neg nothing, if_pos starts]
    · rw [if_neg starts] at compiled
      obtain ⟨rfl, -⟩ := DbM.result_pure_eq_ok_iff.1 compiled
      rw [if_neg starts]
      exact ⟨rebuilds, rfl, all, count⟩

theorem creating_eq_false_of_dropping {drops : List (List String)}
    (only : b.commands = drops.map .dropColumns) : b.creating = false := by
  apply creating_eq_false
  intro c hc
  rw [only] at hc
  obtain ⟨columns, -, rfl⟩ := List.mem_map.1 hc
  trivial

/-- What the columns of an existing table imply: the rebuild where some are redefined, and then the
new ones. -/
theorem exists_rebuilds_leading (sqlite : session.dialect = .sqlite)
    (existing : b.creating = false)
    (h : (b.compileAll session b.impliedLeading).result x = (.ok ss, x')) :
    ∃ rebuilds : List (List Statement), ss = rebuilds.flatten ++ b.additions ∧
      (∀ part ∈ rebuilds, b.Rebuild session part) ∧
      rebuilds.length = if b.changedColumns = [] then 0 else 1 := by
  rw [impliedLeading, existing, if_neg Bool.false_ne_true] at h
  obtain ⟨first, x₁, others, changed, added, rfl⟩ := exists_compileAll_append h
  have addition : others = b.additions := by
    cases columns : b.addedColumns with
    | nil =>
      rw [columns] at added
      rw [additions, columns]
      exact (DbM.result_pure_eq_ok_iff.1 added).1.symm
    | cons c cs =>
      rw [columns] at added
      exact eq_additions_of_compile_add sqlite (compileAll_singleton_eq_ok added)
  subst addition
  cases columns : b.changedColumns with
  | nil =>
    rw [columns] at changed
    exact ⟨[], by rw [← (DbM.result_pure_eq_ok_iff.1 changed).1]; rfl, List.forall_mem_nil _, rfl⟩
  | cons c cs =>
    rw [columns] at changed
    have compiled := compileAll_singleton_eq_ok changed
    rw [compile, sqlite] at compiled
    have redefining : redefines b = true := by rw [redefines, existing, columns]; rfl
    have rebuild := exists_merges_compileRebuild sqlite
      (fun both => Bool.false_ne_true (both.1.symm.trans redefining)) compiled
    exact ⟨[first], by simp, List.forall_mem_singleton.2 rebuild, rfl⟩

/-- Where nothing is redefined, the drops that name the columns of the first rebuild the table. -/
theorem countP_startsRebuild {first : List String} {rest : List (List String)}
    (only : b.commands = (first :: rest).map .dropColumns) (keeping : redefines b = false) :
    (first :: rest).countP (startsRebuild b) = rest.count first + 1 := by
  have starts : startsRebuild b = fun columns => columns == first := by
    funext columns
    rw [startsRebuild, keeping, only]
    show (some first == some columns) = (columns == first)
    rw [Bool.eq_iff_iff, beq_iff_eq, beq_iff_eq, Option.some_inj, eq_comm]
  rw [starts, List.countP_cons_of_pos (by simp)]
  rfl

/-- Where columns are redefined, no drop rebuilds the table. -/
theorem countP_startsRebuild_of_redefines (redefining : redefines b = true)
    (drops : List (List String)) : drops.countP (startsRebuild b) = 0 := by
  rw [List.countP_eq_zero]
  intro columns _
  simp [startsRebuild, redefining]

theorem rebuildCount_flatten {rebuilds : List (List Statement)}
    (all : ∀ part ∈ rebuilds, b.Rebuild session part) :
    rebuildCount b.table rebuilds.flatten = rebuilds.length := by
  induction rebuilds with
  | nil => rfl
  | cons part rebuilds ih =>
    obtain ⟨⟨_, _, _, _, -, merges⟩, others⟩ := List.forall_mem_cons.1 all
    rw [List.flatten_cons, rebuildCount_append, merges.rebuildCount_eq, ih others,
      List.length_cons, Nat.add_comm]

/-! ## Blueprints -/

/-- The rebuild that redefinitions bring with them stands in front of the new columns, those of
drops stand behind. -/
theorem exists_rebuilds_statements {drops : List (List String)}
    (sqlite : session.dialect = .sqlite) (only : b.commands = drops.map .dropColumns)
    (h : (b.statements session).result x = (.ok ss, x')) :
    ∃ early late : List (List Statement), ss = early.flatten ++ b.additions ++ late.flatten ∧
      (∀ part ∈ early ++ late, b.Rebuild session part) ∧
      early.length = (if b.changedColumns = [] then 0 else 1) ∧
      late.length = if drops.flatten = [] then 0 else drops.countP (startsRebuild b) := by
  obtain ⟨_, x₁, -, compiled⟩ := DbM.result_bind_eq_ok_iff.1 h
  have existing := creating_eq_false_of_dropping only
  rw [compiledCommands, only] at compiled
  obtain ⟨front, x₂, keys, explicit, foreign, rfl⟩ := exists_compileAll_append compiled
  obtain rfl := eq_nil_of_compileAll_addForeign sqlite existing foreign
  obtain ⟨leading, x₃, behind, implied, dropping, rfl⟩ := exists_compileAll_append explicit
  obtain ⟨early, rfl, allEarly, countEarly⟩ := exists_rebuilds_leading sqlite existing implied
  obtain ⟨late, rfl, allLate, countLate⟩ := exists_rebuilds_dropping sqlite dropping
  rw [droppedColumns_dropping only] at countLate
  exact ⟨early, late, List.append_nil _, List.forall_mem_append.2 ⟨allEarly, allLate⟩, countEarly,
    countLate⟩

/-- How often a table is rebuilt: by the redefinitions, if there are any, and otherwise by the drops
that name the columns of the first. -/
theorem rebuilds_length_iff {drops : List (List String)}
    (only : b.commands = drops.map .dropColumns)
    {early late : Nat} (leading : early = if b.changedColumns = [] then 0 else 1)
    (dropping : late = if drops.flatten = [] then 0 else drops.countP (startsRebuild b)) :
    (early + late = 0 ↔ b.changedColumns = [] ∧ drops.flatten = []) ∧
      (early + late ≤ 1 ↔ b.changedColumns ≠ [] ∨ drops.flatten = [] ∨
        ∀ first rest, drops = first :: rest → first ∉ rest) := by
  have existing := creating_eq_false_of_dropping only
  by_cases defined : b.changedColumns = []
  case neg =>
    have redefining : redefines b = true := by simp [redefines, existing, defined]
    rw [countP_startsRebuild_of_redefines redefining, ite_self] at dropping
    simp [leading, dropping, defined]
  rw [if_pos defined] at leading
  by_cases nothing : drops.flatten = []
  case pos => simp [leading, dropping, defined, nothing]
  cases drops with
  | nil => exact absurd rfl nothing
  | cons first rest =>
    have keeping : redefines b = false := by simp [redefines, defined]
    have once : (∀ f r, first :: rest = f :: r → f ∉ r) ↔ rest.count first = 0 := by
      rw [List.count_eq_zero]
      constructor
      · exact fun h => h first rest rfl
      · rintro h f r ⟨⟩
        exact h
    rw [if_neg nothing, countP_startsRebuild only keeping] at dropping
    rw [once, or_iff_right (not_not.2 defined), or_iff_right nothing]
    exact ⟨iff_of_false (by omega) fun both => nothing both.2, by omega⟩

/-- On a table that exists, columns and drops compile to additions of the new columns and to
rebuilds, each of which removes all columns that are dropped and has the new definitions of those
that are redefined and stay. There is none exactly when nothing is redefined and no column is
dropped. There is not more than one exactly when columns are redefined, or no column is dropped, or
the columns of the first drop are not named once more by another one. -/
theorem rebuilds_toSql_iff {drops : List (List String)} {sqls : List String}
    (sqlite : session.dialect = .sqlite) (only : b.commands = drops.map .dropColumns)
    (h : (b.toSql session).result x = (.ok sqls, x')) :
    ∃ (ss : List Statement) (rebuilds : List (List Statement)),
      sqls = ss.map (·.render .sqlite) ∧
      ss = (if b.changedColumns = [] then b.additions ++ rebuilds.flatten
        else rebuilds.flatten ++ b.additions) ∧
      (∀ part ∈ rebuilds, b.Rebuild session part) ∧
      rebuildCount b.table ss = rebuilds.length ∧
      (rebuildCount b.table ss = 0 ↔ b.changedColumns = [] ∧ drops.flatten = []) ∧
      (rebuildCount b.table ss ≤ 1 ↔ b.changedColumns ≠ [] ∨ drops.flatten = [] ∨
        ∀ first rest, drops = first :: rest → first ∉ rest) := by
  obtain ⟨ss, compiled, rfl⟩ := toSql_eq_ok_iff.1 h
  obtain ⟨early, late, rfl, all, countEarly, countLate⟩ :=
    exists_rebuilds_statements sqlite only compiled
  have existing := creating_eq_false_of_dropping only
  have count : rebuildCount b.table (early.flatten ++ b.additions ++ late.flatten) =
      (early ++ late).length := by
    obtain ⟨allEarly, allLate⟩ := List.forall_mem_append.1 all
    rw [rebuildCount_append, rebuildCount_append, rebuildCount_additions,
      rebuildCount_flatten allEarly, rebuildCount_flatten allLate, List.length_append]
    rfl
  refine ⟨_, early ++ late, by rw [sqlite], ?_, all, count, ?_⟩
  · by_cases defined : b.changedColumns = []
    · rw [if_pos defined] at countEarly ⊢
      obtain rfl := List.length_eq_zero_iff.1 countEarly
      simp
    · have redefining : redefines b = true := by simp [redefines, existing, defined]
      rw [countP_startsRebuild_of_redefines redefining, ite_self] at countLate
      obtain rfl := List.length_eq_zero_iff.1 countLate
      simp [defined]
  · rw [count, List.length_append]
    exact rebuilds_length_iff only countEarly countLate

/-- Users without an age and without votes. -/
def forgetting : Blueprint :=
  { table := "users", commands := [.dropColumns ["age"], .dropColumns ["votes"]] }

/-- Two drops of different columns share one rebuild. -/
theorem rebuilds_toSql_iff_forgetting :
    ∃ sqls ss, (forgetting.toSql usersSession).result () = (.ok sqls, ()) ∧
      sqls = ss.map (·.render .sqlite) ∧ rebuildCount "users" ss = 1 := by
  obtain ⟨ss, compiled⟩ := exists_statements (b := forgetting) (by decide +kernel)
  have written := toSql_eq_ok_iff.2 ⟨ss, compiled, rfl⟩
  have only : forgetting.commands = [["age"], ["votes"]].map .dropColumns := rfl
  obtain ⟨ss', rebuilds, same, -, -, -, none, once⟩ := rebuilds_toSql_iff rfl only written
  have some : rebuildCount "users" ss' ≠ 0 := fun zero => absurd (none.1 zero).2 (by decide)
  have most : rebuildCount "users" ss' ≤ 1 := by
    refine once.2 (.inr (.inr ?_))
    rintro first rest ⟨⟩
    decide
  exact ⟨_, ss', written, same, by omega⟩

/-- Users whose votes are dropped, and then dropped again. -/
def forgettingTwice : Blueprint :=
  { table := "users", commands := [.dropColumns ["votes"], .dropColumns ["votes"]] }

/-- A table from which something is dropped is not always rebuilt once: two drops of the same column
rebuild it twice. -/
theorem not_forall_rebuilt_once :
    ¬ ∀ (session : Session Unit) (b : Blueprint) (drops : List (List String))
      (ss : List Statement), session.dialect = .sqlite → b.commands = drops.map .dropColumns →
      (b.changedColumns ≠ [] ∨ drops.flatten ≠ []) →
      (b.statements session).result () = (.ok ss, ()) → rebuildCount b.table ss = 1 := by
  intro all
  have twice : ((forgettingTwice.statements usersSession).result ()).1.toOption.map
      (rebuildCount "users") = some 2 := by decide +kernel
  obtain ⟨ss, compiled, count⟩ := DbM.exists_of_map_result twice
  have once := all usersSession forgettingTwice [["votes"], ["votes"]] ss rfl rfl
    (.inr (by decide)) compiled
  exact absurd (count.symm.trans once) (by decide)

end Blueprint

end SchemaShift
