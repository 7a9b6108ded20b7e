import SchemaShift.Proofs.Rebuild.Enforcement
import SchemaShift.Proofs.Sql.Identifiers

/-!
# Names in statements

Before a blueprint is compiled, the names of its table and of its columns are checked. Statements
quote more than these: the names that commands give, the names that are derived for keys and checks,
and what the catalog says about a table that is made anew.

Results:
* `quotes_compile_mySql`, `quotes_compile_postgres`, `exists_quotes_compile_sqlite`: the names in
  the statements of a command.
* `valid_toSql_iff`: all names in the statements of a blueprint are valid exactly when those are
  that come from commands and from the catalog.
* `not_forall_valid_quoted`: not all of them always are.
-/

namespace SchemaShift

open Sql Compile.Sqlite

/-! ## Names in definitions -/

namespace Sql

theorem eq_of_valueCheck_mem_typeParts {d : Dialect} {c : Column} {column : String}
    {allowed : List String} (h : .valueCheck column allowed ∈ typeParts d c) : column = c.name := by
  have time : ColumnPart.valueCheck column allowed ∉ currentTimePart c := by
    unfold currentTimePart; split <;> simp
  have check (h : .valueCheck column allowed ∈ valueCheckPart c) : column = c.name := by
    unfold valueCheckPart at h
    split at h
    · exact (ColumnPart.valueCheck.inj (List.mem_singleton.1 h)).1
    · cases h
  cases d with
  | mySql => simp [typeParts, time] at h
  | postgres =>
    simp only [typeParts] at h
    split at h
    · simp at h
    · simp only [List.cons_append, List.mem_cons, reduceCtorEq, false_or, List.mem_append, time,
        or_false] at h
      exact check h
  | sqlite =>
    simp only [typeParts, List.cons_append, List.mem_cons, reduceCtorEq, false_or, List.mem_append,
      time, or_false] at h
    exact check h

theorem valueCheck_not_mem_modifiers (d : Dialect) (c : Column) (column : String)
    (allowed : List String) : ColumnPart.valueCheck column allowed ∉ modifiers d c := by
  have unsigned : ColumnPart.valueCheck column allowed ∉ (unsignedPart d c).toList := by
    unfold unsignedPart; split <;> simp
  have default : ColumnPart.valueCheck column allowed ∉ (defaultPart c).toList := by
    unfold defaultPart
    split
    · simp
    · cases c.default <;> simp
  have increment : ColumnPart.valueCheck column allowed ∉ (incrementPart c).toList := by
    unfold incrementPart; split <;> simp
  cases d <;> simp [modifiers, nullabilityPart, unsigned, default, increment]

/-- A column definition quotes no name but that of the column. -/
theorem mem_identifiers_definition {d : Dialect} {c : Column} {n : String} :
    n ∈ (definition d c).identifiers ↔ n = c.name := by
  refine ⟨fun h => ?_, fun h => h ▸ List.mem_cons_self⟩
  rcases List.mem_cons.1 h with named | inside
  · exact named
  · obtain ⟨p, hp, inside⟩ := List.mem_flatMap.1 inside
    cases p with
    | valueCheck column allowed =>
      rw [List.mem_singleton.1 inside]
      rcases List.mem_append.1 hp with hp | hp
      · exact eq_of_valueCheck_mem_typeParts hp
      · exact (valueCheck_not_mem_modifiers d c column allowed hp).elim
    | _ => cases inside

end Sql

namespace Blueprint

variable {σ : Type} {session : Session σ} {b : Blueprint} {x x' : σ} {ss : List Statement}

/-! ## Names of a blueprint -/

/-- The names that are checked. -/
def ownNames (b : Blueprint) : List String := b.table :: b.columns.map (·.name)

/-- The names in the constraints of a new table on SQLite. -/
def constraintNames (b : Blueprint) : List String :=
  (b.compiledCommands.filterMap (constraint? b)).flatMap TableConstraint.identifiers

/-- The names that a command brings into statements, apart from those that are checked and from
those of a table that is made anew. -/
def brings (d : Dialect) (b : Blueprint) : Command → List String
  | .create => if d = .sqlite then b.constraintNames else []
  | .change =>
    if d = .postgres then
      b.changedColumns.map fun c => Compile.Postgres.checkName b.table c.name
    else []
  | .rename target => [target]
  | .dropColumns columns => if d = .sqlite then [] else columns
  | .renameColumn source target => [source, target]
  | .addIndex i =>
    if i.kind = .primary then if d = .sqlite then [] else i.columns
    else i.resolvedName b.table :: i.columns
  | .addForeign fk =>
    if d = .sqlite then [] else fk.resolvedName b.table :: foreignKeyIdentifiers fk
  | .dropPrimary name =>
    if d = .postgres then [name.getD (Compile.Postgres.primaryName b.table)] else []
  | .dropUnique name | .dropIndex name | .dropForeign name => [name]
  | .add | .drop | .dropIfExists => []

/-- The names that the commands of a blueprint bring into statements. -/
def broughtNames (d : Dialect) (b : Blueprint) : List String :=
  b.compiledCommands.flatMap (b.brings d)

/-- The names of the indexes of a table that are statements of their own, and of what they are
over. -/
def indexNames (b : Blueprint) : List String :=
  (ownIndexes b).flatMap fun i => i.resolvedName b.table :: i.columns

/-- The names of a table that is made anew: those that the catalog knows of its columns, its
constraints and its indexes, and that of the table which keeps its rows meanwhile. -/
def remadeNames (r : Blueprint) : List String :=
  r.columns.map (·.name) ++ (temporaryName r.table :: r.constraintNames ++ r.indexNames)

/-- A table is made anew from what the catalog says about it. -/
def Remakes (session : Session σ) (b r : Blueprint) : Prop :=
  session.dialect = .sqlite ∧ ∃ y y' current,
    (Catalog.table session b.table).result y = (.ok current, y') ∧
      r = (rebuildDiff b).target current

/-- Statements quote certain names, and beside these only such as are checked. -/
structure Quotes (b : Blueprint) (ss : List Statement) (names : List String) : Prop where
  only : ∀ n ∈ quoted ss, n ∈ b.ownNames ∨ n ∈ names
  all : ∀ n ∈ names, n ∈ quoted ss

namespace Quotes

variable {names : List String}

/-- Statements that quote nothing but checked names. -/
theorem of_own (h : ∀ n ∈ quoted ss, n ∈ b.ownNames) : b.Quotes ss [] where
  only n hn := .inl (h n hn)
  all := List.forall_mem_nil _

/-- Statements that quote the table and certain names. -/
theorem of_eq (h : quoted ss = b.table :: names) : b.Quotes ss names where
  only n hn := by
    rw [h] at hn
    rcases List.mem_cons.1 hn with rfl | named
    · exact .inl List.mem_cons_self
    · exact .inr named
  all n hn := h ▸ List.mem_cons_of_mem _ hn

theorem append {ts : List Statement} {others : List String} (h : b.Quotes ss names)
    (h' : b.Quotes ts others) : b.Quotes (ss ++ ts) (names ++ others) where
  only n hn := by
    rw [quoted_append] at hn
    rcases List.mem_append.1 hn with first | second
    · exact (h.only n first).imp_right (List.mem_append_left _)
    · exact (h'.only n second).imp_right (List.mem_append_right _)
  all n hn := by
    rw [quoted_append]
    rcases List.mem_append.1 hn with first | second
    · exact List.mem_append_left _ (h.all n first)
    · exact List.mem_append_right _ (h'.all n second)

/-- The same names in another order, or more than once. -/
theorem congr {others : List String} (h : b.Quotes ss names)
    (same : ∀ n, n ∈ names ↔ n ∈ others) : b.Quotes ss others where
  only n hn := (h.only n hn).imp_right (same n).1
  all n hn := h.all n ((same n).2 hn)

/-- Where the checked names are valid, all are as soon as the others are. -/
theorem valid_iff (h : b.Quotes ss names) (own : ∀ n ∈ b.ownNames, Identifier.Valid n) :
    (∀ n ∈ quoted ss, Identifier.Valid n) ↔ ∀ n ∈ names, Identifier.Valid n := by
  constructor
  · exact fun all n hn => all n (h.all n hn)
  · intro others n hn
    exact (h.only n hn).elim (own n) (others n)

end Quotes

/-- Definitions of columns quote the names of the columns. -/
theorem mem_identifiers_definitions {d : Dialect} {cs : List Column} {n : String} :
    n ∈ (cs.map (definition d)).flatMap ColumnDefinition.identifiers ↔ n ∈ cs.map (·.name) := by
  rw [List.flatMap_map, List.mem_flatMap, List.mem_map]
  exact exists_congr fun c => and_congr_right fun _ => mem_identifiers_definition.trans eq_comm

theorem mem_ownNames_of_definitions {d : Dialect} {cs : List Column} {n : String}
    (own : ∀ c ∈ cs, c ∈ b.columns)
    (h : n ∈ (cs.map (definition d)).flatMap ColumnDefinition.identifiers) : n ∈ b.ownNames := by
  obtain ⟨c, hc, rfl⟩ := List.mem_map.1 (mem_identifiers_definitions.1 h)
  exact List.mem_cons_of_mem _ (List.mem_map_of_mem (own c hc))

/-! ## Alterations -/

theorem quoted_singleton (s : Statement) : quoted [s] = s.identifiers := List.flatMap_singleton _ _

theorem quotes_alterTable (alterations : List Alteration) :
    b.Quotes [.alterTable b.table alterations] (alterations.flatMap Alteration.identifiers) :=
  .of_eq (quoted_singleton _)

theorem quotes_alteration (a : Alteration) : b.Quotes [.alterTable b.table [a]] a.identifiers := by
  have quotes := quotes_alterTable (b := b) [a]
  rwa [List.flatMap_singleton] at quotes

theorem quotes_dropColumns (columns : List String) :
    b.Quotes [.alterTable b.table (columns.map .dropColumn)] columns := by
  have quotes := quotes_alterTable (b := b) (columns.map .dropColumn)
  rwa [List.flatMap_map, show columns.flatMap (fun n => (Alteration.dropColumn n).identifiers) =
    columns from List.flatMap_singleton' columns] at quotes

/-- An alteration by definitions of own columns quotes checked names only. -/
theorem quotes_definitions {d : Dialect} {cs : List Column}
    {alteration : ColumnDefinition → Alteration}
    (quotes : ∀ c, (alteration c).identifiers = c.identifiers) (own : ∀ c ∈ cs, c ∈ b.columns) :
    b.Quotes [.alterTable b.table ((cs.map (definition d)).map alteration)] [] := by
  refine .of_own fun n hn => ?_
  rw [quoted_singleton] at hn
  rcases List.mem_cons.1 hn with rfl | inside
  · exact List.mem_cons_self
  · rw [List.flatMap_map] at inside
    simp only [quotes] at inside
    exact mem_ownNames_of_definitions own inside

/-- Own columns that are added one by one. -/
theorem quotes_additions {d : Dialect} {cs : List Column} (own : ∀ c ∈ cs, c ∈ b.columns) :
    b.Quotes ((cs.map (definition d)).map fun c => .alterTable b.table [.addColumn c]) [] := by
  refine .of_own fun n hn => ?_
  rw [List.map_map, quoted, List.flatMap_map] at hn
  obtain ⟨c, hc, inside⟩ := List.mem_flatMap.1 hn
  rcases List.mem_cons.1 inside with rfl | inside
  · exact List.mem_cons_self
  · rw [List.flatMap_singleton] at inside
    rw [mem_identifiers_definition.1 inside]
    exact List.mem_cons_of_mem _ (List.mem_map_of_mem (own c hc))

/-- A new table quotes checked names, and those of its constraints. -/
theorem quotes_createTable (d : Dialect) (constraints : List TableConstraint)
    (engine : Option String) :
    b.Quotes [.createTable b.table (b.addedColumns.map (definition d)) constraints engine]
      (constraints.flatMap TableConstraint.identifiers) where
  only n hn := by
    rw [quoted_singleton] at hn
    rcases List.mem_append.1 hn with own | constrained
    · rcases List.mem_cons.1 own with rfl | inside
      · exact .inl List.mem_cons_self
      · exact .inl (mem_ownNames_of_definitions (fun _ => List.mem_of_mem_filter) inside)
    · exact .inr constrained
  all n hn := by
    rw [quoted_singleton]
    exact List.mem_append_right _ hn

theorem quotes_createIndex (unique : Bool) (name : String) (columns : List String) :
    b.Quotes [.createIndex unique name b.table columns] (name :: columns) where
  only n hn := by
    rw [quoted_singleton] at hn
    rcases List.mem_cons.1 hn with rfl | others
    · exact .inr List.mem_cons_self
    · rcases List.mem_cons.1 others with rfl | column
      · exact .inl List.mem_cons_self
      · exact .inr (List.mem_cons_of_mem _ column)
  all n hn := by
    rw [quoted_singleton]
    rcases List.mem_cons.1 hn with rfl | column
    · exact List.mem_cons_self
    · exact List.mem_cons_of_mem _ (List.mem_cons_of_mem _ column)

theorem quotes_dropIndex (name : String) : b.Quotes [.dropIndex name] [name] where
  only _ := .inr
  all _ := id

/-! ## Commands -/

theorem quotes_compile_mySql {c : Command} (h : Compile.MySql.compile b c = .ok ss) :
    b.Quotes ss (b.brings .mySql c) := by
  cases c with
  | create =>
    obtain ⟨ds, defined, rfl⟩ := Except.exists_of_map_eq_ok h
    rw [eq_of_defineAll defined]
    exact quotes_createTable .mySql [] b.engine
  | add =>
    obtain ⟨ds, defined, rfl⟩ := Except.exists_of_map_eq_ok h
    rw [eq_of_defineAll defined]
    exact quotes_definitions (fun _ => rfl) fun _ => List.mem_of_mem_filter
  | change =>
    obtain ⟨ds, defined, rfl⟩ := Except.exists_of_map_eq_ok h
    rw [eq_of_defineAll defined]
    exact quotes_definitions (fun _ => rfl) fun _ => List.mem_of_mem_filter
  | drop | dropIfExists | rename =>
    cases h
    exact .of_eq rfl
  | dropColumns columns =>
    cases h
    exact quotes_dropColumns columns
  | addIndex i =>
    cases h
    obtain ⟨kind, columns, name⟩ := i
    cases kind <;> exact quotes_alteration _
  | renameColumn | addForeign | dropPrimary | dropUnique | dropIndex | dropForeign =>
    cases h
    exact quotes_alteration _

/-- A clause that redefines a column on PostgreSQL is about the column or about its check. -/
theorem mem_identifiers_change {table n : String} {c : Column} {a : Alteration}
    (ha : a ∈ Compile.Postgres.change table c ++ (Compile.Postgres.check? table c).toList)
    (hn : n ∈ a.identifiers) : n = c.name ∨ n = Compile.Postgres.checkName table c.name := by
  rcases List.mem_append.1 ha with ha | ha
  · simp only [Compile.Postgres.change, List.mem_cons, List.not_mem_nil, or_false] at ha
    rcases ha with rfl | rfl | rfl | rfl
    · exact .inl (List.mem_singleton.1 hn)
    · exact .inl (List.mem_singleton.1 hn)
    · unfold Compile.Postgres.defaultChange at hn
      split at hn <;> exact .inl (List.mem_singleton.1 hn)
    · exact .inr (List.mem_singleton.1 hn)
  · unfold Compile.Postgres.check? at ha
    split at ha
    · obtain rfl := List.mem_singleton.1 ha
      exact (List.mem_pair.1 hn).symm
    · cases ha

/-- The redefinition of columns on PostgreSQL also names their checks. -/
theorem quotes_changes (b : Blueprint) :
    b.Quotes (Compile.Postgres.changes b)
      (b.changedColumns.map fun c => Compile.Postgres.checkName b.table c.name) where
  only n hn := by
    have known {alterations : List Alteration}
        (changing : ∀ a ∈ alterations, ∃ c ∈ b.changedColumns,
          a ∈ Compile.Postgres.change b.table c ++ (Compile.Postgres.check? b.table c).toList)
        (hn : n ∈ quoted (Compile.Postgres.alter b alterations)) :
        n ∈ b.ownNames ∨ n ∈ b.changedColumns.map fun c =>
          Compile.Postgres.checkName b.table c.name := by
      rcases List.mem_cons.1 (quoted_singleton _ ▸ hn) with rfl | inside
      · exact .inl List.mem_cons_self
      · obtain ⟨a, ha, hn⟩ := List.mem_flatMap.1 inside
        obtain ⟨c, hc, part⟩ := changing a ha
        rcases mem_identifiers_change part hn with rfl | rfl
        · exact .inl (List.mem_cons_of_mem _ (List.mem_map_of_mem (List.mem_of_mem_filter hc)))
        · exact .inr (List.mem_map_of_mem hc)
    rw [Compile.Postgres.changes, quoted_append] at hn
    rcases List.mem_append.1 hn with clauses | checks
    · refine known (fun a ha => ?_) clauses
      obtain ⟨c, hc, part⟩ := List.mem_flatMap.1 ha
      exact ⟨c, hc, List.mem_append_left _ part⟩
    · split at checks
      · cases checks
      · refine known (fun a ha => ?_) checks
        obtain ⟨c, hc, part⟩ := List.mem_filterMap.1 ha
        exact ⟨c, hc, List.mem_append_right _ (Option.mem_toList.2 part)⟩
  all n hn := by
    obtain ⟨c, hc, rfl⟩ := List.mem_map.1 hn
    rw [Compile.Postgres.changes, quoted_append]
    refine List.mem_append_left _ ?_
    rw [Compile.Postgres.alter, quoted_singleton]
    refine List.mem_cons_of_mem _ (List.mem_flatMap.2
      ⟨.dropConstraint (Compile.Postgres.checkName b.table c.name) true, ?_,
        List.mem_singleton_self _⟩)
    exact List.mem_flatMap.2 ⟨c, hc, by simp [Compile.Postgres.change]⟩

theorem quotes_compile_postgres {c : Command} (h : Compile.Postgres.compile b c = .ok ss) :
    b.Quotes ss (b.brings .postgres c) := by
  cases c with
  | create =>
    obtain ⟨ds, defined, rfl⟩ := Except.exists_of_map_eq_ok h
    rw [eq_of_defineAll defined]
    exact quotes_createTable .postgres [] none
  | add =>
    obtain ⟨ds, defined, rfl⟩ := Except.exists_of_map_eq_ok h
    rw [eq_of_defineAll defined]
    exact quotes_definitions (fun _ => rfl) fun _ => List.mem_of_mem_filter
  | change =>
    cases h
    exact quotes_changes b
  | drop | dropIfExists =>
    cases h
    exact .of_eq rfl
  | dropColumns columns =>
    cases h
    exact quotes_dropColumns columns
  | addIndex i =>
    cases h
    obtain ⟨kind, columns, name⟩ := i
    cases kind with
    | primary | unique => exact quotes_alteration _
    | index => exact quotes_createIndex false _ columns
  | dropIndex name =>
    cases h
    exact quotes_dropIndex name
  | rename | renameColumn | addForeign | dropPrimary | dropUnique | dropForeign =>
    cases h
    exact quotes_alteration _

/-! ## Rebuilds -/

theorem quoted_toggled (enforced : Bool) (ss : List Statement) :
    quoted (toggled enforced ss) = quoted ss := by
  cases enforced with
  | false => rfl
  | true =>
    show quoted ([.enforceForeignKeys false] ++ ss ++ [.enforceForeignKeys true]) = _
    rw [quoted_append, quoted_append]
    exact List.append_nil _

theorem quotes_dropTable (ifExists : Bool) : b.Quotes [.dropTable b.table ifExists] [] :=
  .of_eq (quoted_singleton _)

/-- The rows of all columns are copied aside, and back. -/
theorem quotes_copyTable (target : String) :
    b.Quotes [.copyTable target (b.columns.map (·.name)) b.table] [target] where
  only n hn := by
    rcases List.mem_append.1 (quoted_singleton _ ▸ hn) with front | table
    · rcases List.mem_cons.1 front with rfl | column
      · exact .inr (List.mem_singleton_self _)
      · exact .inl (List.mem_cons_of_mem _ column)
    · obtain rfl := List.mem_singleton.1 table
      exact .inl List.mem_cons_self
  all n hn := by
    obtain rfl := List.mem_singleton.1 hn
    exact List.mem_cons_self

theorem quotes_insertFrom (source : String) :
    b.Quotes [.insertFrom b.table (b.columns.map (·.name)) source] [source] where
  only n hn := by
    rcases List.mem_append.1 (quoted_singleton _ ▸ hn) with own | last
    · exact .inl own
    · exact .inr last
  all n hn := by
    rw [quoted_singleton]
    exact List.mem_append_right _ hn

theorem quotes_createIndexes (b : Blueprint) (is : List Index) :
    b.Quotes (is.map (createIndex b))
      (is.flatMap fun i => i.resolvedName b.table :: i.columns) := by
  induction is with
  | nil => exact .of_own (List.forall_mem_nil _)
  | cons i is ih => exact (quotes_createIndex _ (i.resolvedName b.table) i.columns).append ih

theorem Quotes.toggled {names : List String} (h : b.Quotes ss names) (enforced : Bool) :
    b.Quotes (Compile.Sqlite.toggled enforced ss) names where
  only n hn := h.only n (quoted_toggled enforced ss ▸ hn)
  all n hn := quoted_toggled enforced ss ▸ h.all n hn

/-- A rebuild quotes what is known of the table that it makes. -/
theorem quotes_remade {r : Blueprint} {created : Statement}
    (made : Compile.Sqlite.create r = .ok created) :
    r.Quotes (rebuildStatements r.table (r.columns.map (·.name)) r created)
      (temporaryName r.table :: r.constraintNames ++ r.indexNames) := by
  have makes : r.Quotes [created] r.constraintNames := by
    rw [eq_of_create made]
    exact quotes_createTable .sqlite _ none
  have dropsTemporary : r.Quotes [.dropTable (temporaryName r.table) false]
      [temporaryName r.table] := ⟨fun _ => .inr, fun _ => id⟩
  have pieces := (quotes_copyTable (b := r) (temporaryName r.table)).append
    ((quotes_dropTable false).append (makes.append
      ((quotes_insertFrom (temporaryName r.table)).append
        (dropsTemporary.append (quotes_createIndexes r (ownIndexes r))))))
  refine pieces.congr fun n => ?_
  simp only [indexNames, List.mem_append, List.mem_cons, List.not_mem_nil, or_false, false_or]
  tauto

/-- Seen from the blueprint that is compiled, the columns of the live table are names like
others. -/
theorem quotes_rebuildStatements {r : Blueprint} {created : Statement} (same : r.table = b.table)
    (made : Compile.Sqlite.create r = .ok created) :
    b.Quotes (rebuildStatements b.table (r.columns.map (·.name)) r created) r.remadeNames := by
  have quotes := quotes_remade made
  rw [same] at quotes
  constructor
  · intro n hn
    rcases quotes.only n hn with own | other
    · rcases List.mem_cons.1 own with rfl | column
      · exact .inl (same ▸ List.mem_cons_self)
      · exact .inr (List.mem_append_left _ column)
    · rw [remadeNames, same]
      exact .inr (List.mem_append_right _ other)
  · intro n hn
    rw [remadeNames, same] at hn
    rcases List.mem_append.1 hn with column | other
    · exact List.mem_flatMap.2 ⟨.copyTable (temporaryName b.table) (r.columns.map (·.name)) b.table,
        List.mem_cons_self, List.mem_append_left _ (List.mem_cons_of_mem _ column)⟩
    · exact quotes.all n other

/-- Where nothing is made anew. -/
theorem Quotes.alone {names : List String} (h : b.Quotes ss names) :
    ∃ remade : List Blueprint, (∀ r ∈ remade, b.Remakes session r) ∧
      b.Quotes ss (names ++ remade.flatMap remadeNames) :=
  ⟨[], List.forall_mem_nil _, by rwa [List.flatMap_nil, List.append_nil]⟩

/-- The statements of the one rebuild of a blueprint, if there is something to rebuild. -/
theorem exists_quotes_compileRebuild (sqlite : session.dialect = .sqlite)
    (h : (compileRebuild session b).result x = (.ok ss, x')) :
    ∃ remade : List Blueprint, (∀ r ∈ remade, b.Remakes session r) ∧
      b.Quotes ss (remade.flatMap remadeNames) := by
  unfold compileRebuild at h
  dsimp only at h
  split at h
  · obtain ⟨rfl, -⟩ := DbM.result_pure_eq_ok_iff.1 h
    exact ⟨[], List.forall_mem_nil _, .of_own (List.forall_mem_nil _)⟩
  · obtain ⟨statements, x₁, rebuilt, h⟩ := DbM.result_bind_eq_ok_iff.1 h
    obtain ⟨current, created, read, made, rfl⟩ := rebuild_eq_ok rebuilt
    rw [rebuildDiff_table] at read h
    have table : ((rebuildDiff b).target current).table = b.table := (table_of_result sqlite read).1
    have quotes := quotes_rebuildStatements table made
    rw [TableDiff.names_target] at quotes
    refine ⟨[(rebuildDiff b).target current],
      List.forall_mem_singleton.2 ⟨sqlite, x, x₁, current, read, rfl⟩, ?_⟩
    rw [List.flatMap_singleton]
    split at h
    · obtain ⟨rfl, -⟩ := DbM.result_pure_eq_ok_iff.1 h
      exact quotes
    · obtain ⟨enforced, rfl⟩ := withoutForeignKeys_eq_ok h
      exact quotes.toggled enforced

/-- What the statements of a command quote on SQLite. -/
theorem exists_quotes_compile_sqlite (sqlite : session.dialect = .sqlite) {c : Command}
    (h : (Compile.Sqlite.compile session b c).result x = (.ok ss, x')) :
    ∃ remade : List Blueprint, (∀ r ∈ remade, b.Remakes session r) ∧
      b.Quotes ss (b.brings .sqlite c ++ remade.flatMap remadeNames) := by
  cases c with
  | create =>
    obtain ⟨h, -⟩ := DbM.result_ofExcept_eq_ok_iff.1 h
    obtain ⟨created, made, rfl⟩ := Except.exists_of_map_eq_ok h
    rw [eq_of_create made]
    exact (quotes_createTable .sqlite _ none).alone
  | add =>
    obtain ⟨h, -⟩ := DbM.result_ofExcept_eq_ok_iff.1 h
    obtain ⟨ds, defined, rfl⟩ := Except.exists_of_map_eq_ok h
    rw [eq_of_defineAll defined]
    exact (quotes_additions fun _ => List.mem_of_mem_filter).alone
  | change => exact exists_quotes_compileRebuild sqlite h
  | dropColumns columns =>
    dsimp only [Compile.Sqlite.compile] at h
    split at h
    · exact exists_quotes_compileRebuild sqlite h
    · obtain ⟨rfl, -⟩ := DbM.result_pure_eq_ok_iff.1 h
      exact (Quotes.of_own (List.forall_mem_nil _)).alone
  | renameColumn source target =>
    obtain ⟨enforced, rfl⟩ := withoutForeignKeys_eq_ok h
    exact ((quotes_alteration _).toggled enforced).alone
  | addIndex i =>
    dsimp only [Compile.Sqlite.compile] at h
    unfold Compile.Sqlite.addIndex at h
    split at h
    · rename_i primary
      split at h
      · obtain ⟨rfl, -⟩ := DbM.result_pure_eq_ok_iff.1 h
        rw [brings, if_pos primary]
        exact (Quotes.of_own (List.forall_mem_nil _)).alone
      · cases h
    · rename_i own
      obtain ⟨rfl, -⟩ := DbM.result_pure_eq_ok_iff.1 h
      rw [brings, if_neg own]
      exact (quotes_createIndex _ _ _).alone
  | addForeign fk =>
    dsimp only [Compile.Sqlite.compile] at h
    split at h
    · obtain ⟨rfl, -⟩ := DbM.result_pure_eq_ok_iff.1 h
      exact (Quotes.of_own (List.forall_mem_nil _)).alone
    · cases h
  | drop | dropIfExists =>
    obtain ⟨rfl, -⟩ := DbM.result_pure_eq_ok_iff.1 h
    exact (quotes_dropTable _).alone
  | rename target =>
    obtain ⟨rfl, -⟩ := DbM.result_pure_eq_ok_iff.1 h
    exact (quotes_alteration _).alone
  | dropUnique name | dropIndex name =>
    obtain ⟨rfl, -⟩ := DbM.result_pure_eq_ok_iff.1 h
    exact (quotes_dropIndex name).alone
  | dropPrimary | dropForeign => cases h

/-- What the statements of a command quote. -/
theorem exists_quotes_compile {c : Command} (h : (b.compile session c).result x = (.ok ss, x')) :
    ∃ remade : List Blueprint, (∀ r ∈ remade, b.Remakes session r) ∧
      b.Quotes ss (b.brings session.dialect c ++ remade.flatMap remadeNames) := by
  unfold Blueprint.compile at h
  cases dialect : session.dialect with
  | mySql =>
    rw [dialect] at h
    exact (quotes_compile_mySql (DbM.result_ofExcept_eq_ok_iff.1 h).1).alone
  | postgres =>
    rw [dialect] at h
    exact (quotes_compile_postgres (DbM.result_ofExcept_eq_ok_iff.1 h).1).alone
  | sqlite =>
    rw [dialect] at h
    exact exists_quotes_compile_sqlite dialect h

/-! ## Blueprints -/

/-- What the statements of several commands quote. -/
theorem exists_quotes_compileAll {cs : List Command}
    (h : (b.compileAll session cs).result x = (.ok ss, x')) :
    ∃ remade : List Blueprint, (∀ r ∈ remade, b.Remakes session r) ∧
      b.Quotes ss (cs.flatMap (b.brings session.dialect) ++ remade.flatMap remadeNames) := by
  induction cs generalizing x ss with
  | nil =>
    obtain ⟨rfl, -⟩ := DbM.result_pure_eq_ok_iff.1 h
    exact ⟨[], List.forall_mem_nil _, .of_own (List.forall_mem_nil _)⟩
  | cons c cs ih =>
    obtain ⟨first, x₁, compiled, h⟩ := DbM.result_bind_eq_ok_iff.1 h
    obtain ⟨others, x₂, rest, h⟩ := DbM.result_bind_eq_ok_iff.1 h
    obtain ⟨rfl, rfl⟩ := DbM.result_pure_eq_ok_iff.1 h
    obtain ⟨rs, remakes, quotes⟩ := exists_quotes_compile compiled
    obtain ⟨ts, remakes', quotes'⟩ := ih rest
    refine ⟨rs ++ ts, List.forall_mem_append.2 ⟨remakes, remakes'⟩,
      (quotes.append quotes').congr fun n => ?_⟩
    simp only [List.flatMap_cons, List.flatMap_append, List.mem_append]
    tauto

/-- The SQL of a blueprint is the text of statements, and quotes in them the checked names, those
that commands bring in and those of tables that are made anew. So all of them are valid exactly when
the latter two are, which nothing checks. -/
theorem valid_toSql_iff {sqls : List String} (h : (b.toSql session).result x = (.ok sqls, x')) :
    ∃ (ss : List Statement) (remade : List Blueprint),
      (b.statements session).result x = (.ok ss, x') ∧
      sqls = ss.map (·.render session.dialect) ∧
      (∀ s ∈ ss, ∀ n ∈ s.identifiers,
        Text.Within (session.dialect.wrap n) (s.render session.dialect)) ∧
      (∀ r ∈ remade, b.Remakes session r) ∧
      b.Quotes ss (b.broughtNames session.dialect ++ remade.flatMap remadeNames) ∧
      ((∀ n ∈ quoted ss, Identifier.Valid n) ↔
        ∀ n ∈ b.broughtNames session.dialect ++ remade.flatMap remadeNames,
          Identifier.Valid n) := by
  obtain ⟨ss, compiled, rfl⟩ := toSql_eq_ok_iff.1 h
  obtain ⟨_, x₁, checks, commands⟩ := DbM.result_bind_eq_ok_iff.1 compiled
  obtain ⟨table, columns⟩ := check_eq_ok_iff.1 (DbM.result_ofExcept_eq_ok_iff.1 checks).1
  have own : ∀ n ∈ b.ownNames, Identifier.Valid n :=
    List.forall_mem_cons.2 ⟨table, List.forall_mem_map.2 fun c hc => (columns c hc).1⟩
  obtain ⟨remade, remakes, quotes⟩ := exists_quotes_compileAll commands
  exact ⟨ss, remade, compiled, rfl, fun s _ n hn => s.within_render hn, remakes, quotes,
    quotes.valid_iff own⟩

/-- Votes become a score with an index, and the age is dropped: the names that commands bring in are
valid, and so are those in the catalog of the users. -/
theorem valid_toSql_iff_scoring :
    ∃ sqls ss, (scoring.toSql usersSession).result () = (.ok sqls, ()) ∧
      sqls = ss.map (·.render .sqlite) ∧ ∀ n ∈ quoted ss, Identifier.Valid n := by
  obtain ⟨ss, compiled⟩ := exists_statements (b := scoring) (by decide +kernel)
  have written : (scoring.toSql usersSession).result () = (.ok (ss.map (·.render .sqlite)), ()) :=
    toSql_eq_ok_iff.2 ⟨ss, compiled, rfl⟩
  obtain ⟨current, read, known⟩ := DbM.exists_of_map_result
    (by decide +kernel : ((Catalog.table usersSession "users").result ()).1.toOption.map
      (fun current => decide (∀ n ∈ ((rebuildDiff scoring).target current).remadeNames,
        Identifier.Valid n)) = some true)
  obtain ⟨ss', remade, -, same, -, remakes, -, valid⟩ := valid_toSql_iff written
  refine ⟨_, ss', written, same, valid.2 (List.forall_mem_append.2 ⟨by decide +kernel, ?_⟩)⟩
  intro n hn
  obtain ⟨r, hr, named⟩ := List.mem_flatMap.1 hn
  obtain ⟨-, _, _, current', read', rfl⟩ := remakes r hr
  cases read.symm.trans read'
  exact of_decide_eq_true known n named

/-- A column gets a name without letters. -/
def unnaming : Blueprint := { table := "users", commands := [.renameColumn "name" ""] }

/-- Not all names in statements are valid. -/
theorem not_forall_valid_quoted :
    ¬ ∀ (session : Session Unit) (b : Blueprint) (ss : List Statement),
      (b.statements session).result () = (.ok ss, ()) → ∀ n ∈ quoted ss, Identifier.Valid n := by
  intro all
  have compiled : (unnaming.statements { usersSession with dialect := .mySql }).result () =
      (.ok [.alterTable "users" [.renameColumn "name" ""]], ()) := rfl
  exact absurd (all _ _ _ compiled "" (by decide)) (by decide)

end Blueprint

end SchemaShift
