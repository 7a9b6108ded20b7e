import SchemaShift.Proofs.Dump.Rebuilt

/-!
# When the columns of a catalog are valid

Readers of catalogs take over what is reported about a column: its type, whether it counts up and
whether it is nullable. They put nothing right, except that a column which counts up on SQLite is
never nullable. Nothing else that they read has a bearing on whether a column is valid, and a check
that makes an enum of a text column brings the values along.

Results:
* `Catalog.MySql.report?_of_column`, `Catalog.Postgres.report?_of_column`,
  `Catalog.Sqlite.report?_of_column`: a column says what is reported about it.
* `Catalog.Postgres.valid_applyChecks`: checks leave columns as valid as they were.
* `Catalog.check_columns_iff`: a column is valid exactly when its report is sound, and the step that
  creates the table in a dump has valid columns exactly when all reports are.
* `Catalog.not_forall_valid`: there are reports of every engine that are not sound.
-/

namespace SchemaShift

namespace Catalog

/-! ## Reports -/

/-- What is reported about a column, as far as it has a bearing on whether the column is valid. -/
structure Report where
  type : ColumnType
  /-- The values of an enum. -/
  values : List String
  countsUp : Bool
  nullable : Bool
deriving DecidableEq, Repr

namespace Report

/-- What a type clause says of a column of the type it stands for. -/
def ofClause (spec : TypeSpec) (type : ColumnType) (countsUp nullable : Bool) : Report :=
  { type, values := if type = .enum then spec.args else [], countsUp, nullable }

/-- What a column says about itself. -/
def ofColumn (c : Column) : Report :=
  { type := c.type, values := c.allowed, countsUp := c.autoIncrement, nullable := c.nullable }

/-- What counts up is an integer and not nullable, and an enum has values. -/
def Sound (r : Report) : Prop :=
  (r.countsUp = true → r.type.isInteger = true ∧ r.nullable = false) ∧
    (r.type = .enum → r.values ≠ [])

instance (r : Report) : Decidable r.Sound := by unfold Sound; infer_instance

theorem sound_ofColumn_iff {c : Column} : (ofColumn c).Sound ↔ c.Valid := Iff.rfl

end Report

/-- What a row of MySQL reports about a column, unless its type is unknown. -/
def MySql.report? (row : Row) : Option Report := do
  let spec ← (TypeSpec.ofText (row.text "column_type")).toOption
  let type ← spec.mySqlType?
  return .ofClause spec type
    (Text.contains "auto_increment" (Text.asciiLower (row.text "extra")))
    (row.text? "is_nullable" == some "YES")

/-- What a row of PostgreSQL reports about a column, unless its type is unknown. -/
def Postgres.report? (row : Row) : Option Report := do
  let type ← typeOf? (Text.asciiLower (row.textAt 1))
  return {
    type
    values := []
    countsUp := (row.textAt? 6).any (Text.contains "nextval(")
    nullable := row.textAt? 5 == some "YES" }

/-- The type clause of a row of SQLite with the type it stands for: the hint has a logical one, and
without a hint the declared one is physical. -/
def Sqlite.clause? (hint : ColumnHint) (row : Row) : Option (TypeSpec × ColumnType) :=
  match hint.origin with
  | some origin => (ColumnType.ofName? origin.name).map (origin, ·)
  | none => (TypeSpec.ofText (row.text "type")).toOption.bind fun spec =>
      spec.mySqlType?.map (spec, ·)

/-- What a row of SQLite and the hints of the table's definition report about a column, unless its
type is unknown. -/
def Sqlite.report? (hints : ColumnHints) (row : Row) : Option Report := do
  let hint := (hints.find? (row.text "name")).getD {}
  let (spec, type) ← clause? hint row
  return .ofClause spec type hint.autoIncrement
    (!hint.autoIncrement && row.int? "notnull" = some 0)

/-- What the catalog of a session reports about the columns of a table, in their order. -/
inductive Reports {σ : Type} (session : Session σ) (table : String) (x : σ) :
    List Report → Prop
  | mySql {rows : List Row} {x' : σ} {reports : List Report} (dialect : session.dialect = .mySql)
      (answered : (session.select (Query.columns .mySql session.database table)).result x =
        (.ok rows, x'))
      (read : List.Forall₂ (fun row r => MySql.report? row = some r) rows reports) :
      Reports session table x reports
  | postgres {rows : List Row} {x' : σ} {reports : List Report}
      (dialect : session.dialect = .postgres)
      (answered : (session.select (Query.columns .postgres session.database table)).result x =
        (.ok rows, x'))
      (read : List.Forall₂ (fun row r => Postgres.report? row = some r) rows reports) :
      Reports session table x reports
  | sqlite {hints : ColumnHints} {rows : List Row} {x₁ x' : σ} {reports : List Report}
      (dialect : session.dialect = .sqlite)
      (hinted : (columnHints session table).result x = (.ok hints, x₁))
      (answered : (session.select (Query.columns .sqlite session.database table)).result x₁ =
        (.ok rows, x'))
      (read : List.Forall₂ (fun row r => Sqlite.report? hints row = some r) rows reports) :
      Reports session table x reports

end Catalog

/-! ## Types -/

namespace TypeSpec

theorem allowed_give (spec : TypeSpec) (type : ColumnType) (c : Column) :
    (spec.give type c).allowed = if type = .enum then spec.args else [] := by
  cases type <;> rfl

theorem autoIncrement_give (spec : TypeSpec) (type : ColumnType) (c : Column) :
    (spec.give type c).autoIncrement = c.autoIncrement := by
  unfold give
  split <;> rfl

theorem nullable_give (spec : TypeSpec) (type : ColumnType) (c : Column) :
    (spec.give type c).nullable = c.nullable := by
  unfold give
  split <;> rfl

end TypeSpec

/-- Whether a column refers to another table has no bearing on whether it is valid. -/
theorem Column.Gains.valid_iff {a b : Column} (h : a.Gains b) : b.Valid ↔ a.Valid := by
  rcases h with rfl | ⟨-, role, rfl⟩ <;> exact Iff.rfl

namespace Catalog

theorem Report.ofColumn_give (spec : TypeSpec) (type : ColumnType) (c : Column) :
    ofColumn (spec.give type c) = ofClause spec type c.autoIncrement c.nullable := by
  rw [ofColumn, ofClause, spec.type_give, spec.allowed_give, spec.autoIncrement_give,
    spec.nullable_give]

theorem Report.ofColumn_of_applyMySql? {spec : TypeSpec} {name : String} {typed : Column}
    (h : spec.applyMySql? { name, type := .text } = some typed) :
    ∃ type, spec.mySqlType? = some type ∧ ofColumn typed = ofClause spec type false false := by
  obtain ⟨type, known, rfl⟩ := Option.map_eq_some_iff.1 h
  exact ⟨type, known, ofColumn_give ..⟩

/-! ## Rows -/

theorem MySql.ofColumn_readDefault (c : Column) (text : String) (generated : Bool) :
    Report.ofColumn (readDefault c text generated) = Report.ofColumn c := by
  unfold readDefault
  dsimp only
  repeat' split
  all_goals rfl

/-- On MySQL a column says what its row reports. -/
theorem MySql.report?_of_column {table : String} {row : Row} {c : Column}
    (h : column table row = .ok c) : report? row = some (.ofColumn c) := by
  unfold column at h
  dsimp only at h
  split at h
  · cases h
  · rename_i typed typing
    obtain ⟨spec, clause, applied⟩ := Option.bind_eq_some_iff.1 typing
    obtain ⟨type, known, said⟩ := Report.ofColumn_of_applyMySql? applied
    simp only [report?, clause, known, Option.bind_eq_bind, Option.bind_some, Option.pure_def,
      Option.some_inj]
    generalize (row.text? "is_nullable" == some "YES") = nullable at h ⊢
    split at h
    · rename_i counts
      cases h
      rw [counts]
      exact congrArg (fun r => { r with countsUp := true, nullable }) said.symm
    · rename_i still
      rw [eq_false_of_ne_true still]
      have plain : Report.ofColumn { typed with nullable } = .ofClause spec type false nullable :=
        congrArg (fun r => { r with nullable }) said
      split at h
      · cases h
        exact plain.symm
      · cases h
        rw [ofColumn_readDefault]
        exact plain.symm

theorem Postgres.ofColumn_readDefault (c : Column) (text : String) :
    Report.ofColumn (readDefault c text) = Report.ofColumn c := by
  unfold readDefault
  dsimp only
  repeat' split
  all_goals rfl

theorem Postgres.ofColumn_sized (name : String) (type : ColumnType) (row : Row) :
    Report.ofColumn (sized name type row) =
      { type, values := [], countsUp := false, nullable := false } := by
  unfold sized
  split <;> rfl

/-- On PostgreSQL a column says what its row reports. -/
theorem Postgres.report?_of_column {table : String} {row : Row} {c : Column}
    (h : column table row = .ok c) : report? row = some (.ofColumn c) := by
  unfold column at h
  dsimp only at h
  split at h
  · cases h
  · rename_i type known
    have said := ofColumn_sized (row.textAt 0) type row
    simp only [report?, known, Option.bind_eq_bind, Option.bind_some, Option.pure_def,
      Option.some_inj]
    generalize (row.textAt? 5 == some "YES") = nullable at h ⊢
    have plain : Report.ofColumn { sized (row.textAt 0) type row with nullable } =
        { type, values := [], countsUp := false, nullable } :=
      congrArg (fun r => { r with nullable }) said
    split at h
    · rename_i absent
      cases h
      rw [absent]
      exact plain.symm
    · rename_i text given
      rw [given, Option.any_some]
      split at h
      · rename_i counts
        cases h
        rw [counts]
        exact congrArg (fun r => { r with countsUp := true, nullable }) said.symm
      · rename_i still
        cases h
        rw [eq_false_of_ne_true still, ofColumn_readDefault]
        exact plain.symm

theorem Sqlite.ofColumn_readDefault (c : Column) (text : String) :
    Report.ofColumn (readDefault c text) = Report.ofColumn c := by
  unfold readDefault
  dsimp only
  repeat' split
  all_goals rfl

theorem Sqlite.ofColumn_typed? {row : Row} {hint : ColumnHint} {typed : Column}
    (h : typed? (row.text "name") (row.text "type") hint = some typed) :
    ∃ spec type, clause? hint row = some (spec, type) ∧
      Report.ofColumn typed = .ofClause spec type false false := by
  unfold typed? at h
  unfold clause?
  cases hinted : hint.origin with
  | some origin =>
    rw [hinted] at h
    obtain ⟨type, known, rfl⟩ := Option.map_eq_some_iff.1 h
    refine ⟨origin, type, ?_, Report.ofColumn_give ..⟩
    simp only [known, Option.map_some]
  | none =>
    rw [hinted] at h
    obtain ⟨spec, clause, applied⟩ := Option.bind_eq_some_iff.1 h
    obtain ⟨type, known, said⟩ := Report.ofColumn_of_applyMySql? applied
    refine ⟨spec, type, ?_, said⟩
    simp only [clause, known, Option.bind_some, Option.map_some]

/-- On SQLite a column says what its row and the hints report. -/
theorem Sqlite.report?_of_column {table : String} {hints : ColumnHints} {row : Row} {c : Column}
    (h : column table hints row = .ok c) : report? hints row = some (.ofColumn c) := by
  unfold column at h
  dsimp only at h
  split at h
  · cases h
  · rename_i typed typing
    obtain ⟨spec, type, clause, said⟩ := ofColumn_typed? typing
    simp only [report?, clause, Option.bind_eq_bind, Option.bind_some, Option.pure_def,
      Option.some_inj]
    generalize decide (row.int? "notnull" = some 0) = nullable at h ⊢
    split at h
    · rename_i counts
      cases h
      rw [counts]
      exact congrArg (fun r => { r with countsUp := true, nullable := false }) said.symm
    · rename_i still
      rw [eq_false_of_ne_true still]
      split at h
      · cases h
        exact congrArg (fun r => { r with nullable }) said.symm
      · cases h
        rw [ofColumn_readDefault]
        exact congrArg (fun r => { r with nullable }) said.symm

/-! ## Checks -/

theorem Postgres.forall₂_changeFirst {α : Type} {p : α → Bool} {f : α → α} {R : α → α → Prop}
    (refl : ∀ a, R a a) (changed : ∀ a, p a = true → R a (f a)) (as : List α) :
    List.Forall₂ R as (changeFirst p f as) := by
  induction as with
  | nil => exact .nil
  | cons a as ih =>
    unfold changeFirst
    split
    · rename_i first
      exact .cons (changed a first) (List.forall₂_same.2 fun a _ => refl a)
    · exact .cons (refl a) ih

/-- A text column is as valid as an enum of some values: it is if it does not count up. -/
theorem Postgres.valid_asEnum {name : String} {c : Column} {allowed : List String}
    (guarded : isGuarded name c = true) (filled : allowed ≠ []) :
    (asEnum allowed c).Valid ↔ c.Valid := by
  obtain ⟨-, string⟩ : c.name = name ∧ c.type = .string := by
    simpa [isGuarded] using guarded
  simp [Column.Valid, asEnum, string, filled, ColumnType.isInteger]

section

variable {R : Column → Column → Prop} (refl : ∀ c, R c c)
  (enum : ∀ name allowed c, Postgres.isGuarded name c = true → allowed ≠ [] →
    R c (Postgres.asEnum allowed c))

include refl enum

theorem Postgres.forall₂_applyCheck (columns : List Column) (row : Row) :
    List.Forall₂ R columns (applyCheck columns row) := by
  have same : List.Forall₂ R columns columns := List.forall₂_same.2 fun c _ => refl c
  -- every way out but the one behind all tests leaves the columns alone
  unfold applyCheck
  split
  · exact same
  · split
    · exact same
    · split
      · exact same
      · rename_i tokens _
        dsimp only
        split
        · rename_i name _
          split
          · exact same
          · rename_i filled
            have values : tokens.filterMap literal? ≠ [] := by simpa using filled
            exact forall₂_changeFirst refl (fun c guarded => enum name _ c guarded values) columns
        · exact same

/-- What making an enum of a column keeps is kept by all checks. -/
theorem Postgres.forall₂_applyChecks (trans : ∀ {a b c}, R a b → R b c → R a c)
    (columns : List Column) (rows : List Row) :
    List.Forall₂ R columns (applyChecks columns rows) := by
  induction rows generalizing columns with
  | nil => exact List.forall₂_same.2 fun c _ => refl c
  | cons row rows ih =>
    exact forall₂_trans trans (forall₂_applyCheck refl enum columns row)
      (ih (applyCheck columns row))

end

/-- Checks leave columns as valid as they were. -/
theorem Postgres.valid_applyChecks (columns : List Column) (rows : List Row) :
    List.Forall₂ (fun c c' => c'.Valid ↔ c.Valid) columns (applyChecks columns rows) :=
  forall₂_applyChecks (R := fun c c' => c'.Valid ↔ c.Valid) (fun _ => Iff.rfl)
    (fun _ _ _ guarded filled => valid_asEnum guarded filled)
    (fun first others => others.trans first) columns rows

/-! ## Columns -/

section

variable {σ : Type} {session : Session σ} {table : String} {x x' : σ} {cs : List Column}

theorem forall₂_ofColumn {rows : List Row} {read : Row → Except Error Column}
    {report? : Row → Option Report}
    (each : ∀ row c, read row = .ok c → report? row = some (.ofColumn c))
    (h : rows.mapM read = .ok cs) :
    List.Forall₂ (fun row r => report? row = some r) rows (cs.map .ofColumn) :=
  List.forall₂_map_right_iff.2 ((Except.mapM_eq_ok_iff.1 h).imp each)

/-- The columns of a table are as valid as what the catalog reports about them is sound. -/
theorem exists_reports (h : (columns session table).result x = (.ok cs, x')) :
    ∃ reports, Reports session table x reports ∧
      List.Forall₂ (fun c r => c.Valid ↔ r.Sound) cs reports := by
  have said (cs : List Column) :
      List.Forall₂ (fun c r => c.Valid ↔ r.Sound) cs (cs.map Report.ofColumn) :=
    List.forall₂_map_right_iff.2
      (List.forall₂_same.2 fun _ _ => Report.sound_ofColumn_iff.symm)
  unfold columns at h
  cases dialect : session.dialect with
  | mySql =>
    rw [dialect] at h
    obtain ⟨rows, x₁, answered, h⟩ := DbM.result_bind_eq_ok_iff.1 h
    obtain ⟨read, -⟩ := DbM.result_ofExcept_eq_ok_iff.1 h
    exact ⟨_, .mySql dialect answered
      (forall₂_ofColumn (fun _ _ => MySql.report?_of_column) read), said cs⟩
  | postgres =>
    rw [dialect] at h
    obtain ⟨rows, x₁, answered, h⟩ := DbM.result_bind_eq_ok_iff.1 h
    obtain ⟨cs', x₂, typed, h⟩ := DbM.result_bind_eq_ok_iff.1 h
    obtain ⟨read, -⟩ := DbM.result_ofExcept_eq_ok_iff.1 typed
    refine ⟨_, .postgres dialect answered
      (forall₂_ofColumn (fun _ _ => Postgres.report?_of_column) read), ?_⟩
    -- the reports are those of the rows, whether or not checks are asked for as well
    split at h
    · obtain ⟨checks, x₃, -, h⟩ := DbM.result_bind_eq_ok_iff.1 h
      obtain ⟨rfl, -⟩ := DbM.result_pure_eq_ok_iff.1 h
      exact List.forall₂_map_right_iff.2 (Postgres.valid_applyChecks cs' checks).flip
    · obtain ⟨rfl, -⟩ := DbM.result_pure_eq_ok_iff.1 h
      exact said cs'
  | sqlite =>
    rw [dialect] at h
    obtain ⟨hints, x₁, hinted, h⟩ := DbM.result_bind_eq_ok_iff.1 h
    obtain ⟨rows, x₂, answered, h⟩ := DbM.result_bind_eq_ok_iff.1 h
    obtain ⟨read, -⟩ := DbM.result_ofExcept_eq_ok_iff.1 h
    exact ⟨_, .sqlite dialect hinted answered
      (forall₂_ofColumn (fun _ _ => Sqlite.report?_of_column) read), said cs⟩

/-- A table read from the catalog has columns that are as valid as those read by themselves. -/
theorem valid_table {b : Blueprint} {x'' : σ} (h : (columns session table).result x = (.ok cs, x'))
    (described : (Catalog.table session table).result x = (.ok b, x'')) :
    List.Forall₂ (fun c c' => c'.Valid ↔ c.Valid) cs b.columns := by
  unfold Catalog.table at described
  obtain ⟨cs', x₁, again, described⟩ := DbM.result_bind_eq_ok_iff.1 described
  rw [h] at again
  cases again
  split at described
  · cases described
  · obtain ⟨indexes, x₂, -, described⟩ := DbM.result_bind_eq_ok_iff.1 described
    obtain ⟨keys, x₃, -, described⟩ := DbM.result_bind_eq_ok_iff.1 described
    obtain ⟨rfl, -⟩ := DbM.result_pure_eq_ok_iff.1 described
    exact (Blueprint.gains_canonical (ofParts table cs indexes keys)).imp
      fun _ _ gain => gain.valid_iff

end

end Catalog

/-- The step that creates a table in a dump has the columns of the table. -/
theorem Dump.perm_create_plan (options : Options) (b : Blueprint) :
    (plan options b).create.columns.Perm b.columns := by
  rw [TablePlan.create, TablePlan.columns_apply]
  unfold plan
  cases options.order with
  | priority => exact sortedColumns_perm b b.columns
  | catalog => exact .refl _

/-- What is as true of the elements of one list as of those of another. -/
theorem forall_mem_iff_of_forall₂ {α β : Type} {P : α → Prop} {Q : β → Prop} {as : List α}
    {bs : List β} (h : List.Forall₂ (fun a b => P a ↔ Q b) as bs) :
    (∀ a ∈ as, P a) ↔ ∀ b ∈ bs, Q b := by
  induction h with
  | nil => simp
  | cons first _ ih => rw [List.forall_mem_cons, List.forall_mem_cons, first, ih]

namespace Catalog

/-- A column of a table is valid exactly when what the catalog reports about it is sound, and the
step that creates the table in a dump has valid columns exactly when all reports are sound. -/
theorem check_columns_iff {σ : Type} {session : Session σ} {table : String} {x x' : σ}
    {cs : List Column} (h : (columns session table).result x = (.ok cs, x')) :
    ∃ reports, Reports session table x reports ∧
      List.Forall₂ (fun c r => c.check = .ok () ↔ r.Sound) cs reports ∧
      ∀ (options : Dump.Options) (b : Blueprint) (x'' : σ),
        (Catalog.table session table).result x = (.ok b, x'') →
        ((∀ c ∈ (Dump.plan options b).create.columns, c.check = .ok ()) ↔
          ∀ r ∈ reports, r.Sound) := by
  obtain ⟨reports, reported, sound⟩ := exists_reports h
  refine ⟨reports, reported, ?_, ?_⟩
  · simpa only [Column.check_eq_ok_iff] using sound
  · intro options b x'' described
    simp only [Column.check_eq_ok_iff, (Dump.perm_create_plan options b).mem_iff]
    exact (forall_mem_iff_of_forall₂ (valid_table h described).flip).trans
      (forall_mem_iff_of_forall₂ sound)

/-! ## Counters -/

/-- What catalogs answer about a column that counts up: a short one for truth values on MySQL, one
that may be null on PostgreSQL and one whose comment says that it holds truth values on SQLite. -/
def counterAnswers : Dialect → List (String × List Row)
  | .mySql =>
    [(Query.columns .mySql "main" "counters",
      [.ofPairs
        [("column_name", .text "n"), ("column_type", .text "tinyint(1)"),
          ("is_nullable", .text "NO"), ("column_default", .null),
          ("extra", .text "auto_increment")]])]
  | .postgres =>
    [(Query.columns .postgres "main" "counters",
      [.ofTuple
        [.text "n", .text "integer", .null, .null, .null, .text "YES",
          .text "nextval('counters_n_seq'::regclass)", .text "int4"]])]
  | .sqlite =>
    [(Query.definition "counters",
      [.ofPairs
        [("sql", .text
          "CREATE TABLE counters (n INTEGER /*boolean*/ NOT NULL PRIMARY KEY AUTOINCREMENT)")]]),
    (Query.columns .sqlite "main" "counters",
      [.ofPairs
        [("name", .text "n"), ("type", .text "INTEGER"), ("notnull", .integer 1),
          ("dflt_value", .null), ("pk", .integer 1)]])]

/-- A session whose catalog knows one counter. -/
def counters (d : Dialect) : Session Unit :=
  { Session.answering (counterAnswers d) with dialect := d }

theorem exists_columns_counters (d : Dialect) :
    ∃ cs, (columns (counters d) "counters").result () = (.ok cs, ()) ∧ ¬ ∀ c ∈ cs, c.Valid := by
  have invalid : ((columns (counters d) "counters").result ()).1.toOption.map
      (fun cs => decide (∀ c ∈ cs, c.Valid)) = some false := by
    cases d <;> decide +kernel
  obtain ⟨cs, read, not_all⟩ := DbM.exists_of_map_result invalid
  exact ⟨cs, read, of_decide_eq_false not_all⟩

/-- What is reported about a counter that may be null is not sound, and neither its column nor the
one that a dump makes of it is valid. -/
theorem check_columns_iff_counters :
    ∃ cs reports b, (columns (counters .postgres) "counters").result () = (.ok cs, ()) ∧
      Reports (counters .postgres) "counters" () reports ∧
      List.Forall₂ (fun c r => c.check = .ok () ↔ r.Sound) cs reports ∧
      (¬ ∀ r ∈ reports, r.Sound) ∧
      (Catalog.table (counters .postgres) "counters").result () = (.ok b, ()) ∧
      ¬ ∀ c ∈ (Dump.plan {} b).create.columns, c.check = .ok () := by
  obtain ⟨cs, read, invalid⟩ := exists_columns_counters .postgres
  obtain ⟨b, described, -⟩ := DbM.exists_of_map_result
    (by decide +kernel : ((Catalog.table (counters .postgres) "counters").result
      ()).1.toOption.map (·.table) = some "counters")
  obtain ⟨reports, reported, sound, dumped⟩ := check_columns_iff read
  have unsound : ¬ ∀ r ∈ reports, r.Sound := by
    rw [← forall_mem_iff_of_forall₂ sound]
    exact fun valid => invalid fun c hc => Column.check_eq_ok_iff.1 (valid c hc)
  exact ⟨cs, reports, b, read, reported, sound, unsound, described,
    (dumped {} b () described).not.2 unsound⟩

/-- No reader of a catalog returns valid columns only. -/
theorem not_forall_valid :
    ¬ ∃ d : Dialect, ∀ (session : Session Unit) (table : String) (cs : List Column),
      session.dialect = d → (columns session table).result () = (.ok cs, ()) →
      ∀ c ∈ cs, c.check = .ok () := by
  rintro ⟨d, all⟩
  obtain ⟨cs, read, invalid⟩ := exists_columns_counters d
  exact invalid fun c hc => Column.check_eq_ok_iff.1 (all (counters d) _ _ rfl read c hc)

end Catalog

end SchemaShift
