import SchemaShift.Proofs.Catalog.Literals
import SchemaShift.Proofs.Catalog.Valid

/-!
# The defaults of text columns

Catalogs report a text default each in their own way: MySQL the text alone, PostgreSQL a literal
with a cast behind it, SQLite a literal. On SQLite every text is read back as itself, and on
PostgreSQL every one that does not name a sequence. On MySQL a text cannot be told from what is no
text: MariaDB reports `NULL` where there is no default and quotes literals, so a default that says
`NULL`, and one that starts with a quote, are read as MariaDB would mean them.

Results:
* `MySql.exists_of_column`, `Postgres.exists_of_column`, `Sqlite.exists_of_column`: the default of a
  row is read into a column that has none yet.
* `textDefault_of_column`: what the default of a text column is read as.
* `exists_columns_textDefaults`: the columns of a table are read, each with the default that its row
  reports.
* `not_forall_textDefault`: a text that says `NULL` is lost.
-/

namespace SchemaShift

/-- A column that has no default yet, not even the current time, and does not count up. -/
def Column.IsFresh (c : Column) : Prop :=
  c.default = none ∧ c.useCurrent = false ∧ c.autoIncrement = false

theorem TypeSpec.isFresh_give {c : Column} (h : c.IsFresh) (spec : TypeSpec) (type : ColumnType) :
    (spec.give type c).IsFresh := by
  unfold give
  split <;> exact h

theorem TypeSpec.isFresh_of_applyMySql? {spec : TypeSpec} {name : String} {typed : Column}
    (h : spec.applyMySql? { name, type := .text } = some typed) : typed.IsFresh := by
  obtain ⟨type, -, rfl⟩ := Option.map_eq_some_iff.1 h
  exact isFresh_give ⟨rfl, rfl, rfl⟩ spec type

namespace Catalog

/-! ## What rows report -/

/-- The types of columns that hold texts. -/
def textTypes : List ColumnType := [.string, .char, .text, .mediumText, .longText]

/-- The casts behind the default of a text column on PostgreSQL. -/
def textCasts : List String := ["::character varying", "::text"]

/-- What a row reports about a column, unless its type is unknown. -/
def report? (d : Dialect) (hints : ColumnHints) (row : Row) : Option Report :=
  match d with
  | .mySql => MySql.report? row
  | .postgres => Postgres.report? row
  | .sqlite => Sqlite.report? hints row

/-- A row reports a text as its default, in the way of its engine. -/
def ReportsText (d : Dialect) (hints : ColumnHints) (row : Row) (s : String) : Prop :=
  match d with
  | .mySql =>
    row.text? "column_default" = some s ∧
      Text.contains "auto_increment" (Text.asciiLower (row.text "extra")) = false ∧
        Text.contains "default_generated" (Text.asciiLower (row.text "extra")) = false
  | .postgres => ∃ cast ∈ textCasts, row.textAt? 6 = some (Text.quoteLiteral s ++ cast)
  | .sqlite =>
    row.text? "dflt_value" = some (Text.quoteLiteral s) ∧
      ((hints.find? (row.text "name")).getD {}).autoIncrement = false

/-- The column that a row describes. -/
def readColumn (d : Dialect) (hints : ColumnHints) (table : String) (row : Row) :
    Except Error Column :=
  match d with
  | .mySql => MySql.column table row
  | .postgres => Postgres.column table row
  | .sqlite => Sqlite.column table hints row

variable {d : Dialect} {hints : ColumnHints} {table : String} {row : Row} {c : Column}

theorem report?_of_readColumn (read : readColumn d hints table row = .ok c) :
    report? d hints row = some (.ofColumn c) := by
  cases d with
  | mySql => exact MySql.report?_of_column read
  | postgres => exact Postgres.report?_of_column read
  | sqlite => exact Sqlite.report?_of_column read

/-- What a clause stands for is the type of a column. -/
theorem Sqlite.exists_typed? {hint : ColumnHint} {spec : TypeSpec} {type : ColumnType}
    (clause : clause? hint row = some (spec, type)) :
    ∃ typed, typed? (row.text "name") (row.text "type") hint = some typed := by
  unfold clause? at clause
  unfold typed?
  cases hinted : hint.origin with
  | some origin =>
    rw [hinted] at clause
    obtain ⟨type, known, -⟩ := Option.map_eq_some_iff.1 clause
    exact ⟨_, Option.map_eq_some_iff.2 ⟨type, known, rfl⟩⟩
  | none =>
    rw [hinted] at clause
    obtain ⟨spec, physical, clause⟩ := Option.bind_eq_some_iff.1 clause
    obtain ⟨type, known, -⟩ := Option.map_eq_some_iff.1 clause
    exact ⟨_, Option.bind_eq_some_iff.2
      ⟨spec, physical, Option.map_eq_some_iff.2 ⟨type, known, rfl⟩⟩⟩

/-- A row whose type is known describes a column. -/
theorem exists_readColumn {r : Report} (known : report? d hints row = some r) (table : String) :
    ∃ c, readColumn d hints table row = .ok c := by
  cases d with
  | mySql =>
    obtain ⟨spec, clause, known⟩ := Option.bind_eq_some_iff.1 known
    obtain ⟨type, known, -⟩ := Option.bind_eq_some_iff.1 known
    have typed : ∃ typed, spec.applyMySql? { name := row.text "column_name", type := .text } =
        some typed := ⟨_, by rw [TypeSpec.applyMySql?, known]; rfl⟩
    obtain ⟨typed, applied⟩ := typed
    simp only [readColumn, MySql.column, clause, Option.bind_some, applied]
    split
    · exact ⟨_, rfl⟩
    · split <;> exact ⟨_, rfl⟩
  | postgres =>
    obtain ⟨type, known, -⟩ := Option.bind_eq_some_iff.1 known
    simp only [readColumn, Postgres.column, known]
    split
    · exact ⟨_, rfl⟩
    · split <;> exact ⟨_, rfl⟩
  | sqlite =>
    obtain ⟨⟨spec, type⟩, clause, -⟩ := Option.bind_eq_some_iff.1 known
    obtain ⟨typed, typing⟩ := Sqlite.exists_typed? clause
    simp only [readColumn, Sqlite.column, typing]
    split
    · exact ⟨_, rfl⟩
    · split <;> exact ⟨_, rfl⟩

/-! ## Defaults -/

theorem MySql.exists_of_column {text : String} (read : column table row = .ok c)
    (given : row.text? "column_default" = some text)
    (still : Text.contains "auto_increment" (Text.asciiLower (row.text "extra")) = false) :
    ∃ c₀ : Column, c₀.IsFresh ∧ c = readDefault c₀ text
      (Text.contains "default_generated" (Text.asciiLower (row.text "extra"))) := by
  unfold column at read
  dsimp only at read
  split at read
  · cases read
  rename_i typed typing
  obtain ⟨spec, -, applied⟩ := Option.bind_eq_some_iff.1 typing
  have fresh := TypeSpec.isFresh_of_applyMySql? applied
  rw [still, if_neg Bool.false_ne_true, given] at read
  refine ⟨_, ?_, (Except.ok.inj read).symm⟩
  exact fresh

theorem Postgres.exists_of_column {text : String} (read : column table row = .ok c)
    (given : row.textAt? 6 = some text) (still : Text.contains "nextval(" text = false) :
    ∃ c₀ : Column, c₀.IsFresh ∧ c = readDefault c₀ text := by
  unfold column at read
  dsimp only at read
  split at read
  · cases read
  rename_i type known
  have fresh : (sized (row.textAt 0) type row).IsFresh := by
    unfold sized
    split <;> exact ⟨rfl, rfl, rfl⟩
  rw [given] at read
  dsimp only at read
  rw [still, if_neg Bool.false_ne_true] at read
  refine ⟨_, ?_, (Except.ok.inj read).symm⟩
  exact fresh

theorem Sqlite.exists_of_column {text : String} (read : column table hints row = .ok c)
    (given : row.text? "dflt_value" = some text)
    (still : ((hints.find? (row.text "name")).getD {}).autoIncrement = false) :
    ∃ c₀ : Column, c₀.IsFresh ∧ c = readDefault c₀ text := by
  unfold column at read
  dsimp only at read
  split at read
  · cases read
  rename_i typed typing
  have fresh : typed.IsFresh := by
    unfold typed? at typing
    split at typing
    · obtain ⟨type, -, rfl⟩ := Option.map_eq_some_iff.1 typing
      exact TypeSpec.isFresh_give ⟨rfl, rfl, rfl⟩ _ _
    · obtain ⟨spec, -, applied⟩ := Option.bind_eq_some_iff.1 typing
      exact TypeSpec.isFresh_of_applyMySql? applied
  rw [still, if_neg Bool.false_ne_true, given] at read
  refine ⟨_, ?_, (Except.ok.inj read).symm⟩
  exact fresh

theorem MySql.useCurrent_readDefault (plain : c.type.isTemporal = false) (text : String)
    (generated : Bool) : (readDefault c text generated).useCurrent = c.useCurrent := by
  unfold readDefault
  simp only [plain, Bool.false_and, Bool.false_eq_true, if_false]
  repeat' split
  all_goals rfl

/-- What the default of a text column is read as: the text itself, unless MySQL takes it for what
MariaDB reports. On PostgreSQL a text that names a sequence is left aside. -/
theorem textDefault_of_column {s : String} (read : readColumn d hints table row = .ok c)
    (text : c.type ∈ textTypes) (reported : ReportsText d hints row s)
    (plain : d = .postgres → Text.contains "nextval(" s = false) :
    c.autoIncrement = false ∧ c.useCurrent = false ∧
      (c.default = some (.text s) ↔ (d = .mySql → Text.ReadsBare s)) := by
  have kind : c.type.isNumeric = false ∧ c.type.isTemporal = false := by
    have all : ∀ t ∈ textTypes, t.isNumeric = false ∧ t.isTemporal = false := by decide
    exact all _ text
  cases d with
  | mySql =>
    obtain ⟨given, still, literal⟩ := reported
    obtain ⟨c₀, fresh, rfl⟩ := MySql.exists_of_column read given still
    have said := MySql.ofColumn_readDefault c₀ s false
    rw [literal] at kind ⊢
    have type : (MySql.readDefault c₀ s false).type = c₀.type := congrArg Report.type said
    have counts : (MySql.readDefault c₀ s false).autoIncrement = c₀.autoIncrement :=
      congrArg Report.countsUp said
    rw [type] at kind
    rw [counts, MySql.useCurrent_readDefault kind.2,
      MySql.default_readDefault_iff kind.1 kind.2 fresh.1]
    exact ⟨fresh.2.2, fresh.2.1, by simp⟩
  | postgres =>
    obtain ⟨cast, known, given⟩ := reported
    have apart : cast.toList.head? ≠ some '\'' ∧ Text.contains "nextval(" cast = false := by
      have all : ∀ cast ∈ textCasts, cast.toList.head? ≠ some '\'' ∧
        Text.contains "nextval(" cast = false := by decide
      exact all _ known
    have still : Text.contains "nextval(" (Text.quoteLiteral s ++ cast) = false := by
      rw [Text.contains_quoteLiteral_append (by decide) (by decide), plain rfl, apart.2]
      rfl
    obtain ⟨c₀, fresh, rfl⟩ := Postgres.exists_of_column read given still
    rw [Postgres.readDefault_quoteLiteral c₀ s apart.1] at kind ⊢
    simp [fresh.2.2, fresh.2.1, DefaultValue.ofLiteral_eq_text kind.1]
  | sqlite =>
    obtain ⟨given, still⟩ := reported
    obtain ⟨c₀, fresh, rfl⟩ := Sqlite.exists_of_column read given still
    rw [Sqlite.readDefault_quoteLiteral] at kind ⊢
    simp [fresh.2.2, fresh.2.1, DefaultValue.ofLiteral_eq_text kind.1]

/-! ## Columns of a table -/

/-- The rows that the catalog of a session answers for the columns of a table, with the hints of
its definition on SQLite. On PostgreSQL the checks of the table are answered as well. -/
inductive Answers {σ : Type} (session : Session σ) (table : String) (x : σ) :
    ColumnHints → List Row → Prop
  | mySql {rows : List Row} {x' : σ} (dialect : session.dialect = .mySql)
      (answered : (session.select (Query.columns .mySql session.database table)).result x =
        (.ok rows, x')) :
      Answers session table x [] rows
  | postgres {rows checks : List Row} {x₁ x' : σ} (dialect : session.dialect = .postgres)
      (answered : (session.select (Query.columns .postgres session.database table)).result x =
        (.ok rows, x₁))
      (checked : (session.select (Query.checks table)).result x₁ = (.ok checks, x')) :
      Answers session table x [] rows
  | sqlite {hints : ColumnHints} {rows : List Row} {x₁ x' : σ} (dialect : session.dialect = .sqlite)
      (hinted : (columnHints session table).result x = (.ok hints, x₁))
      (answered : (session.select (Query.columns .sqlite session.database table)).result x₁ =
        (.ok rows, x')) :
      Answers session table x hints rows

/-- A check that makes an enum of a column leaves what it defaults to. -/
def SameDefault (c c' : Column) : Prop :=
  c'.autoIncrement = c.autoIncrement ∧ c'.useCurrent = c.useCurrent ∧ c'.default = c.default

theorem SameDefault.trans {a b c : Column} (first : SameDefault a b) (second : SameDefault b c) :
    SameDefault a c :=
  ⟨second.1.trans first.1, second.2.1.trans first.2.1, second.2.2.trans first.2.2⟩

/-- Rows whose types are known describe columns. -/
theorem exists_mapM_readColumn {rows : List Row}
    (known : ∀ row ∈ rows, (report? d hints row).isSome) (table : String) :
    ∃ cs, rows.mapM (readColumn d hints table) = .ok cs ∧
      List.Forall₂ (fun row c => readColumn d hints table row = .ok c) rows cs := by
  have all : ∃ cs, List.Forall₂ (fun row c => readColumn d hints table row = .ok c) rows cs := by
    induction rows with
    | nil => exact ⟨[], .nil⟩
    | cons row rows ih =>
      obtain ⟨first, others⟩ := List.forall_mem_cons.1 known
      obtain ⟨r, hr⟩ := Option.isSome_iff_exists.1 first
      obtain ⟨c, read⟩ := exists_readColumn hr table
      obtain ⟨cs, rest⟩ := ih others
      exact ⟨c :: cs, .cons read rest⟩
  obtain ⟨cs, all⟩ := all
  exact ⟨cs, Except.mapM_eq_ok_iff.2 all, all⟩

section

variable {σ : Type} {session : Session σ} {x : σ} {rows : List Row}

/-- Where all is answered and all types are known, the columns of a table are those that its rows
describe, but for checks that make enums of some. -/
theorem exists_columns (answered : Answers session table x hints rows)
    (known : ∀ row ∈ rows, (report? session.dialect hints row).isSome) :
    ∃ read cs x', List.Forall₂ (fun row c => readColumn session.dialect hints table row = .ok c)
        rows read ∧
      (columns session table).result x = (.ok cs, x') ∧ List.Forall₂ SameDefault read cs := by
  have same (cs : List Column) : List.Forall₂ SameDefault cs cs :=
    List.forall₂_same.2 fun _ _ => ⟨rfl, rfl, rfl⟩
  obtain ⟨read, mapped, all⟩ := exists_mapM_readColumn known table
  refine ⟨read, ?_⟩
  unfold columns
  cases answered with
  | mySql dialect answered =>
    rw [dialect] at mapped all ⊢
    exact ⟨read, _, all, DbM.result_bind_eq_ok_iff.2
      ⟨_, _, answered, DbM.result_ofExcept_eq_ok_iff.2 ⟨mapped, rfl⟩⟩, same read⟩
  | @postgres _ checks x₁ x' dialect answered checked =>
    rw [dialect] at mapped all ⊢
    have typed {x₁ : σ} : (DbM.ofExcept (rows.mapM (Postgres.column table)) : DbM σ _).result x₁ =
        (.ok read, x₁) := DbM.result_ofExcept_eq_ok_iff.2 ⟨mapped, rfl⟩
    by_cases asked : (read.any fun c => c.type == .string) = true
    · refine ⟨Postgres.applyChecks read checks, x', all, DbM.result_bind_eq_ok_iff.2
        ⟨_, _, answered, DbM.result_bind_eq_ok_iff.2 ⟨_, _, typed, ?_⟩⟩, ?_⟩
      · rw [if_pos asked]
        exact DbM.result_bind_eq_ok_iff.2 ⟨_, _, checked, rfl⟩
      · exact Postgres.forall₂_applyChecks (R := SameDefault) (fun _ => ⟨rfl, rfl, rfl⟩)
          (fun _ _ _ _ _ => ⟨rfl, rfl, rfl⟩) SameDefault.trans read checks
    · refine ⟨read, x₁, all, DbM.result_bind_eq_ok_iff.2
        ⟨_, _, answered, DbM.result_bind_eq_ok_iff.2 ⟨_, _, typed, ?_⟩⟩, same read⟩
      rw [if_neg asked]
      rfl
  | sqlite dialect hinted answered =>
    rw [dialect] at mapped all ⊢
    exact ⟨read, _, all, DbM.result_bind_eq_ok_iff.2 ⟨_, _, hinted, DbM.result_bind_eq_ok_iff.2
      ⟨_, _, answered, DbM.result_ofExcept_eq_ok_iff.2 ⟨mapped, rfl⟩⟩⟩, same read⟩

/-- The columns of a table are read, and those of text whose rows report a text as their default
neither count up nor use the current time. The default is the text itself, unless MySQL takes it
for what MariaDB reports; on PostgreSQL a text that names a sequence is left aside. -/
theorem exists_columns_textDefaults (answered : Answers session table x hints rows)
    (known : ∀ row ∈ rows, (report? session.dialect hints row).isSome) :
    ∃ cs x', (columns session table).result x = (.ok cs, x') ∧
      List.Forall₂ (fun row c => ∀ r s, report? session.dialect hints row = some r →
        r.type ∈ textTypes → ReportsText session.dialect hints row s →
        (session.dialect = .postgres → Text.contains "nextval(" s = false) →
          c.autoIncrement = false ∧ c.useCurrent = false ∧
            (c.default = some (.text s) ↔ (session.dialect = .mySql → Text.ReadsBare s)))
        rows cs := by
  obtain ⟨read, cs, x', all, result, kept⟩ := exists_columns answered known
  refine ⟨cs, x', result, (forall₂_exists_iff.2 ⟨read, all, kept⟩).imp ?_⟩
  rintro row c' ⟨c, readRow, counts, current, default⟩ r s typed text reported plain
  have said := report?_of_readColumn readRow
  rw [typed] at said
  cases said
  rw [counts, current, default]
  exact textDefault_of_column readRow text reported plain

end

/-! ## Notes -/

/-- A row that reports a text as the default of a column `body`, on MySQL without quotes and on the
others as a literal. -/
def bodyRow (d : Dialect) (s : String) : Row :=
  match d with
  | .mySql =>
    .ofPairs
      [("column_name", .text "body"), ("column_type", .text "varchar(40)"),
        ("is_nullable", .text "YES"), ("column_default", .text s), ("extra", .text "")]
  | .postgres =>
    .ofTuple
      [.text "body", .text "character varying", .integer 40, .null, .null, .text "YES",
        .text (Text.quoteLiteral s ++ "::character varying"), .text "varchar"]
  | .sqlite =>
    .ofPairs
      [("name", .text "body"), ("type", .text "VARCHAR(40)"), ("notnull", .integer 0),
        ("dflt_value", .text (Text.quoteLiteral s)), ("pk", .integer 0)]

/-- What the row reports about the column. -/
def bodyReport : Report := { type := .string, values := [], countsUp := false, nullable := true }

/-- A session whose catalog knows one table with that column. -/
def notes (d : Dialect) (s : String) : Session Unit :=
  { Session.answering [(Query.columns d "main" "notes", [bodyRow d s])] with dialect := d }

/-- A text with a quote and two markers in it is read back from PostgreSQL. -/
theorem exists_columns_textDefaults_notes :
    ∃ c x', (columns (notes .postgres "it's NULL::text") "notes").result () = (.ok [c], x') ∧
      c.autoIncrement = false ∧ c.useCurrent = false ∧
        c.default = some (.text "it's NULL::text") := by
  have rows : ((notes .postgres "it's NULL::text").select
      (Query.columns .postgres "main" "notes")).result () =
        (.ok [bodyRow .postgres "it's NULL::text"], ()) := by decide +kernel
  have checks : ((notes .postgres "it's NULL::text").select (Query.checks "notes")).result () =
      (.ok [], ()) := by decide +kernel
  obtain ⟨cs, x', result, all⟩ :=
    exists_columns_textDefaults (.postgres rfl rows checks) (by decide +kernel)
  obtain ⟨c, others, first, rest, rfl⟩ := List.forall₂_cons_left_iff.1 all
  cases rest
  have reported : ReportsText .postgres [] (bodyRow .postgres "it's NULL::text")
      "it's NULL::text" := ⟨"::character varying", by decide, by decide +kernel⟩
  obtain ⟨counts, current, default⟩ := first bodyReport _ (by decide +kernel) (by decide) reported
    (fun _ => by decide +kernel)
  exact ⟨c, x', result, counts, current, default.2 nofun⟩

/-- A text that says `NULL` is lost on MySQL. -/
theorem not_forall_textDefault :
    ¬ ∀ (session : Session Unit) (table : String) (hints : ColumnHints) (rows : List Row),
      Answers session table () hints rows →
      (∀ row ∈ rows, (report? session.dialect hints row).isSome) →
        ∃ cs x', (columns session table).result () = (.ok cs, x') ∧
          List.Forall₂ (fun row c => ∀ r s, report? session.dialect hints row = some r →
            r.type ∈ textTypes → ReportsText session.dialect hints row s →
              c.default = some (.text s) ∧ c.autoIncrement = false ∧ c.useCurrent = false)
            rows cs := by
  intro reads
  have rows : ((notes .mySql "NULL").select (Query.columns .mySql "main" "notes")).result () =
      (.ok [bodyRow .mySql "NULL"], ()) := by decide +kernel
  obtain ⟨cs, x', result, all⟩ :=
    reads (notes .mySql "NULL") "notes" [] _ (.mySql rfl rows) (by decide +kernel)
  obtain ⟨c, others, first, rest, rfl⟩ := List.forall₂_cons_left_iff.1 all
  cases rest
  have reported : ReportsText .mySql [] (bodyRow .mySql "NULL") "NULL" :=
    ⟨by decide +kernel, by decide +kernel, by decide +kernel⟩
  have default := (first bodyReport _ (by decide +kernel) (by decide) reported).1
  have lost : ((columns (notes .mySql "NULL") "notes").result ()).1.toOption.map
      (·.map Column.default) = some [none] := by decide +kernel
  rw [result] at lost
  simp [Except.toOption, default] at lost

end Catalog

end SchemaShift
