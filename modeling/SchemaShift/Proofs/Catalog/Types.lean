import SchemaShift.Catalog.Table
import SchemaShift.Proofs.Ddl.Clauses
import SchemaShift.Proofs.Ddl.Phrases
import SchemaShift.Proofs.Ddl.SqliteHints
import SchemaShift.Proofs.Session.Actions

/-!
# Types of SQLite columns, read twice

The type of a column in a SQLite definition is read in two ways. The reader of definitions goes
through the options of the clause, and of the comments among them the last one that names a logical
type counts; any other comment is passed over. The catalog takes the first comment in the clause
that holds any type clause at all, wherever it stands, and does not fall back on the declared type
when that clause names no logical type. So `/*highest first*/` is a comment to both, but `/*bytes*/`
is one to the first reader and an unknown type to the second.

Results:
* `Ddl.ColumnClause.form_described`: the type that a clause gives its column.
* `ColumnHints.origin_foldl`: the type that the catalog takes from a clause.
* `exists_column_iff`: when a column of the catalog has a given type.
* `agree_columns_iff`: the two readers agree on a table exactly when the first type clause among the
  comments of each column names the type that the last one among its options leaves.
* `not_forall_agree`: they do not always agree.
-/

namespace SchemaShift

/-! ## The form of a type -/

/-- What a type clause settles of a column. -/
structure TypeForm where
  type : ColumnType
  length : Option UInt32
  precision : Option UInt32
  scale : Option UInt32
  allowed : List String
deriving DecidableEq, Repr

/-- The form of the type of a column. -/
def Column.form (c : Column) : TypeForm :=
  { type := c.type, length := c.length, precision := c.precision, scale := c.scale,
    allowed := c.allowed }

theorem Column.Gains.form_eq {a b : Column} (h : a.Gains b) : b.form = a.form := by
  rcases h with rfl | ⟨-, role, rfl⟩ <;> rfl

namespace TypeSpec

/-- The form that a clause gives the columns of a type. -/
def form (spec : TypeSpec) (type : ColumnType) : TypeForm :=
  (spec.give type { name := "", type }).form

/-- The form of the physical type that a clause names, if there is such a type. -/
def physicalForm? (spec : TypeSpec) : Option TypeForm := spec.mySqlType?.map spec.form

/-- The form of the logical type that a clause names, if there is such a type. -/
def logicalForm? (spec : TypeSpec) : Option TypeForm :=
  (ColumnType.ofName? spec.name).map spec.form

theorem form_give (spec : TypeSpec) (type : ColumnType) (c : Column) :
    (spec.give type c).form = spec.form type := by
  cases type <;> rfl

theorem map_form_applyMySql? (spec : TypeSpec) (c : Column) :
    (spec.applyMySql? c).map Column.form = spec.physicalForm? := by
  rw [applyMySql?, physicalForm?]
  cases spec.mySqlType? with
  | none => rfl
  | some type => exact congrArg some (form_give ..)

theorem map_form_applyLogical? (spec : TypeSpec) (c : Column) :
    (spec.applyLogical? c).map Column.form = spec.logicalForm? := by
  rw [applyLogical?, logicalForm?]
  cases ColumnType.ofName? spec.name with
  | none => rfl
  | some type => exact congrArg some (form_give ..)

end TypeSpec

/-! ## The reader of definitions -/

namespace Ddl

/-- The form that an option gives its column. -/
def ColumnOption.form? (option : ColumnOption) : Option TypeForm :=
  option.origin?.bind TypeSpec.logicalForm?

namespace ColumnClause

/-- The form that a clause gives its column: that of the last logical type among the options, or
that of the physical type. -/
def form (clause : ColumnClause) : TypeForm :=
  (clause.options.filterMap ColumnOption.form?).getLast?.getD clause.column.form

theorem form_apply (c : Column) (option : ColumnOption) :
    (apply c option).form = option.form?.getD c.form := by
  cases option with
  | origin spec =>
    have form : (ColumnOption.origin spec).form? = (spec.applyLogical? c).map Column.form :=
      (spec.map_form_applyLogical? c).symm
    rw [form, apply]
    cases spec.applyLogical? c <;> rfl
  | default value =>
    cases value <;> simp only [apply, applyDefault]
    · rfl
    · split <;> rfl
    · rfl
    · rfl
  | _ => rfl

theorem form_foldl_apply (c : Column) (options : List ColumnOption) :
    (options.foldl apply c).form =
      (options.filterMap ColumnOption.form?).getLast?.getD c.form := by
  induction options generalizing c with
  | nil => rfl
  | cons option options ih =>
    rw [List.foldl_cons, ih, form_apply, List.filterMap_cons]
    cases option.form? with
    | none => rfl
    | some form =>
      rw [List.getLast?_cons]
      rfl

theorem name_foldl_apply (c : Column) (options : List ColumnOption) :
    (options.foldl apply c).name = c.name := by
  induction options generalizing c with
  | nil => rfl
  | cons option options ih => rw [List.foldl_cons, ih, name_apply]

/-- What is settled behind the options is whether the column may be null. -/
theorem exists_described_eq (clause : ColumnClause) :
    ∃ nullable, clause.described =
      { clause.options.foldl apply { clause.column with nullable := true } with nullable } := by
  unfold described
  dsimp only
  split
  · exact ⟨_, rfl⟩
  split
  · exact ⟨_, rfl⟩
  · exact ⟨_, rfl⟩

theorem name_described (clause : ColumnClause) : clause.described.name = clause.column.name := by
  obtain ⟨nullable, described⟩ := clause.exists_described_eq
  rw [described]
  exact name_foldl_apply ..

/-- The type that a clause gives its column. -/
theorem form_described (clause : ColumnClause) : clause.described.form = clause.form := by
  obtain ⟨nullable, described⟩ := clause.exists_described_eq
  rw [described]
  exact form_foldl_apply ..

/-- Without a comment that holds a type the physical one is left. -/
theorem form_of_origins_eq_nil {clause : ColumnClause}
    (h : clause.options.filterMap ColumnOption.origin? = []) :
    clause.form = clause.column.form := by
  have none : clause.options.filterMap ColumnOption.form? = [] := by
    rw [List.filterMap_eq_nil_iff] at h ⊢
    intro option mem
    rw [ColumnOption.form?, h option mem]
    rfl
  rw [form, none]
  rfl

end ColumnClause

/-- The reader of a column clause gives the column its physical type. -/
theorem readColumn_eq_ok {table context : String} {clause : List Token} {parsed : ColumnClause}
    (h : readColumn table context clause = .ok parsed) :
    ∃ first tail spec rest, clause = first :: tail ∧ first.name? = some parsed.column.name ∧
      TypeSpec.read.run tail = .ok (spec, rest) ∧ spec.physicalForm? = some parsed.column.form ∧
        readOptions context rest = .ok parsed.options := by
  obtain ⟨first, tail, spec, rest, split, named, readType, given, readRest⟩ :=
    exists_of_readColumn h
  refine ⟨first, tail, spec, rest, split, named, readType, ?_, readRest⟩
  rw [← spec.map_form_applyMySql?, given]
  rfl

/-- The types that the options of a clause name stand in its comments. -/
theorem sublist_origins_of_readColumn {table context : String} {clause : List Token}
    {parsed : ColumnClause} (h : readColumn table context clause = .ok parsed) :
    (parsed.options.filterMap ColumnOption.origin?).Sublist (typeComments clause.tail) := by
  obtain ⟨first, tail, spec, rest, rfl, -, readType, -, readRest⟩ := readColumn_eq_ok h
  have silent := (TypeSpec.read_ensures.run readType).1
  rw [List.tail_cons, typeComments_of_reaches silent]
  exact sublist_origins readRest

end Ddl

/-! ## The catalog -/

namespace ColumnHints

theorem origin_addToken (hint : ColumnHint) (t : Token) :
    (addToken hint t).origin = hint.origin.or (Ddl.typeComment? t) := by
  cases t with
  | comment body =>
    rw [addToken, Ddl.typeComment?]
    split
    · exact Option.or_none.symm
    · cases hint with
      | mk origin unsigned autoIncrement => cases origin <;> rfl
  | word w =>
    rw [Ddl.typeComment?, Option.or_none]
    · unfold addToken
      dsimp only
      split <;> rfl
    · intro body same
      cases same
  | _ => exact Option.or_none.symm

/-- The first type clause among the comments of a run is the type of its hint. -/
theorem origin_foldl (ts : List Token) (hint : ColumnHint) :
    (ts.foldl addToken hint).origin = hint.origin.or (Ddl.typeComments ts).head? := by
  induction ts generalizing hint with
  | nil => exact Option.or_none.symm
  | cons t ts ih =>
    rw [List.foldl_cons, ih, origin_addToken, Option.or_assoc]
    congr 1
    rw [Ddl.typeComments, Ddl.typeComments, List.filterMap_cons]
    cases Ddl.typeComment? t with
    | none => exact Option.none_or
    | some spec => exact Option.some_or

/-- Among hints with different names each is found under its own. -/
theorem find?_of_mem {hints : ColumnHints} {name : String} {hint : ColumnHint}
    (named : (hints.map Prod.fst).Nodup) (h : (name, hint) ∈ hints) :
    hints.find? name = some hint := by
  induction hints with
  | nil => cases h
  | cons entry hints ih =>
    obtain ⟨fresh, named⟩ := List.nodup_cons.1 named
    rw [find?, List.find?_cons]
    rcases List.mem_cons.1 h with rfl | mem
    · rw [beq_self_eq_true]
      rfl
    · have other : (entry.1 == name) = false := by
        rw [beq_eq_false_iff_ne]
        rintro rfl
        exact fresh (List.mem_map.2 ⟨_, mem, rfl⟩)
      rw [other]
      exact ih named mem

end ColumnHints

namespace Catalog.Sqlite

theorem form_readDefault (c : Column) (text : String) : (readDefault c text).form = c.form := by
  unfold readDefault
  dsimp only
  repeat' split
  all_goals rfl

/-- The form that a hint or, without one, a declared type gives. -/
def form? (physical : String) (hint : ColumnHint) : Option TypeForm :=
  match hint.origin with
  | some origin => origin.logicalForm?
  | none => (TypeSpec.ofText physical).toOption.bind TypeSpec.physicalForm?

theorem map_form_typed? (name physical : String) (hint : ColumnHint) :
    (typed? name physical hint).map Column.form = form? physical hint := by
  unfold typed? form?
  cases hint.origin with
  | some origin => exact origin.map_form_applyLogical? _
  | none =>
    cases (TypeSpec.ofText physical).toOption with
    | none => rfl
    | some spec => exact spec.map_form_applyMySql? _

theorem name_typed? {name physical : String} {hint : ColumnHint} {c : Column}
    (h : typed? name physical hint = some c) : c.name = name := by
  unfold typed? at h
  split at h
  · obtain ⟨type, -, rfl⟩ := Option.map_eq_some_iff.1 h
    exact TypeSpec.name_give ..
  · obtain ⟨spec, -, typed⟩ := Option.bind_eq_some_iff.1 h
    exact TypeSpec.applyMySql?_name typed

/-- What a row adds to its type changes neither the name nor the form. -/
theorem exists_column {table : String} {hints : ColumnHints} {row : Row} {typed : Column}
    (h : typed? (row.text "name") (row.text "type") ((hints.find? (row.text "name")).getD {}) =
      some typed) :
    ∃ c, column table hints row = .ok c ∧ c.name = typed.name ∧ c.form = typed.form := by
  unfold column
  dsimp only
  rw [h]
  dsimp only
  split
  · exact ⟨_, rfl, rfl, rfl⟩
  split
  · exact ⟨_, rfl, rfl, rfl⟩
  · refine ⟨_, rfl, ?_, ?_⟩
    · exact readDefault_name ..
    · exact form_readDefault ..

/-- When a column of the catalog has a given name and a type of a given form. -/
theorem exists_column_iff {table : String} {hints : ColumnHints} {row : Row} {name : String}
    {form : TypeForm} :
    (∃ c, column table hints row = .ok c ∧ c.name = name ∧ c.form = form) ↔
      row.text "name" = name ∧
        form? (row.text "type") ((hints.find? (row.text "name")).getD {}) = some form := by
  rw [← map_form_typed? (row.text "name")]
  cases h : typed? (row.text "name") (row.text "type")
      ((hints.find? (row.text "name")).getD {}) with
  | none =>
    have failed : column table hints row =
        .error (.catalogMismatch table (row.text "name") (row.text "type")) := by
      unfold column
      dsimp only
      rw [h]
    rw [failed]
    constructor
    · rintro ⟨c, ⟨⟩, -⟩
    · rintro ⟨-, ⟨⟩⟩
  | some typed =>
    obtain ⟨c, read, sameName, sameForm⟩ :
        ∃ c, column table hints row = .ok c ∧ c.name = typed.name ∧ c.form = typed.form :=
      exists_column h
    rw [Option.map_some, Option.some.injEq, ← name_typed? h, ← sameName, ← sameForm, read]
    constructor
    · rintro ⟨d, ⟨⟩, rfl, rfl⟩
      exact ⟨rfl, rfl⟩
    · rintro ⟨rfl, rfl⟩
      exact ⟨c, rfl, rfl, rfl⟩

/-! ## Agreement -/

/-- A row of the table information reports the name of a column and the type that its clause writes,
with the arguments in parentheses. -/
def ReportsClause (row : Row) (clause : List Token) : Prop :=
  clause.head?.bind Token.name? = some (row.text "name") ∧
    Token.scan (row.text "type") = .ok (TypeSpec.typeTokens clause.tail)

instance (row : Row) (clause : List Token) : Decidable (ReportsClause row clause) := by
  unfold ReportsClause
  infer_instance

/-- The first type clause among the comments of a column clause, if there is one, is of the form
that the options of the clause leave. -/
def FirstCommentCounts (table : String) (clause : List Token) : Prop :=
  ∀ parsed ∈ (Ddl.readColumn table ("table " ++ table) clause).toOption,
    ∀ first ∈ (Ddl.typeComments clause.tail).head?, first.logicalForm? = some parsed.form

instance (table : String) (clause : List Token) : Decidable (FirstCommentCounts table clause) := by
  unfold FirstCommentCounts
  infer_instance

/-- Two columns have one name and types of one form. -/
def SameType (c d : Column) : Prop := c.name = d.name ∧ c.form = d.form

/-- The hint of a column clause has the first type clause among its comments. -/
theorem exists_hint {table context : String} {clause : List Token} {parsed : Ddl.ColumnClause}
    (column : Ddl.definesColumn clause = true)
    (read : Ddl.readColumn table context clause = .ok parsed) :
    ∃ hint, ColumnHints.ofClause? clause = some (parsed.column.name, hint) ∧
      hint.origin = (Ddl.typeComments clause.tail).head? := by
  obtain ⟨first, tail, spec, rest, rfl, named, -⟩ := Ddl.readColumn_eq_ok read
  rw [Ddl.definesColumn, List.head?_cons, Option.any_some, Bool.not_eq_true'] at column
  refine ⟨tail.foldl ColumnHints.addToken {}, ?_, ?_⟩
  · rw [ColumnHints.ofClause?, if_neg (by rw [column]; decide), named]
    rfl
  · rw [ColumnHints.origin_foldl]
    rfl

/-- The physical type of a clause is read off the row that reports it. -/
theorem form?_of_reports {table context : String} {row : Row} {clause : List Token}
    {parsed : Ddl.ColumnClause} (reports : ReportsClause row clause)
    (read : Ddl.readColumn table context clause = .ok parsed) {hint : ColumnHint}
    (plain : hint.origin = none) : form? (row.text "type") hint = some parsed.column.form := by
  obtain ⟨first, tail, spec, rest, rfl, -, readType, physical, -⟩ := Ddl.readColumn_eq_ok read
  have again := (TypeSpec.read_ensures.run readType).2
  have text : TypeSpec.ofText (row.text "type") = .ok { spec with unsigned := false } := by
    rw [TypeSpec.ofText, reports.2]
    dsimp only [List.tail_cons]
    rw [again]
  rw [form?, plain, text]
  exact physical

/-- A column is read from the table information with the type that its clause gives it exactly when
the first type clause among the comments counts. -/
theorem exists_sameType_iff {table name : String} {hints : ColumnHints} {row : Row}
    {clause : List Token} {parsed : Ddl.ColumnClause} {hint : ColumnHint} {d : Column}
    (reports : ReportsClause row clause)
    (read : Ddl.readColumn table ("table " ++ table) clause = .ok parsed)
    (gains : parsed.described.Gains d) (hinted : hints.find? parsed.column.name = some hint)
    (first : hint.origin = (Ddl.typeComments clause.tail).head?) :
    (∃ c, column name hints row = .ok c ∧ SameType c d) ↔ FirstCommentCounts table clause := by
  have named : row.text "name" = parsed.column.name := by
    obtain ⟨_, _, _, _, rfl, firstName, -⟩ := Ddl.readColumn_eq_ok read
    exact Option.some.inj (reports.1.symm.trans firstName)
  have sameName : d.name = parsed.column.name :=
    gains.name_eq.trans (Ddl.ColumnClause.name_described parsed)
  have sameForm : d.form = parsed.form :=
    gains.form_eq.trans (Ddl.ColumnClause.form_described parsed)
  have settled : FirstCommentCounts table clause ↔
      ∀ first ∈ (Ddl.typeComments clause.tail).head?, first.logicalForm? = some parsed.form := by
    rw [FirstCommentCounts, read]
    exact ⟨fun all => all parsed rfl, fun all parsed' same => by cases same; exact all⟩
  rw [settled, ← first]
  unfold SameType
  rw [exists_column_iff, sameName, sameForm, named, hinted, Option.getD_some]
  refine (and_iff_right rfl).trans ?_
  cases origin : hint.origin with
  | some spec =>
    rw [form?, origin]
    exact ⟨fun form first same => by cases same; exact form, fun all => all spec rfl⟩
  | none =>
    -- No comment holds a type clause, so no option names a type that could replace the declared
    -- one.
    have physical := form?_of_reports reports read origin
    have silent : parsed.options.filterMap Ddl.ColumnOption.origin? = [] := by
      have sublist := Ddl.sublist_origins_of_readColumn read
      rw [List.head?_eq_none_iff.1 (first.symm.trans origin)] at sublist
      exact List.sublist_nil.1 sublist
    rw [physical, Ddl.ColumnClause.form_of_origins_eq_nil silent]
    exact iff_of_true rfl (fun _ mem => nomatch mem)

/-- A table constraint has no hint. -/
theorem ofClause?_of_constraint {clause : List Token} (h : Ddl.definesColumn clause = false) :
    ColumnHints.ofClause? clause = none := by
  cases clause with
  | nil => rfl
  | cons first rest =>
    rw [Ddl.definesColumn, List.head?_cons, Option.any_some, Bool.not_eq_false'] at h
    rw [ColumnHints.ofClause?, if_pos h]

/-- The hints of a table are found under the names of its columns. -/
theorem find?_ofClauses {sql : String} {tokens : List Token} {b : Blueprint}
    (scanned : Token.scan sql = .ok tokens) (read : Ddl.readOneTable sql = .ok b)
    (named : (b.columns.map (·.name)).Nodup) :
    ∀ clause ∈ Ddl.columnClauses sql, ∀ entry, ColumnHints.ofClause? clause = some entry →
      (ColumnHints.ofClauses (Ddl.clauses tokens)).find? entry.1 = some entry.2 := by
  have entries : (Ddl.clauses tokens).filterMap ColumnHints.ofClause? =
      (Ddl.columnClauses sql).filterMap ColumnHints.ofClause? := by
    rw [Ddl.columnClauses, scanned, List.filterMap_filter]
    refine List.filterMap_congr fun clause _ => ?_
    split
    · rfl
    · rename_i constraint
      exact ofClause?_of_constraint (by simpa using constraint)
  have names : ((Ddl.columnClauses sql).filterMap ColumnHints.ofClause?).map Prod.fst =
      b.columns.map (·.name) := by
    have columns := Ddl.forall₂_columnClauses read
    generalize Ddl.columnClauses sql = clauses at columns
    generalize b.columns = cs at columns
    induction columns with
    | nil => rfl
    | cons defines _ ih =>
      obtain ⟨parsed, column, readFirst, gains⟩ := defines
      obtain ⟨hint, found, -⟩ := exists_hint column readFirst
      rw [List.filterMap_cons_some found, List.map_cons, List.map_cons, ih, gains.name_eq,
        Ddl.ColumnClause.name_described]
  intro clause mem entry found
  -- Later hints replace earlier ones of the same name; with different names none is lost.
  have distinct : (((Ddl.clauses tokens).filterMap ColumnHints.ofClause?).map Prod.fst).Nodup := by
    rw [entries, names]
    exact named
  rw [ColumnHints.ofClauses_eq distinct]
  refine ColumnHints.find?_of_mem distinct ?_
  rw [entries]
  exact List.mem_filterMap.2 ⟨clause, mem, found⟩

end Catalog.Sqlite

/-- Two lists are related one by one exactly when something holds of all elements of a list between
them, if that is so for each element between its neighbours. -/
theorem forall₂_iff_forall {α β γ : Type} {R : α → β → Prop} {S : β → γ → Prop}
    {P : α → γ → Prop} {Q : β → Prop} {as : List α} {bs : List β} {cs : List γ}
    (first : List.Forall₂ R as bs) (second : List.Forall₂ S bs cs)
    (each : ∀ a b c, b ∈ bs → R a b → S b c → (P a c ↔ Q b)) :
    List.Forall₂ P as cs ↔ ∀ b ∈ bs, Q b := by
  induction first generalizing cs with
  | nil =>
    cases second
    simp
  | cons related _ ih =>
    cases second with
    | cons next others =>
      have here := each _ _ _ (by simp) related next
      have later := ih others fun a b c mem => each a b c (by simp [mem])
      rw [List.forall₂_cons, List.forall_mem_cons, here, later]

variable {σ : Type} {session : Session σ} {table sql : String} {x x₁ x₂ : σ}
  {definitions rows : List Row}

/-- What the catalog of a session gives for a table whose definition and information are known. -/
theorem Catalog.result_columns {hints : ColumnHints} (sqlite : session.dialect = .sqlite)
    (defined : (session.select (Query.definition table)).result x = (.ok definitions, x₁))
    (text : definitions.head?.bind (·.text? "sql") = some sql)
    (hinted : ColumnHints.ofText sql = .ok hints)
    (informed : (session.select (Query.columns .sqlite session.database table)).result x₁ =
      (.ok rows, x₂)) :
    (columns session table).result x = (rows.mapM (Sqlite.column table hints), x₂) := by
  have found : (columnHints session table).result x = (.ok hints, x₁) := by
    refine DbM.result_bind_eq_ok_iff.2 ⟨definitions, x₁, defined, ?_⟩
    rw [text, ← hinted]
    rfl
  rw [columns, sqlite]
  dsimp only
  rw [DbM.result_bind, found]
  dsimp only
  rw [DbM.result_bind, informed]
  rfl

namespace Catalog.Sqlite

/-- The two readers of a table definition agree on the types of its columns exactly when the first
type clause among the comments of each column clause counts. -/
theorem agree_columns_iff {b : Blueprint} (sqlite : session.dialect = .sqlite)
    (defined : (session.select (Query.definition table)).result x = (.ok definitions, x₁))
    (text : definitions.head?.bind (·.text? "sql") = some sql)
    (informed : (session.select (Query.columns .sqlite session.database table)).result x₁ =
      (.ok rows, x₂))
    (read : Ddl.readOneTable sql = .ok b) (named : (b.columns.map (·.name)).Nodup)
    (reports : List.Forall₂ ReportsClause rows (Ddl.columnClauses sql)) :
    (∃ cs x', (columns session table).result x = (.ok cs, x') ∧
        List.Forall₂ SameType cs b.columns) ↔
      ∀ clause ∈ Ddl.columnClauses sql, FirstCommentCounts b.table clause := by
  obtain ⟨tokens, engine, parts, scanned, hinted, -, -⟩ := Ddl.exists_definition read
  have hints : ColumnHints.ofText sql = .ok (ColumnHints.ofClauses (Ddl.clauses tokens)) :=
    Except.bind_eq_ok_iff.2 ⟨tokens, scanned, hinted⟩
  have found := find?_ofClauses scanned read named
  have result := result_columns sqlite defined text hints informed
  have each : ∀ row clause d, clause ∈ Ddl.columnClauses sql → ReportsClause row clause →
      (∃ parsed, Ddl.definesColumn clause = true ∧
        Ddl.readColumn b.table ("table " ++ b.table) clause = .ok parsed ∧
          parsed.described.Gains d) →
        ((∃ c, column table (ColumnHints.ofClauses (Ddl.clauses tokens)) row = .ok c ∧
          SameType c d) ↔ FirstCommentCounts b.table clause) := by
    rintro row clause d mem reported ⟨parsed, defines, readClause, gains⟩
    obtain ⟨hint, entry, first⟩ := exists_hint defines readClause
    exact exists_sameType_iff reported readClause gains (found clause mem _ entry) first
  have pointwise := forall₂_iff_forall reports (Ddl.forall₂_columnClauses read) each
  rw [← pointwise, forall₂_exists_iff, result]
  constructor
  · rintro ⟨cs, x', done, same⟩
    exact ⟨cs, Except.mapM_eq_ok_iff.1 (congrArg Prod.fst done), same⟩
  · rintro ⟨cs, done, same⟩
    exact ⟨cs, x₂, by rw [Except.mapM_eq_ok_iff.2 done], same⟩

/-! ## Tables with comments -/

/-- The table information about columns with the given names and declared types. -/
def declaring (types : List (String × String)) : List Row :=
  types.map fun (name, type) =>
    .ofPairs [("name", .text name), ("type", .text type), ("notnull", .integer 0),
      ("dflt_value", .null), ("pk", .integer 0)]

/-- A session whose catalog shows one table. -/
def showing (table sql : String) (types : List (String × String)) : Session Unit :=
  .answering
    [(Query.definition table, [.ofPairs [("sql", .text sql)]]),
      (Query.columns .sqlite "main" table, declaring types)]

/-- A table with comments that hold no type clause, one of them inside a check. -/
def bidsText : String :=
  "CREATE TABLE bids (at date, sum int /*in cents*/ /*decimal(8)*/ CHECK (sum > 0 /*or none*/))"

/-- The columns of the table as SQLite declares them. -/
def bidsTypes : List (String × String) := [("at", "date"), ("sum", "int")]

/-- The table as SQLite shows it. -/
def bidsSession : Session Unit := showing "bids" bidsText bidsTypes

theorem reports_bids :
    List.Forall₂ ReportsClause (declaring bidsTypes) (Ddl.columnClauses bidsText) := by
  decide +kernel

theorem firstCommentCounts_bids :
    ∀ clause ∈ Ddl.columnClauses bidsText, FirstCommentCounts "bids" clause := by
  decide +kernel

theorem agree_columns_iff_bids :
    ∃ b cs x', Ddl.readOneTable bidsText = .ok b ∧
      b.columns.map (·.type) = [.date, .decimal] ∧
      (columns bidsSession "bids").result () = (.ok cs, x') ∧
      List.Forall₂ SameType cs b.columns := by
  have parts : (Ddl.readOneTable bidsText).map (fun b =>
      (b.table, b.columns.map (·.name), b.columns.map (·.type))) =
        .ok ("bids", ["at", "sum"], [.date, .decimal]) := by
    decide +kernel
  obtain ⟨b, read, parts⟩ := Except.exists_of_map_eq_ok parts
  obtain ⟨table, parts⟩ := Prod.mk.inj parts
  obtain ⟨names, types⟩ := Prod.mk.inj parts
  have defined : (bidsSession.select (Query.definition "bids")).result () =
      (.ok [.ofPairs [("sql", .text bidsText)]], ()) := by decide +kernel
  have informed : (bidsSession.select (Query.columns .sqlite "main" "bids")).result () =
      (.ok (declaring bidsTypes), ()) := by decide +kernel
  have first := firstCommentCounts_bids
  rw [← table] at first
  obtain ⟨cs, x', result, same⟩ := (agree_columns_iff rfl defined rfl informed read
    (by rw [names]; decide) reports_bids).2 first
  exact ⟨b, cs, x', read, types, result, same⟩

/-- A table with a comment of a single word. -/
def notesText : String := "CREATE TABLE notes (size int /*bytes*/)"

/-- The column of the table as SQLite declares it. -/
def notesTypes : List (String × String) := [("size", "int")]

/-- The table as SQLite shows it. -/
def notesSession : Session Unit := showing "notes" notesText notesTypes

/-- The catalog takes a comment of one word for the name of a type, finds no such type and does not
read the column, which the reader of definitions gives its physical type. -/
theorem not_forall_agree :
    ¬ ∀ (session : Session Unit) (table sql : String) (definitions rows : List Row) (b : Blueprint),
      session.dialect = .sqlite →
      (session.select (Query.definition table)).result () = (.ok definitions, ()) →
      definitions.head?.bind (·.text? "sql") = some sql →
      (session.select (Query.columns .sqlite session.database table)).result () = (.ok rows, ()) →
      Ddl.readOneTable sql = .ok b → (b.columns.map (·.name)).Nodup →
      List.Forall₂ ReportsClause rows (Ddl.columnClauses sql) →
        ∃ cs x', (columns session table).result () = (.ok cs, x') ∧
          List.Forall₂ SameType cs b.columns := by
  intro agree
  have names : (Ddl.readOneTable notesText).map (fun b => b.columns.map (·.name)) =
      .ok ["size"] := by decide +kernel
  obtain ⟨b, read, names⟩ := Except.exists_of_map_eq_ok names
  have reports : List.Forall₂ ReportsClause (declaring notesTypes)
      (Ddl.columnClauses notesText) := by decide +kernel
  have informed : (notesSession.select (Query.columns .sqlite "main" "notes")).result () =
      (.ok (declaring notesTypes), ()) := by decide +kernel
  obtain ⟨cs, x', given, -⟩ := agree notesSession "notes" notesText _ _ b rfl rfl rfl informed read
    (by rw [names]; decide) reports
  have failed : ((columns notesSession "notes").result ()).1 =
      .error (.catalogMismatch "notes" "size" "int") := by decide +kernel
  rw [given] at failed
  cases failed

end Catalog.Sqlite

end SchemaShift
