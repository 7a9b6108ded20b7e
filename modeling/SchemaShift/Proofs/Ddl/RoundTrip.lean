import SchemaShift.Compile.MySql
import SchemaShift.Proofs.Ddl.MySqlColumn

/-!
# MySQL tables are read back as they were written

The statement that makes a table on MySQL, read by the reader of table definitions, gives a
blueprint of the same table. That blueprint keeps what the statement says and no more, and it makes
the same statement.

Results:
* `readTable_tableTokens`: what a table definition is read as.
* `readOneTable_createdText`: a written table is read as a table with the same columns, which is
  written in the same way.
-/

namespace SchemaShift

open Sql

/-! ## Canonical form -/

namespace Blueprint

/-- Without foreign keys the canonical form leaves the columns as they are. -/
theorem columns_steps {s : Surroundings} {columns : List Column} {commands : List Command}
    (h : ∀ c ∈ commands, c.foreignKey? = none) : (s.steps columns commands).1 = columns := by
  induction commands with
  | nil => rfl
  | cons c cs ih =>
    have first : (s.step columns c).1 = columns := by
      cases c with
      | addForeign fk => cases h (.addForeign fk) (by simp)
      | _ => rfl
    rw [Surroundings.steps]
    simp only [first]
    exact ih fun d hd => h d (by simp [hd])

theorem columns_canonical {b : Blueprint} (h : ∀ c ∈ b.commands, c.foreignKey? = none) :
    b.canonical.columns = b.columns := columns_steps h

end Blueprint

/-! ## Reading tables -/

namespace Ddl

theorem readClause_tokens {c : Column} (h : c.HasPlainDefault) (table : String) :
    readClause table (definition .mySql c).tokens = .ok (.ofColumn c.mySqlClause) := by
  have column : readClause table (definition .mySql c).tokens =
      (readColumn table ("table " ++ table) (definition .mySql c).tokens).map .ofColumn := rfl
  rw [column, readColumn_tokens h]
  rfl

/-- What the columns of a table contribute: their forms, and the primary keys of those that count
up. -/
def columnParts (cs : List Column) : TableParts :=
  { columns := cs.map (·.mySqlForm), indexes := cs.flatMap (·.mySqlClause.inlineIndexes) }

theorem readClauses_tokens {cs : List Column} (valid : ∀ c ∈ cs, c.Valid)
    (plain : ∀ c ∈ cs, c.HasPlainDefault) (table : String) :
    readClauses table ((cs.map (definition .mySql)).map (·.tokens)) = .ok (columnParts cs) := by
  induction cs with
  | nil => rfl
  | cons c cs ih =>
    have first := readClause_tokens (plain c (by simp)) table
    have others := ih (fun d hd => valid d (by simp [hd])) (fun d hd => plain d (by simp [hd]))
    have parts : TableParts.ofColumn c.mySqlClause =
        { columns := [c.mySqlForm], indexes := c.mySqlClause.inlineIndexes } := by
      rw [TableParts.ofColumn, Column.described_mySqlClause (valid c (by simp))]
    rw [List.map_cons, List.map_cons, readClauses, first, parts]
    simp only
    rw [others]
    rfl

theorem readEngine_engineTokens (engine : Option String) :
    readEngine none (engineTokens engine) = engine := by
  cases engine with
  | none => rfl
  | some name => exact readEngine_engine name

/-- The head of a table definition is read up to the opening parenthesis. -/
theorem run_readHead (whole : List Token) (table : String) (rest : List Token) :
    (readHead whole).run (.word "CREATE" :: .word "TABLE" :: .ident table :: .leftParen :: rest) =
      .ok (table, rest) := by
  have create := Reader.run_eatKeyword_of "create" (t := .word "CREATE") (by decide)
    (.word "TABLE" :: .ident table :: .leftParen :: rest)
  have temporary := Reader.run_eatKeyword_of_not "temporary" (t := .word "TABLE") (by decide)
    (.ident table :: .leftParen :: rest)
  have word := Reader.run_eatKeyword_of "table" (t := .word "TABLE") (by decide)
    (.ident table :: .leftParen :: rest)
  have unconditional := Reader.run_eatKeyword_of_not "if" (t := .ident table) rfl
    (.leftParen :: rest)
  have name := Reader.run_qualifiedName "CREATE TABLE" (t := .ident table) rfl rest
  have left := Reader.run_expectToken "CREATE TABLE" .leftParen rest
  rw [readHead, Reader.run_bind_of create, if_pos rfl, Reader.run_bind_of temporary,
    Reader.run_bind_of word, if_pos rfl, Reader.run_bind_of unconditional, if_neg (by simp),
    Reader.run_bind_of name, Reader.run_bind_of left]
  rfl

/-- A table definition falls into its name, its clauses and its options. -/
theorem run_definition (whole : List Token) (table : String) (ds : List ColumnDefinition)
    (engine : Option String) :
    (do
      let name ← readHead whole
      let inside ← Reader.groupRest
      pure (name, inside) : Reader (String × List Token)).run (tableTokens table ds engine) =
        .ok ((table, clauseTokens ds), engineTokens engine) := by
  have head : (readHead whole).run (tableTokens table ds engine) =
      .ok (table, clauseTokens ds ++ .rightParen :: engineTokens engine) := run_readHead ..
  have inside := Token.run_groupRest (nested_clauseTokens ds) (engineTokens engine)
  rw [Reader.run_bind_of head, Reader.run_bind_of inside, Reader.run_pure]

theorem splitTopLevel_clauseTokens (ds : List ColumnDefinition) :
    Token.splitTopLevel (clauseTokens ds) = ds.map (·.tokens) := by
  apply Token.splitTopLevel_intercalate
  intro clause hc
  obtain ⟨d, -, rfl⟩ := List.mem_map.1 hc
  exact ⟨List.cons_ne_nil _ _, d.nested_tokens⟩

/-- A table definition is read as the forms of its columns. -/
theorem readTable_tableTokens {cs : List Column} (valid : ∀ c ∈ cs, c.Valid)
    (plain : ∀ c ∈ cs, c.HasPlainDefault) (table : String) (engine : Option String) :
    readTable (tableTokens table (cs.map (definition .mySql)) engine) =
      .ok (ofParts table engine (columnParts cs)).canonical := by
  rw [readTable, run_definition]
  show (readClauses table (Token.splitTopLevel (clauseTokens _))).bind _ = _
  rw [splitTopLevel_clauseTokens, readClauses_tokens valid plain]
  show Except.ok (ofParts table (readEngine none (engineTokens engine)) _).canonical = _
  rw [readEngine_engineTokens]

/-! ## Whole statements -/

theorem nested_tableTokens (table : String) (ds : List ColumnDefinition)
    (engine : Option String) :
    Token.Nested (· ≠ .semicolon) (tableTokens table ds engine) := by
  have options : Token.Nested (· ≠ .semicolon) (engineTokens engine) := by
    cases engine <;> exact Token.nested_of_forall (by simp [engineTokens])
  exact .cons (by simp) (by simp) (by simp) (.cons (by simp) (by simp) (by simp)
    (.cons (by simp) (by simp) (by simp) (.group (nested_clauseTokens ds) options)))

/-- A written table is one statement. -/
theorem statements_tableTokens (table : String) (ds : List ColumnDefinition)
    (engine : Option String) :
    statements (tableTokens table ds engine) = [tableTokens table ds engine] := by
  have one : Token.splitAt .semicolon (tableTokens table ds engine) =
      [tableTokens table ds engine] :=
    Token.splitAt_eq_singleton (by simp) (List.cons_ne_nil _ _) (nested_tableTokens ..)
  rw [statements, one]
  rfl

/-- A text that lexes to a table definition is read as that table. -/
theorem readOneTable_of_lexes {text table : String} {cs : List Column} {engine : Option String}
    (valid : ∀ c ∈ cs, c.Valid) (plain : ∀ c ∈ cs, c.HasPlainDefault)
    (lexes : Token.Lexes text.toList (tableTokens table (cs.map (definition .mySql)) engine)) :
    readOneTable text = .ok (ofParts table engine (columnParts cs)).canonical := by
  have scanned : Token.scan text = .ok (tableTokens table (cs.map (definition .mySql)) engine) :=
    lexes.scanChars_eq
  have tables : readTables text = .ok [(ofParts table engine (columnParts cs)).canonical] := by
    rw [readTables, scanned]
    show (statements (tableTokens table _ engine)).mapM readTable = _
    rw [statements_tableTokens, List.mapM_cons, readTable_tableTokens valid plain]
    rfl
  rw [readOneTable, tables]
  rfl

/-! ## Writing and reading -/

/-- The text of the statements that make a table on MySQL. -/
def createdText (b : Blueprint) : Except Error (List String) :=
  (Compile.MySql.compile b .create).map fun statements => statements.map (·.render .mySql)

theorem defineAll_eq_ok {cs : List Column} (valid : ∀ c ∈ cs, c.Valid) :
    defineAll .mySql cs = .ok (cs.map (definition .mySql)) := by
  apply defineAll_of_forall
  intro c hc
  have serial : c.autoIncrement = true → c.type ∈ serials .mySql := by
    intro counts
    have integer := ((valid c hc).1 counts).1
    cases h : c.type <;> simp [h, ColumnType.isInteger, serials] at integer ⊢
  exact ⟨_, define_eq_ok_iff.2 ⟨serial, rfl⟩⟩

theorem createdText_eq {b : Blueprint} (added : ∀ c ∈ b.columns, c.change = false)
    (valid : ∀ c ∈ b.columns, c.Valid) :
    createdText b = .ok [(Statement.createTable b.table (b.columns.map (definition .mySql)) []
      b.engine).render .mySql] := by
  have all : b.addedColumns = b.columns := by
    rw [Blueprint.addedColumns, List.filter_eq_self]
    intro c hc
    rw [added c hc]
    rfl
  rw [createdText, Compile.MySql.compile, Compile.MySql.addedDefinitions, all,
    defineAll_eq_ok valid]
  rfl

/-- A table of forms is written as the table they are the forms of. -/
theorem render_forms {cs : List Column} (plain : ∀ c ∈ cs, c.HasPlainDefault) (table : String)
    (engine : Option String) :
    (Statement.createTable table ((cs.map (·.mySqlForm)).map (definition .mySql)) []
        engine).render .mySql =
      (Statement.createTable table (cs.map (definition .mySql)) [] engine).render .mySql := by
  have clauses : ((cs.map (·.mySqlForm)).map (definition .mySql)).map (·.render .mySql) =
      (cs.map (definition .mySql)).map (·.render .mySql) := by
    rw [List.map_map, List.map_map, List.map_map]
    apply List.map_congr_left
    intro c hc
    exact Column.render_definition_mySqlForm (plain c hc)
  rw [render_createTable, render_createTable, clauses]

theorem columns_ofParts (table : String) (engine : Option String) (cs : List Column) :
    (ofParts table engine (columnParts cs)).canonical.columns = cs.map (·.mySqlForm) := by
  apply Blueprint.columns_canonical
  intro c hc
  simp only [ofParts, columnParts, List.map_nil, List.append_nil, List.mem_cons,
    List.mem_map] at hc
  rcases hc with rfl | ⟨i, -, rfl⟩ <;> rfl

/-- A new table, written for MySQL and read again, is a table of the same name with the same
engine and with columns of the same names and types, and it is written in the same way. -/
theorem readOneTable_createdText {b : Blueprint} (added : ∀ c ∈ b.columns, c.change = false)
    (checked : ∀ c ∈ b.columns, c.check = .ok ()) (plain : ∀ c ∈ b.columns, c.HasPlainDefault)
    (word : ∀ e ∈ b.engine, Token.isBareWord e = true) :
    ∃ sql read, createdText b = .ok [sql] ∧ readOneTable sql = .ok read ∧
      read.table = b.table ∧ read.engine = b.engine ∧
      read.columns.map (fun c => (c.name, c.type)) = b.columns.map (fun c => (c.name, c.type)) ∧
      createdText read = .ok [sql] := by
  have valid : ∀ c ∈ b.columns, c.Valid := fun c hc => Column.check_eq_ok_iff.1 (checked c hc)
  have parts : ∀ d ∈ b.columns.map (definition .mySql), ∀ p ∈ d.parts, p.IsPlain := by
    intro d hd
    obtain ⟨c, hc, rfl⟩ := List.mem_map.1 hd
    exact Column.isPlain_definition (plain c hc)
  have columns := columns_ofParts b.table b.engine b.columns
  refine ⟨_, _, createdText_eq added valid,
    readOneTable_of_lexes valid plain (lexes_createTable parts word), rfl, rfl, ?_, ?_⟩
  · rw [columns, List.map_map]
    apply List.map_congr_left
    intro c _
    show (c.mySqlForm.name, c.mySqlForm.type) = _
    rw [c.name_mySqlForm, c.type_mySqlForm]
  · rw [createdText_eq, columns, ← render_forms plain]
    · rfl
    · rw [columns]
      intro c' hc'
      obtain ⟨c, -, rfl⟩ := List.mem_map.1 hc'
      exact c.change_mySqlForm
    · rw [columns]
      intro c' hc'
      obtain ⟨c, hc, rfl⟩ := List.mem_map.1 hc'
      exact Column.valid_mySqlForm (valid c hc)

/-- A table whose names, values and defaults hold quotes, backslashes and parentheses. -/
def quotedTable : Blueprint :=
  { table := "or`ders"
    engine := some "InnoDB"
    columns :=
      [{ name := "id", type := .bigInteger, autoIncrement := true },
        { name := "kind (a,b)", type := .enum, allowed := ["it's", "a\\,b);"],
          default := some (.text "it's"), nullable := true },
        { name := "active", type := .boolean, default := some (.bool true) },
        { name := "total", type := .decimal, unsigned := true, default := some (.integer (-7)) },
        { name := "at", type := .timestamp, useCurrent := true }]
    commands := [.create] }

/-- Quotes, backslashes and parentheses in names, values and defaults survive. -/
theorem readOneTable_createdText_quotedTable :
    ∃ sql read, createdText quotedTable = .ok [sql] ∧ readOneTable sql = .ok read ∧
      read.table = quotedTable.table ∧ read.engine = quotedTable.engine ∧
      read.columns.map (fun c => (c.name, c.type)) =
        quotedTable.columns.map (fun c => (c.name, c.type)) ∧
      createdText read = .ok [sql] :=
  readOneTable_createdText (by decide)
    (fun c hc => Column.check_eq_ok_iff.2 ((by decide : ∀ c ∈ quotedTable.columns, c.Valid) c hc))
    (by decide) (by decide)

end Ddl

end SchemaShift
