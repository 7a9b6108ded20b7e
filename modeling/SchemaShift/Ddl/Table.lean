import SchemaShift.Blueprint.Canonical
import SchemaShift.Ddl.TypeSpec

/-!
# Table definitions

Reads the `CREATE TABLE` statements of a script into blueprints in canonical form. The accepted
form is what MySQL shows of its tables and what schema files for MySQL and SQLite hold: quoted or
bare names, inline and table-level keys, named foreign keys and table options. A column is
nullable unless its clause says otherwise.

* `Ddl.ColumnClause.name_apply`: no option renames a column.
-/

namespace SchemaShift.Ddl

/-! ## References -/

/-- The target of a `REFERENCES` clause. -/
structure Reference where
  table : String
  columns : List String
  onDelete : Option ForeignAction := none
  onUpdate : Option ForeignAction := none
deriving DecidableEq, Repr

/-- Reads a referential action of one or two words; an action that engines take anyway is not
kept. -/
def readAction (context : String) : Reader (Option ForeignAction) := do
  let first ← Reader.name context
  let rule ←
    if Text.sameWord first "set" || Text.sameWord first "no" then do
      let second ← Reader.name context
      pure (first ++ " " ++ second)
    else pure first
  match ForeignAction.ofRule? rule with
  | some action => pure (ForeignAction.explicit (some action))
  | none => Reader.fail (.unknownToken rule context)

/-- Reads the `ON DELETE` and `ON UPDATE` clauses of a reference; the last of each kind counts. -/
def readActions (context : String) (target : Reference) : Reader Reference
  | t :: u :: ts =>
    if t.isKeyword "on" then
      if u.isKeyword "delete" then
        match readAction context ts with
        | .error e => .error e
        | .ok p =>
          (readActions context { target with onDelete := p.value } p.rest).map fun q =>
            q.weaken (by have := p.rest_le; simp; omega)
      else if u.isKeyword "update" then
        match readAction context ts with
        | .error e => .error e
        | .ok p =>
          (readActions context { target with onUpdate := p.value } p.rest).map fun q =>
            q.weaken (by have := p.rest_le; simp; omega)
      else .ok ⟨target, t :: u :: ts, Nat.le_refl _⟩
    else .ok ⟨target, t :: u :: ts, Nat.le_refl _⟩
  | ts => .ok ⟨target, ts, Nat.le_refl _⟩
termination_by ts => ts.length
decreasing_by all_goals (have shorter := p.rest_le; simp; omega)

/-- Reads a reference after its keyword. -/
def readTarget (context : String) : Reader Reference := do
  let table ← Reader.qualifiedName context
  let columns ← Reader.columnList context
  readActions context { table, columns }

/-- Reads a reference. -/
def readReference (context : String) : Reader Reference := do
  Reader.expectKeyword context "references"
  readTarget context

/-! ## Column options -/

/-- What stands after `DEFAULT`. -/
inductive DefaultClause where
  | null
  | now
  | literal (text : String)
  | expression (sql : String)
deriving DecidableEq, Repr

/-- One option of a column clause. -/
inductive ColumnOption where
  | unsignedComment
  | origin (spec : TypeSpec)
  | notNull
  | null
  | default (value : DefaultClause)
  | autoIncrement
  | unsigned
  | primaryKey
  | unique
  | references (target : Reference)
  | ignored
deriving DecidableEq, Repr

/-- Reads what stands after `DEFAULT`. -/
def readDefault (context : String) : Reader DefaultClause := do
  match ← Reader.next with
  | none => Reader.fail (Reader.ended context)
  | some (.str s) => pure (.literal s)
  | some (.number n) => pure (.literal n)
  | some (.symbol '-') =>
    match ← Reader.next with
    | some (.number n) => pure (.literal ("-" ++ n))
    | some other => Reader.fail (Reader.misplaced context other)
    | none => Reader.fail (Reader.ended context)
  | some .leftParen => do
    let inside ← Reader.groupRest
    pure (.expression (" ".intercalate (inside.map Token.text)))
  | some (.word w) =>
    if Text.sameWord w "null" then pure .null
    else if Text.sameWord w "current_timestamp" || Text.sameWord w "now" then do
      Reader.skipGroup
      pure .now
    else if Text.sameWord w "true" || Text.sameWord w "false" then pure (.literal w)
    else pure (.expression (Text.asciiUpper w))
  | some other => Reader.fail (Reader.misplaced context other)

/-- Passes over one token and reads nothing from it. -/
def ignoreNext : Reader ColumnOption := do
  let _ ← Reader.next
  pure .ignored

/-- Reads the option that a keyword starts. -/
def readKeyword (context : String) (word : String) : Reader ColumnOption :=
  let is (keyword : String) : Bool := Text.sameWord word keyword
  if is "not" then do
    Reader.expectKeyword context "null"
    pure .notNull
  else if is "null" then pure .null
  else if is "default" then do return .default (← readDefault context)
  else if is "auto_increment" || is "autoincrement" then pure .autoIncrement
  else if is "unsigned" then pure .unsigned
  else if is "zerofill" then pure .ignored
  else if is "primary" then do
    Reader.expectKeyword context "key"
    pure .primaryKey
  else if is "unique" then do
    let _ ← Reader.eatKeyword "key"
    pure .unique
  else if is "references" then do return .references (← readTarget context)
  else if is "on" then do
    Reader.expectKeyword context "update"
    let _ ← Reader.next
    Reader.skipGroup
    pure .ignored
  else if is "collate" || is "charset" then ignoreNext
  else if is "character" then do
    Reader.expectKeyword context "set"
    ignoreNext
  else if is "comment" then ignoreNext
  else if is "check" then do
    Reader.skipGroup
    pure .ignored
  else Reader.fail (Reader.misplaced context (.word word))

/-- Reads the option that a token starts. -/
def readOption (context : String) (t : Token) : Reader ColumnOption :=
  match t with
  | .comment body =>
    if Text.sameWord body "unsigned" then pure .unsignedComment
    else match TypeSpec.ofText body with
      | .ok spec => pure (.origin spec)
      | .error _ => pure .ignored
  | .word w => readKeyword context w
  | t => Reader.fail (Reader.misplaced context t)

/-- Reads the options of a column clause up to its end. -/
def readOptions (context : String) : List Token → Except Error (List ColumnOption)
  | [] => .ok []
  | t :: ts =>
    match readOption context t ts with
    | .error e => .error e
    | .ok p => (readOptions context p.rest).map (p.value :: ·)
termination_by ts => ts.length
decreasing_by have := p.rest_le; simp; omega

/-! ## Column clauses -/

/-- A column clause: the column with its type, and its options. -/
structure ColumnClause where
  column : Column
  options : List ColumnOption
deriving DecidableEq, Repr

namespace ColumnClause

/-- The default of a column after a `DEFAULT` clause: the current time is the use-current flag on
columns that have one and an expression on others. -/
def applyDefault (c : Column) : DefaultClause → Column
  | .null => { c with default := none }
  | .now =>
    if c.type.isTemporal then { c with useCurrent := true, default := none }
    else { c with default := some (.raw "CURRENT_TIMESTAMP") }
  | .literal text => { c with default := some (.ofLiteral text c.type) }
  | .expression sql => { c with default := some (.raw sql) }

/-- What an option does to the column. -/
def apply (c : Column) : ColumnOption → Column
  | .unsignedComment => { c with unsigned := true }
  | .origin spec => (spec.applyLogical? c).getD c
  | .notNull => { c with nullable := false }
  | .default value => applyDefault c value
  | .autoIncrement => { c with autoIncrement := true }
  | .unsigned => { c with unsigned := c.type.isSignable }
  | .primaryKey => { c with nullable := false }
  | .references target =>
    { c with
      foreign := some
        { table := target.table, column := (target.columns.getLast?).getD c.name,
          onDelete := target.onDelete, onUpdate := target.onUpdate } }
  | .null | .unique | .ignored => c

/-- The column a clause describes. An auto-incrementing column is never nullable, and an explicit
`NULL` makes any other column nullable, wherever it stands. -/
def described (clause : ColumnClause) : Column :=
  let c := clause.options.foldl apply { clause.column with nullable := true }
  if c.autoIncrement then { c with nullable := false }
  else if clause.options.contains .null then { c with nullable := true }
  else c

/-- The indexes a clause asks for. -/
def inlineIndexes (clause : ColumnClause) : List Index :=
  clause.options.filterMap fun
    | .primaryKey => some { kind := .primary, columns := [clause.column.name] }
    | .unique => some { kind := .unique, columns := [clause.column.name] }
    | _ => none

theorem name_apply (c : Column) (option : ColumnOption) : (apply c option).name = c.name := by
  cases option with
  | default value =>
    cases value <;> simp only [apply, applyDefault]
    split <;> rfl
  | origin spec =>
    simp only [apply]
    cases h : spec.applyLogical? c with
    | none => rfl
    | some d =>
      obtain ⟨type, -, rfl⟩ := Option.map_eq_some_iff.1 h
      exact TypeSpec.name_give ..
  | _ => rfl

end ColumnClause

/-- Reads a column clause. -/
def readColumn (table context : String) (tokens : List Token) : Except Error ColumnClause := do
  let (name, rest) ← (Reader.name context).run tokens
  let (physical, rest) ← TypeSpec.read.run rest
  match physical.applyMySql? { name, type := .text } with
  | none =>
    .error (.unknownToken physical.name ("column " ++ table ++ "." ++ name))
  | some column => return { column, options := ← readOptions context rest }

/-! ## Table clauses -/

/-- What a clause of a table definition contributes. -/
structure TableParts where
  columns : List Column := []
  indexes : List Index := []
  foreignKeys : List ForeignKey := []
deriving DecidableEq, Repr

namespace TableParts

/-- The parts of two runs of clauses together. -/
def append (a b : TableParts) : TableParts :=
  { columns := a.columns ++ b.columns, indexes := a.indexes ++ b.indexes,
    foreignKeys := a.foreignKeys ++ b.foreignKeys }

/-- A single index. -/
def ofIndex (i : Index) : TableParts := { indexes := [i] }

/-- A single foreign key. -/
def ofForeignKey (fk : ForeignKey) : TableParts := { foreignKeys := [fk] }

/-- What a column clause contributes. -/
def ofColumn (clause : ColumnClause) : TableParts :=
  { columns := [clause.described], indexes := clause.inlineIndexes }

end TableParts

/-- Reads a primary, unique or foreign key of a table, with the name its `CONSTRAINT` gave it. A
unique key prefers its own name, a foreign key that of the constraint. -/
def readConstraint (context : String) (name : Option String) : Reader TableParts := do
  if ← Reader.eatKeyword "primary" then
    Reader.expectKeyword context "key"
    let columns ← Reader.columnList context
    Reader.finish context
    pure (.ofIndex { kind := .primary, columns })
  else if ← Reader.eatKeyword "unique" then
    unless ← Reader.eatKeyword "key" do
      let _ ← Reader.eatKeyword "index"
    let ownName ← Reader.optionalName context
    let columns ← Reader.columnList context
    Reader.finish context
    pure (.ofIndex { kind := .unique, columns, name := ownName <|> name })
  else if ← Reader.eatKeyword "foreign" then
    Reader.expectKeyword context "key"
    let ownName ← Reader.optionalName context
    let columns ← Reader.columnList context
    let target ← readReference context
    Reader.finish context
    pure (.ofForeignKey
      { columns, table := target.table, references := target.columns,
        onDelete := target.onDelete, onUpdate := target.onUpdate, name := name <|> ownName })
  else Reader.unexpected context

/-- The keywords of the constraints that can have a name in front. -/
def constraintOpeners : List String := ["primary", "unique", "foreign"]

/-- Reads the name between `CONSTRAINT` and the keyword of the constraint, if there is one. -/
def readConstraintName (context : String) : Reader (Option String) := do
  match ← Reader.peek with
  | none => Reader.fail (Reader.ended context)
  | some t =>
    if constraintOpeners.any t.isKeyword then pure none
    else return some (← Reader.name context)

/-- Reads a plain index after its keyword. -/
def readIndex (context : String) : Reader TableParts := do
  let name ← Reader.optionalName context
  let columns ← Reader.columnList context
  Reader.finish context
  pure (.ofIndex { kind := .index, columns, name })

/-- Reads a clause of a table definition. -/
def readClause (table : String) (tokens : List Token) : Except Error TableParts :=
  let context := "table " ++ table
  match tokens with
  | [] => .error (.badMatch (.emptyClause table))
  | first :: rest =>
    let starts (keyword : String) : Bool := first.isKeyword keyword
    if starts "constraint" then
      (readConstraintName context >>= readConstraint context).run rest |>.map Prod.fst
    else if constraintOpeners.any starts then
      (readConstraint context none).run tokens |>.map Prod.fst
    else if starts "key" || starts "index" then
      (readIndex context).run rest |>.map Prod.fst
    else if starts "check" then .ok {}
    else if starts "fulltext" || starts "spatial" then
      .error (Reader.misplaced context first)
    else (readColumn table context tokens).map TableParts.ofColumn

/-- Reads the clauses of a table definition in order. -/
def readClauses (table : String) : List (List Token) → Except Error TableParts
  | [] => .ok {}
  | clause :: clauses =>
    match readClause table clause with
    | .error e => .error e
    | .ok first => (readClauses table clauses).map first.append

/-! ## Statements -/

/-- The storage engine among the table options; the last one named counts. -/
def readEngine (engine : Option String) : List Token → Option String
  | [] => engine
  | [t] => if t.isKeyword "engine" then none else engine
  | t :: u :: ts =>
    if t.isKeyword "engine" then
      if u = .symbol '=' then
        match ts with
        | [] => none
        | v :: ts => readEngine v.name? ts
      else readEngine u.name? ts
    else readEngine engine (u :: ts)

/-- The first words of a statement, as messages show them. -/
def opening (tokens : List Token) : String := " ".intercalate ((tokens.take 3).map Token.text)

/-- Reads the head of a table definition up to the opening parenthesis: the table's name. -/
def readHead (whole : List Token) : Reader String := do
  unless ← Reader.eatKeyword "create" do
    Reader.fail (.badMatch (.notCreateTable (opening whole)))
  let _ ← Reader.eatKeyword "temporary"
  unless ← Reader.eatKeyword "table" do
    Reader.fail (.badMatch (.notCreateTable (opening whole)))
  if ← Reader.eatKeyword "if" then
    Reader.expectKeyword "CREATE TABLE" "not"
    Reader.expectKeyword "CREATE TABLE" "exists"
  let table ← Reader.qualifiedName "CREATE TABLE"
  Reader.expectToken "CREATE TABLE" .leftParen
  pure table

/-- The blueprint of a new table with the given parts. -/
def ofParts (table : String) (engine : Option String) (parts : TableParts) : Blueprint :=
  { table
    engine
    columns := parts.columns
    commands :=
      .create :: parts.indexes.map .addIndex ++ parts.foreignKeys.map .addForeign }

/-- Reads a table definition. -/
def readTable (tokens : List Token) : Except Error Blueprint := do
  let ((table, inside), rest) ←
    (do
      let table ← readHead tokens
      let inside ← Reader.groupRest
      pure (table, inside) : Reader (String × List Token)).run tokens
  let parts ← readClauses table (Token.splitTopLevel inside)
  return (ofParts table (readEngine none rest) parts).canonical

/-- The statements of a script: what stands between semicolons, without the comments in front,
and without the empty ones. -/
def statements (tokens : List Token) : List (List Token) :=
  ((Token.splitAt .semicolon tokens).map (List.dropWhile Token.isComment)).filter
    fun statement => !statement.isEmpty

/-- Reads every table definition of a script. -/
def readTables (sql : String) : Except Error (List Blueprint) := do
  (statements (← Token.scan sql)).mapM readTable

/-- Reads a script that holds exactly one table definition. -/
def readOneTable (sql : String) : Except Error Blueprint := do
  match ← readTables sql with
  | [b] => pure b
  | [] => .error (.badMatch .noStatement)
  | several => .error (.badMatch (.severalStatements several.length))

end SchemaShift.Ddl
