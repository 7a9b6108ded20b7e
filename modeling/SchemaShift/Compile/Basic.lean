import SchemaShift.Compile.MySql
import SchemaShift.Compile.Postgres
import SchemaShift.Compile.Sqlite
import SchemaShift.Identifier

/-!
# Compiling blueprints

A blueprint is checked first, the table's name and then column by column, and then its commands
are compiled in order for the engine of a session. Compiling executes nothing; building compiles
and then executes.

* `check_eq_ok_iff`: what a blueprint has to satisfy to be compiled.
* `toSql_eq_ok_iff`: the SQL of a blueprint is the text of its statements.
-/

namespace SchemaShift.Blueprint

variable {σ : Type}

/-- Checks the names and the descriptors of columns, column by column. -/
def checkColumns : List Column → Except Error Unit
  | [] => .ok ()
  | c :: cs => do
    Identifier.check c.name
    c.check
    checkColumns cs

/-- Checks the name of the table and the columns. -/
def check (b : Blueprint) : Except Error Unit := do
  Identifier.check b.table
  checkColumns b.columns

/-- The statements of one command for the engine of a session. -/
def compile (session : Session σ) (b : Blueprint) (c : Command) :
    DbM σ (List Sql.Statement) :=
  match session.dialect with
  | .mySql => DbM.ofExcept (Compile.MySql.compile b c)
  | .postgres => DbM.ofExcept (Compile.Postgres.compile b c)
  | .sqlite => Compile.Sqlite.compile session b c

/-- The statements of several commands. -/
def compileAll (session : Session σ) (b : Blueprint) : List Command → DbM σ (List Sql.Statement)
  | [] => pure []
  | c :: cs => do
    let first ← b.compile session c
    let others ← b.compileAll session cs
    return first ++ others

/-- The statements of a blueprint for the engine of a session. -/
def statements (session : Session σ) (b : Blueprint) : DbM σ (List Sql.Statement) := do
  DbM.ofExcept b.check
  b.compileAll session b.compiledCommands

/-- The statements of a blueprint as the engine of a session writes them. -/
def toSql (session : Session σ) (b : Blueprint) : DbM σ (List String) := do
  return (← b.statements session).map (·.render session.dialect)

/-- Compiles a blueprint and executes its statements in order. -/
def build (session : Session σ) (b : Blueprint) : DbM σ Unit := do
  session.executeAll (← b.toSql session)

theorem checkColumns_eq_ok_iff {cs : List Column} :
    checkColumns cs = .ok () ↔ ∀ c ∈ cs, Identifier.Valid c.name ∧ c.Valid := by
  induction cs with
  | nil => simp [checkColumns]
  | cons c cs ih =>
    rw [List.forall_mem_cons, ← Identifier.check_eq_ok_iff, ← Column.check_eq_ok_iff, ← ih,
      checkColumns]
    cases Identifier.check c.name <;> cases c.check <;> simp [bind, Except.bind]

theorem check_eq_ok_iff {b : Blueprint} :
    b.check = .ok () ↔
      Identifier.Valid b.table ∧ ∀ c ∈ b.columns, Identifier.Valid c.name ∧ c.Valid := by
  rw [← Identifier.check_eq_ok_iff, ← checkColumns_eq_ok_iff, check]
  cases Identifier.check b.table <;> simp [bind, Except.bind]

/-- The SQL of a blueprint is the text of its statements. -/
theorem toSql_eq_ok_iff {session : Session σ} {b : Blueprint} {x x' : σ} {sqls : List String} :
    (b.toSql session).result x = (.ok sqls, x') ↔
      ∃ ss, (b.statements session).result x = (.ok ss, x') ∧
        sqls = ss.map (·.render session.dialect) := by
  constructor
  · intro h
    obtain ⟨ss, x₁, compiled, h⟩ := DbM.result_bind_eq_ok_iff.1 h
    obtain ⟨rfl, rfl⟩ := DbM.result_pure_eq_ok_iff.1 h
    exact ⟨ss, compiled, rfl⟩
  · rintro ⟨ss, compiled, rfl⟩
    exact DbM.result_bind_eq_ok_iff.2 ⟨ss, x', compiled, rfl⟩

end SchemaShift.Blueprint
