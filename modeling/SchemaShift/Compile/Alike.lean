import SchemaShift.Compile.Basic
import SchemaShift.Session.Relation

/-!
# What sessions are used for

Reading the catalog and compiling blueprints ask queries only, and building them executes statements
too. Sessions that are alike are used alike.

* `QueriesAlike.table`: a table is read from the catalog alike.
* `QueriesAlike.statements`: a blueprint is compiled alike.
* `Alike.build`: a blueprint is built alike.
-/

namespace SchemaShift.Session

variable {σ τ : Type} {R : ActionRelation σ τ} {a : Session σ} {b : Session τ}

namespace QueriesAlike

/-! ## The catalog -/

theorem columnHints (h : a.QueriesAlike R b) (table : String) :
    R.holds (Catalog.columnHints a table) (Catalog.columnHints b table) := by
  refine R.bind (h.select _) fun rows => ?_
  cases rows.head?.bind (·.text? "sql") with
  | some sql => exact R.ofExcept _
  | none => exact R.pure _

theorem columns (h : a.QueriesAlike R b) (table : String) :
    R.holds (Catalog.columns a table) (Catalog.columns b table) := by
  unfold Catalog.columns
  rw [h.dialect, h.database]
  cases a.dialect with
  | mySql => exact R.bind (h.select _) fun rows => R.ofExcept _
  | postgres =>
    refine R.bind (h.select _) fun rows => R.bind (R.ofExcept _) fun columns => ?_
    split
    · exact R.bind (h.select _) fun checks => R.pure _
    · exact R.pure _
  | sqlite =>
    exact R.bind (h.columnHints table) fun hints => R.bind (h.select _) fun rows => R.ofExcept _

theorem sqliteIndexes (h : a.QueriesAlike R b) (rows : List Row) :
    R.holds (Catalog.sqliteIndexes a rows) (Catalog.sqliteIndexes b rows) := by
  induction rows with
  | nil => exact R.pure _
  | cons row rows ih =>
    unfold Catalog.sqliteIndexes
    split
    · exact ih
    · exact R.bind (h.select _) fun columns => R.bind ih fun others => R.pure _

theorem indexes (h : a.QueriesAlike R b) (table : String) :
    R.holds (Catalog.indexes a table) (Catalog.indexes b table) := by
  unfold Catalog.indexes
  rw [h.dialect, h.database]
  cases a.dialect with
  | mySql | postgres => exact R.bind (h.select _) fun rows => R.pure _
  | sqlite =>
    exact R.bind (h.select _) fun info => R.bind (h.select _) fun rows =>
      R.bind (h.sqliteIndexes rows) fun others => R.pure _

theorem foreignKeys (h : a.QueriesAlike R b) (table : String) :
    R.holds (Catalog.foreignKeys a table) (Catalog.foreignKeys b table) := by
  unfold Catalog.foreignKeys
  rw [h.dialect, h.database]
  exact R.bind (h.select _) fun rows => R.pure _

theorem table (h : a.QueriesAlike R b) (name : String) :
    R.holds (Catalog.table a name) (Catalog.table b name) := by
  unfold Catalog.table
  refine R.bind (h.columns name) fun columns => ?_
  have described : R.holds
      (do
        let indexes ← Catalog.indexes a name
        let foreignKeys ← Catalog.foreignKeys a name
        return (Catalog.ofParts name columns indexes foreignKeys).canonical)
      (do
        let indexes ← Catalog.indexes b name
        let foreignKeys ← Catalog.foreignKeys b name
        return (Catalog.ofParts name columns indexes foreignKeys).canonical) :=
    R.bind (h.indexes name) fun indexes => R.bind (h.foreignKeys name) fun keys => R.pure _
  split
  · exact R.bind (R.throw _) fun _ => described
  · exact described

/-! ## Compiling -/

theorem withoutForeignKeys (h : a.QueriesAlike R b) (statements : List Sql.Statement) :
    R.holds (Compile.Sqlite.withoutForeignKeys a statements)
      (Compile.Sqlite.withoutForeignKeys b statements) :=
  R.bind (R.bind (h.select _) fun _ => R.pure _) fun _ => R.pure _

theorem compileRebuild (h : a.QueriesAlike R b) (blueprint : Blueprint) :
    R.holds (Compile.Sqlite.compileRebuild a blueprint)
      (Compile.Sqlite.compileRebuild b blueprint) := by
  unfold Compile.Sqlite.compileRebuild
  dsimp only
  split
  · exact R.pure _
  · refine R.bind (R.bind (h.table _) fun current => R.ofExcept _) fun statements => ?_
    split
    · exact R.pure _
    · exact h.withoutForeignKeys statements

theorem compileSqlite (h : a.QueriesAlike R b) (blueprint : Blueprint) (c : Command) :
    R.holds (Compile.Sqlite.compile a blueprint c) (Compile.Sqlite.compile b blueprint c) := by
  unfold Compile.Sqlite.compile
  cases c with
  | create | add => exact R.ofExcept _
  | change => exact h.compileRebuild blueprint
  | drop | dropIfExists | rename _ | dropUnique _ | dropIndex _ => exact R.pure _
  | dropColumns columns =>
    dsimp only
    split
    · exact h.compileRebuild blueprint
    · exact R.pure _
  | renameColumn source target => exact h.withoutForeignKeys _
  | addIndex i =>
    dsimp only
    unfold Compile.Sqlite.addIndex
    split
    · split
      · exact R.pure _
      · exact R.throw _
    · exact R.pure _
  | addForeign key =>
    dsimp only
    split
    · exact R.pure _
    · exact R.throw _
  | dropPrimary _ | dropForeign _ => exact R.throw _

theorem compile (h : a.QueriesAlike R b) (blueprint : Blueprint) (c : Command) :
    R.holds (blueprint.compile a c) (blueprint.compile b c) := by
  unfold Blueprint.compile
  rw [h.dialect]
  cases a.dialect with
  | mySql | postgres => exact R.ofExcept _
  | sqlite => exact h.compileSqlite blueprint c

theorem compileAll (h : a.QueriesAlike R b) (blueprint : Blueprint) (cs : List Command) :
    R.holds (blueprint.compileAll a cs) (blueprint.compileAll b cs) := by
  induction cs with
  | nil => exact R.pure _
  | cons c cs ih =>
    exact R.bind (h.compile blueprint c) fun first => R.bind ih fun others => R.pure _

theorem statements (h : a.QueriesAlike R b) (blueprint : Blueprint) :
    R.holds (blueprint.statements a) (blueprint.statements b) :=
  R.bind (R.ofExcept _) fun _ => h.compileAll blueprint _

theorem toSql (h : a.QueriesAlike R b) (blueprint : Blueprint) :
    R.holds (blueprint.toSql a) (blueprint.toSql b) := by
  unfold Blueprint.toSql
  rw [h.dialect]
  exact R.bind (h.statements blueprint) fun _ => R.pure _

end QueriesAlike

namespace Alike

/-! ## Executing -/

theorem executeAll (h : a.Alike R b) (statements : List String) :
    R.holds (a.executeAll statements) (b.executeAll statements) := by
  induction statements with
  | nil => exact R.pure _
  | cons sql rest ih => exact R.bind (h.execute sql) fun _ => ih

theorem build (h : a.Alike R b) (blueprint : Blueprint) :
    R.holds (blueprint.build a) (blueprint.build b) :=
  R.bind (h.toQueriesAlike.toSql blueprint) h.executeAll

end Alike

end SchemaShift.Session
