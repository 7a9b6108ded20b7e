import SchemaShift.Catalog.Table
import SchemaShift.Dump.Order
import SchemaShift.Migration.Basic

/-!
# Dumping a schema

A dump is a migration whose steps up create every table, referenced tables first, and whose steps
down drop them in the reverse order. Columns keep the order of the catalog or are put in order of
priority: counting columns, then foreign ones, integers, strings, times and all others.

* `sortedColumns_perm`: sorting keeps the columns.
* `down_document`: the steps down undo those up in the reverse order.
-/

namespace SchemaShift.Dump

/-! ## Options -/

/-- The order of columns in a dump. -/
inductive ColumnOrder where
  | priority
  | catalog
deriving DecidableEq, Repr

namespace ColumnOrder

/-- The name of an order in settings. -/
def name : ColumnOrder → String
  | priority => "priority"
  | catalog => "catalog"

/-- The order with a given name. -/
def ofName? (s : String) : Option ColumnOrder := [priority, catalog].find? (·.name == s)

theorem ofName?_name (o : ColumnOrder) : ofName? o.name = some o := by cases o <;> decide

end ColumnOrder

/-- Settings of a dump. -/
structure Options where
  order : ColumnOrder := .priority
  /-- Tables to leave out besides those that are always left out. -/
  ignored : List String := []
deriving DecidableEq, Repr

/-- The tables that are never dumped: the ledger, and what SQLite keeps for itself. -/
def alwaysIgnored : List String := ["migrations", "sqlite_sequence"]

/-- Whether a table is left out. -/
def Options.ignores (options : Options) (table : String) : Bool :=
  (alwaysIgnored ++ options.ignored).contains table

/-! ## Columns by priority -/

/-- The rank of a column in a dump by priority; lower ranks come first. -/
def rank (foreign : List String) (c : Column) : Nat :=
  if c.autoIncrement then 0
  else if c.foreign.isSome || foreign.contains c.name then 1
  else if c.type.isInteger then 2
  else if c.type.isString then 3
  else if c.type.isTemporal then 4
  else 5

/-- The columns that the foreign keys of a blueprint start from. -/
def foreignColumns (b : Blueprint) : List String := b.foreignKeys.flatMap (·.columns)

/-- Columns by rank; those of one rank keep their order. -/
def sortedColumns (b : Blueprint) (columns : List Column) : List Column :=
  columns.mergeSort fun x y => decide (rank (foreignColumns b) x ≤ rank (foreignColumns b) y)

theorem sortedColumns_perm (b : Blueprint) (columns : List Column) :
    (sortedColumns b columns).Perm columns := List.mergeSort_perm ..

/-! ## The document -/

/-- The plan that creates a table in a dump. -/
def plan (options : Options) (b : Blueprint) : TablePlan :=
  let plain := TablePlan.ofBlueprint b
  match options.order with
  | .priority => { plain with columns := sortedColumns b plain.columns }
  | .catalog => plain

/-- Blueprints in the order of their creation. -/
def inOrder (bs : List Blueprint) : List Blueprint := (creationOrder bs).filterMap (bs[·]?)

/-- The migration that creates the tables of blueprints. -/
def document (options : Options) (bs : List Blueprint) : MigrationDocument :=
  { up := (inOrder bs).map fun b => .create (plan options b)
    down := (inOrder bs).reverse.map fun b => .drop b.table }

theorem table_plan (options : Options) (b : Blueprint) : (plan options b).table = b.table := by
  unfold plan; cases options.order <;> rfl

theorem down_document (options : Options) (bs : List Blueprint) :
    (document options bs).down =
      (document options bs).up.reverse.filterMap fun
        | .create p => some (.drop p.table)
        | _ => none := by
  simp only [document, ← List.map_reverse, List.filterMap_map]
  induction (inOrder bs).reverse with
  | nil => rfl
  | cons b bs ih =>
    simp only [List.map_cons, List.filterMap_cons, Function.comp_apply, table_plan, ih]

/-! ## The live schema -/

variable {σ : Type}

/-- Tables as blueprints, up to the first that cannot be read. -/
def readAll (session : Session σ) : List String → DbM σ (List Blueprint)
  | [] => pure []
  | name :: rest => do
    let b ← Catalog.table session name
    return b :: (← readAll session rest)

/-- The tables of a session that are not left out, in catalog order. -/
def introspect (session : Session σ) (options : Options) : DbM σ (List Blueprint) := do
  let names ← Catalog.tables session
  readAll session (names.filter fun name => !options.ignores name)

end SchemaShift.Dump
