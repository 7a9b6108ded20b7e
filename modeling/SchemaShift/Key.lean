import SchemaShift.Text.Blank
import SchemaShift.Text.Case

/-!
# Keys

Index and foreign-key descriptors and the names they get when none is given: the table, the
columns and the kind of key, joined by underscores and lowered.

* `Index.resolvedName_forgetDerived`: forgetting a name equal to the derived one keeps the name
  that statements use, except for primary keys, whose name no statement uses.
* `ForeignKey.resolvedName_forgetDerived`: the same for foreign keys.
* `ForeignAction.ofRule?_sql`: an action is read back from its SQL form.
-/

namespace SchemaShift

/-! ## Names -/

/-- The name of a key without one: table, columns and suffix joined by underscores, lowered, with
underscores for hyphens and dots. -/
def derivedName (table : String) (columns : List String) (suffix : String) : String :=
  let joined := table ++ "_" ++ "_".intercalate columns ++ "_" ++ suffix
  String.ofList ((Text.lower joined).toList.map fun c => if c = '-' ∨ c = '.' then '_' else c)

/-! ## Indexes -/

/-- The kind of an index. -/
inductive IndexKind where
  | primary
  | unique
  | index
deriving DecidableEq, Repr

namespace IndexKind

/-- The name of a kind in documents and in derived names. -/
def name : IndexKind → String
  | primary => "primary"
  | unique => "unique"
  | index => "index"

/-- The kind with a given name. -/
def ofName? (s : String) : Option IndexKind := [primary, unique, index].find? (·.name == s)

theorem ofName?_name (k : IndexKind) : ofName? k.name = some k := by cases k <;> decide

end IndexKind

/-- An index over columns, in their order. -/
structure Index where
  kind : IndexKind
  columns : List String
  name : Option String := none
deriving DecidableEq, Repr

namespace Index

/-- The name an index without one gets. -/
def derived (i : Index) (table : String) : String := derivedName table i.columns i.kind.name

/-- The name of an index on a table: the given or the derived one. -/
def resolvedName (i : Index) (table : String) : String := i.name.getD (i.derived table)

/-- Forgets the name of a primary key and any name equal to the derived one. -/
def forgetDerived (i : Index) (table : String) : Index :=
  if i.kind = .primary ∨ i.name = some (i.derived table) then { i with name := none } else i

theorem kind_forgetDerived (i : Index) (table : String) :
    (i.forgetDerived table).kind = i.kind := by
  unfold forgetDerived; split <;> rfl

theorem columns_forgetDerived (i : Index) (table : String) :
    (i.forgetDerived table).columns = i.columns := by
  unfold forgetDerived; split <;> rfl

theorem resolvedName_forgetDerived {i : Index} (table : String) (h : i.kind ≠ .primary) :
    (i.forgetDerived table).resolvedName table = i.resolvedName table := by
  unfold forgetDerived
  split
  · rename_i named
    simp only [h, false_or] at named
    simp [resolvedName, derived, named]
  · rfl

end Index

/-! ## Foreign keys -/

/-- What happens to referencing rows when a referenced row is deleted or changed. -/
inductive ForeignAction where
  | noAction
  | restrict
  | cascade
  | setNull
  | setDefault
deriving DecidableEq, Repr

namespace ForeignAction

/-- Every action. -/
def all : List ForeignAction := [noAction, restrict, cascade, setNull, setDefault]

/-- The SQL form of an action. -/
def sql : ForeignAction → String
  | noAction => "NO ACTION"
  | restrict => "RESTRICT"
  | cascade => "CASCADE"
  | setNull => "SET NULL"
  | setDefault => "SET DEFAULT"

/-- The name of an action in documents. -/
def name : ForeignAction → String
  | noAction => "no_action"
  | restrict => "restrict"
  | cascade => "cascade"
  | setNull => "set_null"
  | setDefault => "set_default"

/-- The letter of an action in the PostgreSQL catalog. -/
def letter : ForeignAction → String
  | noAction => "a"
  | restrict => "r"
  | cascade => "c"
  | setNull => "n"
  | setDefault => "d"

/-- The action with a given document name. -/
def ofName? (s : String) : Option ForeignAction := all.find? (·.name == s)

/-- The action a catalog or a statement names, in any case, with blanks or underscores. -/
def ofRule? (rule : String) : Option ForeignAction :=
  let words := (Text.asciiUpper (Text.trim rule)).toList.map fun c => if c = '_' then ' ' else c
  all.find? (·.sql == String.ofList words)

/-- The action of a PostgreSQL catalog letter. -/
def ofLetter? (code : String) : Option ForeignAction := all.find? (·.letter == Text.trim code)

/-- Whether an action differs from what engines do without one. -/
def isExplicit : ForeignAction → Bool
  | noAction | restrict => false
  | _ => true

/-- An action worth writing down. -/
def explicit (action : Option ForeignAction) : Option ForeignAction := action.filter isExplicit

theorem ofName?_name (a : ForeignAction) : ofName? a.name = some a := by cases a <;> decide

theorem ofRule?_sql (a : ForeignAction) : ofRule? a.sql = some a := by
  cases a <;> decide +kernel

end ForeignAction

/-- A foreign key from columns of a table to columns of another. -/
structure ForeignKey where
  columns : List String
  table : String
  references : List String
  onDelete : Option ForeignAction := none
  onUpdate : Option ForeignAction := none
  name : Option String := none
deriving DecidableEq, Repr

namespace ForeignKey

/-- The name a foreign key without one gets. -/
def derived (fk : ForeignKey) (table : String) : String := derivedName table fk.columns "foreign"

/-- The name of a foreign key of a table: the given or the derived one. -/
def resolvedName (fk : ForeignKey) (table : String) : String := fk.name.getD (fk.derived table)

/-- Forgets a name equal to the derived one. -/
def forgetDerived (fk : ForeignKey) (table : String) : ForeignKey :=
  if fk.name = some (fk.derived table) then { fk with name := none } else fk

theorem resolvedName_forgetDerived (fk : ForeignKey) (table : String) :
    (fk.forgetDerived table).resolvedName table = fk.resolvedName table := by
  unfold forgetDerived
  split
  · rename_i named
    simp [resolvedName, derived, named]
  · rfl

end ForeignKey

end SchemaShift
