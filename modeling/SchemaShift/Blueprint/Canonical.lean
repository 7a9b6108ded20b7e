import SchemaShift.Blueprint.Basic

/-!
# The canonical form of a blueprint

Catalogs and scripts state more than a document needs. In canonical form the primary key on the
auto-incrementing column is implied by the column, plain indexes named after a foreign key are left
to the engine, names equal to the derived ones are forgotten, and a foreign key on one column is a
role of that column. The commands implied by the columns of a blueprint are the other half: they
put back what the roles stand for.
-/

namespace SchemaShift.Blueprint

/-! ## Implied commands -/

/-- The foreign keys that the roles of new columns stand for. -/
def impliedForeignKeys (b : Blueprint) : List ForeignKey :=
  b.addedColumns.filterMap fun c => c.foreign.map fun role => role.toKey c.name

/-- The commands of an existing table's blueprint that its columns imply ahead of the others. -/
def impliedLeading (b : Blueprint) : List Command :=
  if b.creating then []
  else
    (if b.changedColumns.isEmpty then [] else [.change]) ++
      (if b.addedColumns.isEmpty then [] else [.add])

/-- The commands to compile: what the columns of an existing table imply, the explicit commands,
and the foreign keys of column roles. -/
def compiledCommands (b : Blueprint) : List Command :=
  b.impliedLeading ++ b.commands ++ b.impliedForeignKeys.map .addForeign

/-! ## Canonical form -/

/-- The foreign key as a role of its only column, if it has one column on either side. -/
def role? (fk : ForeignKey) : Option (String × ForeignRole) :=
  match fk.columns, fk.references with
  | [column], [reference] =>
    some (column,
      { table := fk.table, column := reference, onDelete := fk.onDelete, onUpdate := fk.onUpdate,
        name := fk.name })
  | _, _ => none

/-- Gives a role to the first column of the given name that has none. -/
def giveRole (name : String) (role : ForeignRole) : List Column → Option (List Column)
  | [] => none
  | c :: cs =>
    if c.name = name ∧ c.foreign = none then some ({ c with foreign := some role } :: cs)
    else (giveRole name role cs).map (c :: ·)

/-- What the canonical form of a command depends on. -/
structure Surroundings where
  table : String
  /-- The name of the auto-incrementing column. -/
  increment : Option String
  /-- The names of the foreign keys. -/
  foreignNames : List String

/-- The surroundings of the commands of a blueprint. -/
def surroundings (b : Blueprint) : Surroundings :=
  { table := b.table
    increment := b.autoIncrement?.map (·.name)
    foreignNames := b.foreignKeys.map (·.resolvedName b.table) }

/-- An index that the canonical form leaves out: the primary key on the auto-incrementing column
alone, or a plain index named after a foreign key. -/
def Surroundings.omits (s : Surroundings) (i : Index) : Bool :=
  match i.kind with
  | .primary => match i.columns, s.increment with
    | [column], some increment => column == increment
    | _, _ => false
  | .unique => false
  | .index => match i.name with
    | some name => s.foreignNames.contains name
    | none => false

/-- The columns and the commands after one more command has been brought into canonical form. -/
def Surroundings.step (s : Surroundings) (columns : List Column) :
    Command → List Column × List Command
  | .addIndex i => (columns, if s.omits i then [] else [.addIndex (i.forgetDerived s.table)])
  | .addForeign fk =>
    let plain := fk.forgetDerived s.table
    match (role? plain).bind fun (column, role) => giveRole column role columns with
    | some given => (given, [])
    | none => (columns, [.addForeign plain])
  | c => (columns, [c])

/-- The columns and the commands after all commands have been brought into canonical form. -/
def Surroundings.steps (s : Surroundings) (columns : List Column) :
    List Command → List Column × List Command
  | [] => (columns, [])
  | c :: cs =>
    let (columns, first) := s.step columns c
    let (columns, others) := s.steps columns cs
    (columns, first ++ others)

/-- The canonical form of a blueprint. -/
def canonical (b : Blueprint) : Blueprint :=
  let (columns, commands) := b.surroundings.steps b.columns b.commands
  { b with columns, commands }

end SchemaShift.Blueprint
