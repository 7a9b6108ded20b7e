import SchemaShift.Key

/-!
# Structural commands

The commands a blueprint can hold and the verb that names each of them in messages.

* `verb_addIndex`: an index command is named after the kind of its index.
-/

namespace SchemaShift

/-- A pending structural command. -/
inductive Command where
  | create
  | add
  | change
  | drop
  | dropIfExists
  | rename (target : String)
  | dropColumns (columns : List String)
  | renameColumn (source target : String)
  /-- Adds a primary key, a unique index or a plain one. The kind of the index says which of these
  commands it is, so that no command has an index of another kind. -/
  | addIndex (index : Index)
  | addForeign (key : ForeignKey)
  | dropPrimary (name : Option String)
  | dropUnique (name : String)
  | dropIndex (name : String)
  | dropForeign (name : String)
deriving DecidableEq, Repr

namespace Command

/-- The verb of a command. -/
def verb : Command → String
  | create => "create"
  | add => "add"
  | change => "change"
  | drop => "drop"
  | dropIfExists => "drop_if_exists"
  | rename _ => "rename"
  | dropColumns _ => "drop_column"
  | renameColumn .. => "rename_column"
  | addIndex i => i.kind.name
  | addForeign _ => "foreign"
  | dropPrimary _ => "drop_primary"
  | dropUnique _ => "drop_unique"
  | dropIndex _ => "drop_index"
  | dropForeign _ => "drop_foreign"

theorem verb_addIndex (i : Index) : (addIndex i).verb = i.kind.name := rfl

/-- The index an index command adds. -/
def index? : Command → Option Index
  | addIndex i => some i
  | _ => none

/-- The foreign key a command adds. -/
def foreignKey? : Command → Option ForeignKey
  | addForeign fk => some fk
  | _ => none

/-- The columns a command drops, if it drops columns. -/
def droppedColumns? : Command → Option (List String)
  | dropColumns columns => some columns
  | _ => none

end Command

end SchemaShift
