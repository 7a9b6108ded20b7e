import SchemaShift.Blueprint.Command
import SchemaShift.Column.Basic

/-!
# Blueprints

A blueprint describes one change of one table: its columns, and structural commands in the order
in which they take effect. Nothing is checked while it is filled.

* `mem_indexes_iff`, `mem_foreignKeys_iff`: the keys of a blueprint are those of its commands.
* `map_verb_addIndex`: an index is added by the command that is named after its kind.
* `modifyLast_addColumn`: a column that has just been added is the last one.
-/

namespace SchemaShift

/-- A description of one table change. The engine is the MySQL storage engine of a new table. -/
structure Blueprint where
  table : String
  columns : List Column := []
  commands : List Command := []
  engine : Option String := none
deriving DecidableEq, Repr

namespace Blueprint

/-! ## Views -/

/-- The first column with a given name. -/
def column? (b : Blueprint) (name : String) : Option Column := b.columns.find? (·.name == name)

/-- The indexes that commands add, in order. -/
def indexes (b : Blueprint) : List Index := b.commands.filterMap Command.index?

/-- The foreign keys that commands add, in order. -/
def foreignKeys (b : Blueprint) : List ForeignKey := b.commands.filterMap Command.foreignKey?

/-- Whether the blueprint makes a new table. -/
def creating (b : Blueprint) : Bool := b.commands.contains .create

/-- The first auto-incrementing column. -/
def autoIncrement? (b : Blueprint) : Option Column := b.columns.find? (·.autoIncrement)

/-- The columns that are new. -/
def addedColumns (b : Blueprint) : List Column := b.columns.filter fun c => !c.change

/-- The columns that redefine existing ones. -/
def changedColumns (b : Blueprint) : List Column := b.columns.filter (·.change)

/-- The columns that drop commands name, in order. -/
def droppedColumns (b : Blueprint) : List String :=
  (b.commands.filterMap Command.droppedColumns?).flatten

/-! ## Filling -/

/-- A blueprint that makes a new table. -/
def create (table : String) : Blueprint := { table, commands := [.create] }

/-- Adds a command at the end. -/
def push (b : Blueprint) (c : Command) : Blueprint := { b with commands := b.commands ++ [c] }

def drop (b : Blueprint) : Blueprint := b.push .drop

def dropIfExists (b : Blueprint) : Blueprint := b.push .dropIfExists

def rename (b : Blueprint) (target : String) : Blueprint := b.push (.rename target)

def dropColumns (b : Blueprint) (columns : List String) : Blueprint := b.push (.dropColumns columns)

def dropColumn (b : Blueprint) (column : String) : Blueprint := b.dropColumns [column]

def renameColumn (b : Blueprint) (source target : String) : Blueprint :=
  b.push (.renameColumn source target)

def dropPrimary (b : Blueprint) : Blueprint := b.push (.dropPrimary none)

def dropUnique (b : Blueprint) (name : String) : Blueprint := b.push (.dropUnique name)

def dropIndex (b : Blueprint) (name : String) : Blueprint := b.push (.dropIndex name)

def dropForeign (b : Blueprint) (name : String) : Blueprint := b.push (.dropForeign name)

def foreign (b : Blueprint) (key : ForeignKey) : Blueprint := b.push (.addForeign key)

/-- Adds an index, by the command of its kind. -/
def addIndex (b : Blueprint) (i : Index) : Blueprint := b.push (.addIndex i)

def primary (b : Blueprint) (columns : List String) : Blueprint :=
  b.addIndex { kind := .primary, columns }

def unique (b : Blueprint) (columns : List String) : Blueprint :=
  b.addIndex { kind := .unique, columns }

def index (b : Blueprint) (columns : List String) : Blueprint :=
  b.addIndex { kind := .index, columns }

/-- Adds a column at the end. -/
def addColumn (b : Blueprint) (c : Column) : Blueprint := { b with columns := b.columns ++ [c] }

/-- Changes the last column, if there is one. -/
def modifyLast (b : Blueprint) (f : Column → Column) : Blueprint :=
  match b.columns.reverse with
  | [] => b
  | last :: before => { b with columns := (f last :: before).reverse }

/-- Adds a column of a type without arguments. -/
def typed (b : Blueprint) (name : String) (type : ColumnType) : Blueprint :=
  b.addColumn { name, type }

def bigInteger (b : Blueprint) (name : String) : Blueprint := b.typed name .bigInteger

def integer (b : Blueprint) (name : String) : Blueprint := b.typed name .integer

def mediumInteger (b : Blueprint) (name : String) : Blueprint := b.typed name .mediumInteger

def smallInteger (b : Blueprint) (name : String) : Blueprint := b.typed name .smallInteger

def tinyInteger (b : Blueprint) (name : String) : Blueprint := b.typed name .tinyInteger

def text (b : Blueprint) (name : String) : Blueprint := b.typed name .text

def mediumText (b : Blueprint) (name : String) : Blueprint := b.typed name .mediumText

def longText (b : Blueprint) (name : String) : Blueprint := b.typed name .longText

def float (b : Blueprint) (name : String) : Blueprint := b.typed name .float

def double (b : Blueprint) (name : String) : Blueprint := b.typed name .double

def boolean (b : Blueprint) (name : String) : Blueprint := b.typed name .boolean

def json (b : Blueprint) (name : String) : Blueprint := b.typed name .json

def date (b : Blueprint) (name : String) : Blueprint := b.typed name .date

def dateTime (b : Blueprint) (name : String) : Blueprint := b.typed name .dateTime

def timestamp (b : Blueprint) (name : String) : Blueprint := b.typed name .timestamp

def time (b : Blueprint) (name : String) : Blueprint := b.typed name .time

def binary (b : Blueprint) (name : String) : Blueprint := b.typed name .binary

/-- Adds an integer column that the engine counts up. -/
def increments (b : Blueprint) (name : String) : Blueprint :=
  b.addColumn { name, type := .integer, autoIncrement := true }

def bigIncrements (b : Blueprint) (name : String) : Blueprint :=
  b.addColumn { name, type := .bigInteger, autoIncrement := true }

def string (b : Blueprint) (name : String) (length : UInt32) : Blueprint :=
  b.addColumn { name, type := .string, length := some length }

def char (b : Blueprint) (name : String) (length : UInt32) : Blueprint :=
  b.addColumn { name, type := .char, length := some length }

def decimal (b : Blueprint) (name : String) (precision scale : UInt32) : Blueprint :=
  b.addColumn { name, type := .decimal, precision := some precision, scale := some scale }

def enum (b : Blueprint) (name : String) (allowed : List String) : Blueprint :=
  b.addColumn { name, type := .enum, allowed }

/-- Adds nullable columns for the times of creation and of the last update. -/
def timestamps (b : Blueprint) : Blueprint :=
  let created := (b.timestamp "created_at").modifyLast Column.orNull
  (created.timestamp "updated_at").modifyLast Column.orNull

/-! ## Laws -/

theorem mem_indexes_iff {b : Blueprint} {i : Index} :
    i ∈ b.indexes ↔ Command.addIndex i ∈ b.commands := by
  simp only [indexes, List.mem_filterMap]
  constructor
  · rintro ⟨c, hc, h⟩
    cases c <;> simp_all [Command.index?]
  · exact fun h => ⟨_, h, rfl⟩

theorem mem_foreignKeys_iff {b : Blueprint} {fk : ForeignKey} :
    fk ∈ b.foreignKeys ↔ Command.addForeign fk ∈ b.commands := by
  simp only [foreignKeys, List.mem_filterMap]
  constructor
  · rintro ⟨c, hc, h⟩
    cases c <;> simp_all [Command.foreignKey?]
  · exact fun h => ⟨_, h, rfl⟩

theorem creating_iff {b : Blueprint} : b.creating = true ↔ Command.create ∈ b.commands := by
  simp [creating]

/-- The command of an index is named after its kind. -/
theorem map_verb_addIndex (b : Blueprint) (i : Index) :
    (b.addIndex i).commands.map Command.verb = b.commands.map Command.verb ++ [i.kind.name] := by
  rw [addIndex, push, List.map_append, List.map_singleton, Command.verb_addIndex]

/-- What is done to the last column is done to a column that has just been added. -/
theorem modifyLast_addColumn (b : Blueprint) (c : Column) (f : Column → Column) :
    (b.addColumn c).modifyLast f = b.addColumn (f c) := by
  simp [modifyLast, addColumn]

theorem columns_timestamps (b : Blueprint) :
    b.timestamps.columns = b.columns ++
      [{ name := "created_at", type := .timestamp, nullable := true },
        { name := "updated_at", type := .timestamp, nullable := true }] := by
  simp only [timestamps, timestamp, typed, modifyLast_addColumn]
  simp [addColumn, Column.orNull]

end Blueprint

end SchemaShift
