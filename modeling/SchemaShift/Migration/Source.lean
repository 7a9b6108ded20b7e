import SchemaShift.Files.Tree
import SchemaShift.Migration.Document

/-!
# Where migrations come from

Migrations are found by name. The file of a migration is named after it: digits, an underscore,
something more, and an extension of YAML files. Migrations may also be registered, and then come
before files.
-/

namespace SchemaShift

/-- A place where migrations are found. -/
structure Source where
  /-- The names of all migrations, in order. -/
  discover : Except Error (List String)
  /-- The migration of a name. -/
  resolve : String → Except Error Migration

/-- Names in order, each once. -/
def sortedNames (names : List String) : List String :=
  (names.mergeSort fun a b => decide (a ≤ b)).eraseReps

/-! ## Files -/

namespace MigrationFile

/-- The extensions of migration files; the first is looked for first. -/
def extensions : List String := ["yaml", "yml"]

/-- Whether a stem is the name of a migration: digits, an underscore and something more. -/
def isName (stem : List Char) : Bool :=
  Number.isDigits (stem.takeWhile (· != '_')) && 1 < (stem.dropWhile (· != '_')).length

/-- The name of the migration in a file with a given name. -/
def nameOf? (fileName : String) : Option String :=
  match Path.splitExtension? fileName with
  | some (stem, extension) =>
    if extensions.contains extension && isName stem.toList then some stem else none
  | none => none

/-- The name of the migration in a file at a path. -/
def nameAt? (path : String) : Option String := Path.fileName? path >>= nameOf?

/-- The path of the file of a migration. -/
def locate? (root : FileTree) (path name : String) : Option String :=
  (extensions.map fun extension => Path.join path (name ++ "." ++ extension)).find? root.hasFile

/-- Reads the document in the file of a migration. -/
def load (root : FileTree) (path name : String) : Except Error MigrationDocument :=
  match locate? root path name with
  | none => .error (.resolution name (.noFile path))
  | some file =>
    match root.readText file with
    | .error fault => .error (.resolution name (.unreadable fault))
    | .ok text =>
      match Yaml.read text >>= Node.decode MigrationDocument.ofNode with
      | .error fault => .error (.resolution name (.invalid fault))
      | .ok migration => .ok migration

/-- The names of the migrations in entries of a folder, in order. -/
def namesIn (entries : List (String × FileTree)) : List String :=
  (entries.filterMap fun (name, node) =>
    match node with
    | .file _ => nameOf? name
    | .folder _ => none).mergeSort fun a b => decide (a ≤ b)

/-- The first name that stands twice in a row. -/
def repeated? : List String → Option String
  | a :: b :: rest => if a = b then some a else repeated? (b :: rest)
  | _ => none

/-- The names of the migrations in a folder. No migration may have two files. -/
def discover (root : FileTree) (path : String) : Except Error (List String) :=
  match root.folder? path with
  | none => .error (.config (.directoryMissing path))
  | some entries =>
    match repeated? (namesIn entries) with
    | some name => .error (.resolution name .twoFiles)
    | none => .ok (namesIn entries)

end MigrationFile

/-- The migration that the file of a name describes. -/
def MigrationFile.resolve (root : FileTree) (path name : String) : Except Error Migration :=
  (load root path name).map (·.migration)

/-- The migrations in the files of a folder. -/
def Source.files (root : FileTree) (path : String) : Source where
  discover := MigrationFile.discover root path
  resolve := MigrationFile.resolve root path

/-! ## Registered migrations -/

/-- Migrations that are known by name. -/
structure Registry where
  migrations : List (String × Migration) := []

namespace Registry

/-- Adds a migration; it replaces one of the same name. -/
def register (r : Registry) (name : String) (migration : Migration) : Registry :=
  { migrations := r.migrations.filter (·.1 != name) ++ [(name, migration)] }

/-- The number of migrations. -/
def size (r : Registry) : Nat := r.migrations.length

/-- Whether nothing is registered. -/
def isEmpty (r : Registry) : Bool := r.migrations.isEmpty

end Registry

/-- Registered migrations, and those in the files of a folder. The folder may be absent if something
is registered. -/
def Source.registry (r : Registry) (root : FileTree) (path : String) : Source where
  discover := do
    let found ←
      if (root.folder? path).isSome || r.isEmpty then MigrationFile.discover root path
      else pure []
    return sortedNames (found ++ r.migrations.map (·.1))
  resolve name :=
    match r.migrations.lookup name with
    | some migration => .ok migration
    | none => MigrationFile.resolve root path name

end SchemaShift
