import SchemaShift.Codec.Dump
import SchemaShift.Config.Basic
import SchemaShift.Files.Tree
import SchemaShift.Yaml.Document

/-!
# Settings in files

Settings are kept as YAML text. They are checked whenever they are read.

* `MigrationsConfig.ofNode_toDatum`: settings are read back as they were written.
-/

namespace SchemaShift

/-! ## Documents -/

namespace DatabaseConfig

/-- The settings of a database as plain data. -/
def toDatum (c : DatabaseConfig) : Datum :=
  .record (Fields.whenSome "driver" .ofText c.driver ++
    Fields.whenSome "url" .ofText c.url ++
    Fields.whenSome "host" .ofText c.host ++
    Fields.whenSome "port" .ofWord16 c.port ++
    Fields.whenSome "database" .ofText c.database ++
    Fields.whenSome "user" .ofText c.user ++
    Fields.whenSome "password" .ofText c.password)

/-- Reads the settings of a database. -/
def ofNode (n : Node) : Decoder DatabaseConfig := do
  let fields ← n.fields
  return {
    driver := ← fields.optional "driver" Node.text
    url := ← fields.optional "url" Node.text
    host := ← fields.optional "host" Node.text
    port := ← fields.optional "port" Node.word16
    database := ← fields.optional "database" Node.text
    user := ← fields.optional "user" Node.text
    password := ← fields.optional "password" Node.text }

end DatabaseConfig

namespace MigrationsConfig

/-- Where migrations are, as plain data. -/
def toDatum (c : MigrationsConfig) : Datum :=
  .record [("path", .ofText c.path), ("table", .ofText c.table)]

/-- Reads where migrations are. -/
def ofNode (n : Node) : Decoder MigrationsConfig := do
  let fields ← n.fields
  return {
    path := ← fields.getD "path" Node.text "migrations"
    table := ← fields.getD "table" Node.text "migrations" }

theorem ofNode_toDatum (c : MigrationsConfig) : ofNode (.native c.toDatum) = pure c := rfl

end MigrationsConfig

namespace Config

/-- Settings as plain data. -/
def toDatum (c : Config) : Datum :=
  .record [("database", c.database.toDatum), ("migrations", c.migrations.toDatum),
    ("dump", c.dump.toDatum)]

/-- Reads settings. -/
def ofNode (n : Node) : Decoder Config := do
  let fields ← n.fields
  return {
    database := ← fields.required "database" DatabaseConfig.ofNode
    migrations := ← fields.getD "migrations" MigrationsConfig.ofNode {}
    dump := ← fields.getD "dump" Dump.Options.ofNode {} }

/-! ## Texts -/

/-- Settings that pass their check. -/
def checked (c : Config) : Except Error Config := do
  c.check
  return c

/-- Reads settings from YAML text. -/
def ofYaml (text : String) : Except Error Config := do
  ((Yaml.read text >>= Node.decode ofNode).mapError .yaml) >>= checked

/-- The usual settings for a database at a URL. -/
def ofUrl (url : String) : Except Error Config :=
  checked { database := { url := some url } }

/-- Reads settings from a file. -/
def load (root : FileTree) (path : String) : Except Error Config := do
  let text ← (root.readText path).mapError .file
  ofYaml text

end Config

end SchemaShift
