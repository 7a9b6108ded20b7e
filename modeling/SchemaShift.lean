import SchemaShift.Blueprint.Basic
import SchemaShift.Blueprint.Canonical
import SchemaShift.Blueprint.Command
import SchemaShift.Blueprint.Diff
import SchemaShift.Catalog.MySql
import SchemaShift.Catalog.Postgres
import SchemaShift.Catalog.Runs
import SchemaShift.Catalog.Sqlite
import SchemaShift.Catalog.Table
import SchemaShift.Codec.Column
import SchemaShift.Codec.Dump
import SchemaShift.Codec.Key
import SchemaShift.Codec.Migration
import SchemaShift.Column.Basic
import SchemaShift.Column.Default
import SchemaShift.Column.Type
import SchemaShift.Compile.Alike
import SchemaShift.Compile.Basic
import SchemaShift.Compile.MySql
import SchemaShift.Compile.Postgres
import SchemaShift.Compile.Rebuild
import SchemaShift.Compile.Sqlite
import SchemaShift.Config.Basic
import SchemaShift.Config.Document
import SchemaShift.Datum.Basic
import SchemaShift.Datum.Fields
import SchemaShift.Ddl.Hints
import SchemaShift.Ddl.Paren
import SchemaShift.Ddl.Reader
import SchemaShift.Ddl.Table
import SchemaShift.Ddl.Token
import SchemaShift.Ddl.TypeSpec
import SchemaShift.Dialect
import SchemaShift.Dump.Basic
import SchemaShift.Dump.Order
import SchemaShift.Dump.Render
import SchemaShift.Error
import SchemaShift.Files.Path
import SchemaShift.Files.Tree
import SchemaShift.Identifier
import SchemaShift.Key
import SchemaShift.Ledger.Basic
import SchemaShift.Ledger.Database
import SchemaShift.Ledger.Memory
import SchemaShift.Main
import SchemaShift.Migration.Basic
import SchemaShift.Migration.Document
import SchemaShift.Migration.Plan
import SchemaShift.Migration.Source
import SchemaShift.Migration.Step
import SchemaShift.Migrator.Basic
import SchemaShift.Migrator.Outcome
import SchemaShift.Node.Basic
import SchemaShift.Node.Decoder
import SchemaShift.Node.Fields
import SchemaShift.Node.Untyped
import SchemaShift.Number.Double
import SchemaShift.Number.Integer
import SchemaShift.Number.Shortest
import SchemaShift.Row
import SchemaShift.Session.Basic
import SchemaShift.Session.Pretend
import SchemaShift.Session.Relation
import SchemaShift.Session.Scripted
import SchemaShift.Sql.Definition
import SchemaShift.Sql.Query
import SchemaShift.Sql.Statement
import SchemaShift.Sql.Text
import SchemaShift.Text.Blank
import SchemaShift.Text.Case
import SchemaShift.Text.Escaped
import SchemaShift.Text.Letter
import SchemaShift.Text.Quoted
import SchemaShift.Text.Search
import SchemaShift.Text.Utf8
import SchemaShift.Yaml.Block
import SchemaShift.Yaml.Character
import SchemaShift.Yaml.Cursor
import SchemaShift.Yaml.Document
import SchemaShift.Yaml.Escape
import SchemaShift.Yaml.Layout
import SchemaShift.Yaml.Plain
import SchemaShift.Yaml.Property
import SchemaShift.Yaml.Quoted
import SchemaShift.Yaml.Scalar
import SchemaShift.Yaml.Token
import SchemaShift.Yaml.Unquoted
import SchemaShift.Yaml.Written
import SchemaShift.Proofs.Ddl.Lexing
import SchemaShift.Proofs.Column.Literal
import SchemaShift.Proofs.Ddl.Grouping
import SchemaShift.Proofs.Ddl.MySqlColumn
import SchemaShift.Proofs.Ddl.RoundTrip
import SchemaShift.Proofs.Ddl.Literals
import SchemaShift.Proofs.Ddl.SqliteText
import SchemaShift.Proofs.Ddl.SqliteHints
import SchemaShift.Proofs.Blueprint.KeptKeys
import SchemaShift.Proofs.Blueprint.Canonical
import SchemaShift.Proofs.Rebuild.Agreement
import SchemaShift.Proofs.Rebuild.Rows
import SchemaShift.Proofs.Rebuild.Preserved
import SchemaShift.Proofs.Codec.Fields
import SchemaShift.Proofs.Codec.Migration
import SchemaShift.Proofs.Dump.Rebuilt
import SchemaShift.Proofs.Migrator.Faithful
import SchemaShift.Proofs.Dump.Creation
import SchemaShift.Proofs.Migrator.Reset
import SchemaShift.Proofs.Blueprint.Declared
import SchemaShift.Proofs.Migrator.Undone
import SchemaShift.Proofs.Migrator.Brackets
import SchemaShift.Proofs.Blueprint.PrimaryKeys
import SchemaShift.Proofs.Catalog.Valid
import SchemaShift.Proofs.Rebuild.Enforcement
import SchemaShift.Proofs.Rebuild.Restored
import SchemaShift.Proofs.Blueprint.Named
import SchemaShift.Proofs.Ddl.Taking
import SchemaShift.Proofs.Ddl.Clauses
import SchemaShift.Proofs.Catalog.Types
import SchemaShift.Proofs.Ddl.LineEnds
import SchemaShift.Proofs.Ddl.Trailing
import SchemaShift.Proofs.Ddl.Scripts
import SchemaShift.Proofs.Sql.Carried
import SchemaShift.Proofs.Blueprint.Retyped
import SchemaShift.Proofs.Catalog.Literals
import SchemaShift.Proofs.Catalog.TextDefaults
import SchemaShift.Proofs.Catalog.Rewritten
import SchemaShift.Proofs.Migrator.Status
import SchemaShift.Proofs.Migrator.Building
import SchemaShift.Proofs.Rebuild.Merged
import SchemaShift.Proofs.Ddl.Nullability
import SchemaShift.Proofs.Catalog.Grouped
import SchemaShift.Proofs.Files.Folder
import SchemaShift.Proofs.Migrator.Located
import SchemaShift.Proofs.Ddl.Respelled
import SchemaShift.Proofs.Ddl.Expressions
import SchemaShift.Proofs.Ddl.Matching
import SchemaShift.Proofs.Catalog.Checked
import SchemaShift.Proofs.Yaml.Quoted
