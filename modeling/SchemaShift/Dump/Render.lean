import SchemaShift.Codec.Migration
import SchemaShift.Ddl.Table
import SchemaShift.Dump.Basic
import SchemaShift.Yaml.Written

/-!
# Dumps as text

A dump is written as the document of its migration under a comment that says where it came from.
Table definitions in SQL become such a document too.
-/

namespace SchemaShift.Dump

variable {σ : Type}

/-- The comment above a dump. -/
def header : String := "# Generated by schema-migrate. Edit before committing.\n"

/-- The document that creates the tables of blueprints. -/
def render (options : Options) (bs : List Blueprint) : String :=
  header ++ Yaml.write (document options bs).toFields

/-- The document that creates the tables of a session. -/
def dump (session : Session σ) (options : Options) : DbM σ String := do
  return render options (← introspect session options)

/-- The document that creates the tables a script defines. -/
def renderScript (sql : String) : Except Error String :=
  (Ddl.readTables sql).map (render {})

end SchemaShift.Dump
