import SchemaShift.Text.Case

/-!
# Database engines

The three engines statements are written for, their names, and how a name or a connection URL
selects one.

* `ofName?_name`: an engine's own name selects it.
-/

namespace SchemaShift

/-- A supported database engine. -/
inductive Dialect where
  | mySql
  | postgres
  | sqlite
deriving DecidableEq, Repr

namespace Dialect

/-- Every engine. -/
def all : List Dialect := [mySql, postgres, sqlite]

/-- The name of an engine in configurations, URLs and messages. -/
def name : Dialect → String
  | mySql => "mysql"
  | postgres => "postgres"
  | sqlite => "sqlite"

/-- The names an engine answers to. -/
def names : Dialect → List String
  | mySql => ["mysql", "mariadb"]
  | postgres => ["postgres", "postgresql", "pg"]
  | sqlite => ["sqlite", "sqlite3"]

/-- The engine with a given lower-case name. -/
def ofName? (name : String) : Option Dialect := all.find? fun d => d.names.contains name

theorem ofName?_name (d : Dialect) : ofName? d.name = some d := by
  cases d <;> decide

theorem mem_all (d : Dialect) : d ∈ all := by cases d <;> decide

end Dialect

/-- The part of a connection URL before its first colon. -/
def urlScheme? (url : String) : Option String :=
  if ':' ∈ url.toList then some (String.ofList (url.toList.takeWhile (· != ':'))) else none

end SchemaShift
