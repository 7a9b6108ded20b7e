import SchemaShift.Dump.Basic
import SchemaShift.Identifier

/-!
# Settings

Which database to migrate, where migrations are found and recorded, and how schemas are dumped. A
database is given by a connection URL or by its parts.

* `MigrationsConfig.check_eq_ok_iff`: which places of migrations are accepted.
-/

namespace SchemaShift

/-- Which database to connect to. -/
structure DatabaseConfig where
  driver : Option String := none
  url : Option String := none
  host : Option String := none
  port : Option UInt16 := none
  /-- The name of the database, or the path of its file. -/
  database : Option String := none
  user : Option String := none
  password : Option String := none
deriving DecidableEq, Repr

namespace DatabaseConfig

/-- The engine that the driver names, or else the URL. -/
def dialect (c : DatabaseConfig) : Except Error Dialect :=
  match c.driver, c.url with
  | some driver, _ => Dialect.ofName driver
  | none, some url => Dialect.ofUrl url
  | none, none => .error (.config .driverMissing)

/-- The port an engine listens to. -/
def usualPort : Dialect → UInt16
  | .mySql => 3306
  | _ => 5432

/-- The user and the password in front of a host. -/
def credentials (c : DatabaseConfig) : String :=
  match c.user, c.password with
  | some user, some password => user ++ ":" ++ password ++ "@"
  | some user, none => user ++ "@"
  | none, _ => ""

/-- The connection URL, made from its parts if it is not given. -/
def connectionUrl (c : DatabaseConfig) : Except Error String := do
  match c.url with
  | some url => return url
  | none =>
    let dialect ← c.dialect
    match c.database with
    | none => .error (.config .databaseMissing)
    | some database =>
      if dialect = .sqlite then return "sqlite://" ++ database
      else
        let port := c.port.getD (usualPort dialect)
        return dialect.name ++ "://" ++ c.credentials ++ c.host.getD "localhost" ++ ":" ++
          toString port.toNat ++ "/" ++ database

/-! ## Messages -/

/-- An optional value as messages show it. -/
def shownOption {α : Type} (text : α → String) : Option α → String
  | none => "None"
  | some a => "Some(" ++ text a ++ ")"

/-- What stands for a text that may hold a password. -/
def redacted (_ : String) : String := Text.shown "[REDACTED]"

/-- The settings as messages show them, without secrets. -/
def shown (c : DatabaseConfig) : String :=
  "DatabaseConfig \x7b " ++ ", ".intercalate [
    "driver: " ++ shownOption Text.shown c.driver,
    "url: " ++ shownOption redacted c.url,
    "host: " ++ shownOption Text.shown c.host,
    "port: " ++ shownOption (fun port => toString port.toNat) c.port,
    "database: " ++ shownOption Text.shown c.database,
    "user: " ++ shownOption Text.shown c.user,
    "password: " ++ shownOption redacted c.password] ++ " \x7d"

end DatabaseConfig

/-- Where migrations are found and recorded. -/
structure MigrationsConfig where
  /-- The folder of the migration files. -/
  path : String := "migrations"
  /-- The table of the ledger. -/
  table : String := "migrations"
deriving DecidableEq, Repr

/-- All settings. -/
structure Config where
  database : DatabaseConfig
  migrations : MigrationsConfig := {}
  dump : Dump.Options := {}
deriving DecidableEq, Repr

/-! ## Checks -/

namespace DatabaseConfig

/-- Whether a text is given and not empty. -/
def isGiven (s : Option String) : Bool := s.any (!·.isEmpty)

/-- Checks that driver and URL agree, or that the parts of a URL are given. -/
def check (c : DatabaseConfig) : Except Error Unit := do
  let dialect ← c.dialect
  match c.url with
  | some url =>
    let other ← Dialect.ofUrl url
    if other = dialect then return () else .error (.config (.driverMismatch dialect other))
  | none =>
    if !isGiven c.database then .error (.config .databaseMissing)
    else if dialect ≠ .sqlite ∧ !isGiven c.user then .error (.config .userMissing)
    else return ()

end DatabaseConfig

/-- Checks that migrations can be found and recorded. -/
def MigrationsConfig.check (c : MigrationsConfig) : Except Error Unit :=
  if c.path.isEmpty then .error (.config .emptyMigrationsPath)
  else
    match Identifier.fault? c.table with
    | some fault => .error (.config (.ledgerTable fault))
    | none => .ok ()

/-- Checks settings. -/
def Config.check (c : Config) : Except Error Unit := do
  c.database.check
  c.migrations.check

/-! ## Laws -/

theorem MigrationsConfig.check_eq_ok_iff {c : MigrationsConfig} :
    c.check = .ok () ↔ c.path ≠ "" ∧ Identifier.Valid c.table := by
  rw [← Identifier.fault?_eq_none_iff, check]
  by_cases h : c.path = ""
  · simp [h]
  · simp only [String.isEmpty_iff, h, if_false, ne_eq, not_false_iff, true_and]
    cases Identifier.fault? c.table <;> simp

end SchemaShift
