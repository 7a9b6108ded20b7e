import SchemaShift.Session.Basic
import SchemaShift.Text.Search

/-!
# Scripted sessions

A session that answers queries from a script, fails where the script says so and keeps a log of
what was executed. It stands for any database whose answers are known in advance.

* `execute_of_fails`, `execute_of_not_fails`: a statement is logged exactly when it does not fail.
-/

namespace SchemaShift

/-- The answer to the queries that contain a text. -/
structure Answer where
  needle : String
  rows : Except String (List Row)

/-- The state of a scripted session: its script and its log, first entry first. -/
structure Script where
  answers : List Answer := []
  /-- Texts that make a statement fail that contains one of them. -/
  failing : List String := []
  log : List String := []

namespace Script

/-- Whether the script makes a statement fail. -/
def fails (s : Script) (statement : String) : Bool :=
  s.failing.any fun needle => Text.contains needle statement

/-- The script with one more entry in its log. -/
def record (s : Script) (entry : String) : Script := { s with log := s.log ++ [entry] }

/-- Logs a statement, unless the script makes it fail; `sql` is the statement that an error
names. -/
def perform (statement sql : String) : DbM Script Unit := ExceptT.mk fun s =>
  if s.fails statement then (.error (.query sql "scripted failure"), s)
  else (.ok (), s.record statement)

/-- Answers a query from the first answer that fits; no answer means no rows. -/
def answer (logSelects : Bool) (sql : String) : DbM Script (List Row) := ExceptT.mk fun s =>
  let after := if logSelects then s.record ("? " ++ sql) else s
  match s.answers.find? fun a => Text.contains a.needle sql with
  | none => (.ok [], after)
  | some a =>
    match a.rows with
    | .ok rows => (.ok rows, after)
    | .error message => (.error (.query sql message), after)

theorem execute_of_fails {s : Script} {statement : String} (sql : String)
    (h : s.fails statement = true) :
    (perform statement sql).result s = (.error (.query sql "scripted failure"), s) := by
  simp [perform, DbM.result, ExceptT.run_mk, h]

theorem execute_of_not_fails {s : Script} {statement : String} (sql : String)
    (h : s.fails statement = false) :
    (perform statement sql).result s = (.ok (), s.record statement) := by
  simp [perform, DbM.result, ExceptT.run_mk, h]

end Script

/-- A session on a script. -/
def Session.scripted (dialect : Dialect) (database : String) (logSelects : Bool) :
    Session Script where
  dialect
  database
  select := Script.answer logSelects
  execute sql := Script.perform sql sql
  begin := Script.perform "-- begin" "BEGIN"
  commit := Script.perform "-- commit" "COMMIT"
  rollback := Script.perform "-- rollback" "ROLLBACK"

end SchemaShift
