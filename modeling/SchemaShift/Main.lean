import SchemaShift.Dump.Render

/-!
# The command line

The command `parse-ddl` reads a script of table definitions from standard input and prints the
document of the migration that creates its tables. All other work needs a database, and is for
programs that bring a session of their own.
-/

namespace SchemaShift.CommandLine

/-- How the program ends: what it prints, what it complains of and its exit code. -/
structure Report where
  output : String := ""
  complaint : String := ""
  exitCode : UInt32 := 0
deriving DecidableEq, Repr

/-- The report of a call that is not understood. -/
def usage : Report :=
  { complaint := "usage: schemashift parse-ddl < SCRIPT\n", exitCode := 2 }

/-- The report of a result: its text, or what went wrong together with its causes. -/
def report : Except Error String → Report
  | .ok text => { output := text }
  | .error e => { complaint := e.detailed ++ "\n", exitCode := UInt32.ofNat e.exitCode }

/-- What the arguments of a call ask to do with standard input. -/
def command? : List String → Option (String → Report)
  | ["parse-ddl"] => some fun script => report (Dump.renderScript script)
  | _ => none

end SchemaShift.CommandLine

/-- Does what the arguments ask for and prints the report. -/
def main (args : List String) : IO UInt32 := do
  let report ←
    match SchemaShift.CommandLine.command? args with
    | some command => pure (command (← (← IO.getStdin).readToEnd))
    | none => pure SchemaShift.CommandLine.usage
  IO.print report.output
  IO.eprint report.complaint
  return report.exitCode
