import SchemaShift.Column.Type
import SchemaShift.Dialect
import SchemaShift.Text.Escaped

/-!
# Errors

Everything that can go wrong, as causes. The wording of a cause stands in one `message` function
beside it, and an `Error` gathers the causes under the kinds a caller tells apart by exit code.

* `exitCode_pos`: no error reports success.
-/

namespace SchemaShift

/-! ## Causes -/

/-- Why a name cannot be used as an identifier. -/
inductive IdentifierFault where
  | empty
  | containsNul (name : String)
  | tooLong (name : String)
deriving DecidableEq, Repr

/-- The greatest number of bytes in an identifier, a limit that suits every engine. -/
def maxIdentifierBytes : Nat := 128

/-- The wording of an identifier fault. -/
def IdentifierFault.message : IdentifierFault → String
  | empty => "Identifier cannot be empty"
  | containsNul name =>
    "SECURITY: Identifier contains null byte (possible injection attempt): " ++ Text.shown name
  | tooLong name =>
    "SECURITY: Identifier exceeds maximum length of " ++ toString maxIdentifierBytes ++
      " bytes (got " ++ toString name.utf8ByteSize ++ " bytes): " ++ Text.shown name

/-- What is wrong with a setting. -/
inductive ConfigFault where
  | identifier (fault : IdentifierFault)
  | unknownColumnType (name : String)
  | unknownDatabaseType (name : String)
  | urlWithoutScheme (url : String)
  | driverMissing
  | databaseMissing
  | userMissing
  | driverMismatch (driver url : Dialect)
  | emptyMigrationsPath
  | ledgerTable (fault : IdentifierFault)
  | directoryMissing (path : String)
deriving DecidableEq, Repr

/-- The words that open the message of every configuration error. -/
def configHeading : String := "Configuration error: "

/-- The wording of a configuration fault. -/
def ConfigFault.message : ConfigFault → String
  | identifier fault => fault.message
  | unknownColumnType name => "Unknown column type: '" ++ name ++ "'"
  | unknownDatabaseType name =>
    "Unknown database type: '" ++ name ++ "'. Supported types: mysql, postgres, sqlite"
  | urlWithoutScheme url => "Connection URL has no scheme: '" ++ url ++ "'"
  | driverMissing => "database.driver is required when database.url is not set"
  | databaseMissing => "database.database is required"
  | userMissing => "database.user is required"
  | driverMismatch driver url =>
    "database.driver is '" ++ driver.name ++ "' but database.url is a " ++ url.name ++ " URL"
  | emptyMigrationsPath => "migrations.path cannot be empty"
  | ledgerTable fault => "migrations.table: " ++ configHeading ++ fault.message
  | directoryMissing path => "Migration directory " ++ path ++ " does not exist"

/-- Why a column definition cannot be compiled. -/
inductive ColumnFault where
  | incrementNotInteger (type : ColumnType)
  | incrementNullable
  | enumWithoutValues
  | incrementUnavailable (type : ColumnType) (dialect : Dialect)
  | unknownOn (table : String)
deriving DecidableEq, Repr

/-- The wording of a column fault. -/
def ColumnFault.message : ColumnFault → String
  | incrementNotInteger type => "auto-increment requires an integer type, got " ++ type.name
  | incrementNullable => "auto-increment column cannot be nullable"
  | enumWithoutValues => "enum requires at least one allowed value"
  | incrementUnavailable type dialect =>
    type.name ++ " cannot auto-increment on " ++ dialect.name
  | unknownOn table => "no such column on " ++ table

/-- Why a text is not the statement or type that was expected. -/
inductive MatchFault where
  | missingTypeName
  | unclosedArguments (type : String)
  | unbalancedParentheses
  | noStatement
  | severalStatements (count : Nat)
  | notCreateTable (opening : String)
  | emptyClause (table : String)
  | invalidColumnList (context : String)
  | emptyColumnList (context : String)
  | unexpectedEnd (context : String)
deriving DecidableEq, Repr

/-- The wording of a match fault. -/
def MatchFault.message : MatchFault → String
  | missingTypeName => "missing type name"
  | unclosedArguments type => "unclosed arguments for " ++ type
  | unbalancedParentheses => "unbalanced parentheses"
  | noStatement => "no CREATE TABLE statement found"
  | severalStatements count =>
    "expected one CREATE TABLE statement, found " ++ toString count
  | notCreateTable opening => "expected CREATE TABLE, found '" ++ opening ++ "'"
  | emptyClause table => "empty clause in table " ++ table
  | invalidColumnList context => "invalid column list in " ++ context
  | emptyColumnList context => "empty column list in " ++ context
  | unexpectedEnd context => "unexpected end of " ++ context

/-- Why a file cannot be read. -/
inductive FileFault where
  | missing
  | isDirectory
  | notDirectory
  | notUtf8
deriving DecidableEq, Repr

/-- The wording of a file fault. -/
def FileFault.message : FileFault → String
  | missing => "No such file or directory (os error 2)"
  | isDirectory => "Is a directory (os error 21)"
  | notDirectory => "Not a directory (os error 20)"
  | notUtf8 => "stream did not contain valid UTF-8"

/-- Why structured data does not describe what was asked for. -/
inductive DataFault where
  | malformed
  | expected (what : String)
  | missingField (name : String)
  | repeatedField (name : String)
  | unknownVariant (name : String)
  | outOfRange
  | tooDeep
  | tooManyReferences
deriving DecidableEq, Repr

/-- The wording of a data fault. -/
def DataFault.message : DataFault → String
  | malformed => "malformed text"
  | expected what => "expected " ++ what
  | missingField name => "missing field " ++ name
  | repeatedField name => "repeated field " ++ name
  | unknownVariant name => "unknown variant " ++ name
  | outOfRange => "number out of range"
  | tooDeep => "values nested too deeply"
  | tooManyReferences => "references followed too often"

/-- Why a migration cannot be loaded by its name. -/
inductive ResolutionFault where
  | noFile (path : String)
  | unreadable (fault : FileFault)
  | invalid (fault : DataFault)
  | twoFiles
deriving DecidableEq, Repr

/-- The words that open the message of every error about YAML text. -/
def yamlHeading : String := "YAML error: "

/-- The wording of a resolution fault. -/
def ResolutionFault.message : ResolutionFault → String
  | noFile path => "no migration file in " ++ path
  | unreadable fault => fault.message
  | invalid fault => yamlHeading ++ fault.message
  | twoFiles => "both .yaml and .yml files exist"

/-! ## Errors -/

/-- A failure of compiling, reading, introspecting or migrating. -/
inductive Error where
  | config (fault : ConfigFault)
  | compilation (dialect : Dialect) (verb : String)
  | invalidColumn (column : String) (fault : ColumnFault)
  | unknownToken (token context : String)
  | badMatch (fault : MatchFault)
  | catalogMismatch (table column physical : String)
  | tableNotFound (table : String)
  | resolution (migration : String) (fault : ResolutionFault)
  | step (migration : String) (cause : Error)
  | query (sql message : String)
  | file (fault : FileFault)
  | yaml (fault : DataFault)
  | json (fault : DataFault)
  /-- A number would leave its range. Nothing can be done about that, and the program ends. -/
  | overflow
deriving DecidableEq, Repr

namespace Error

/-- An identifier that cannot be used. -/
def identifier (fault : IdentifierFault) : Error := config (.identifier fault)

/-- The message of an error, without the errors that caused it. -/
def message : Error → String
  | config fault => configHeading ++ fault.message
  | compilation dialect verb => dialect.name ++ " grammar cannot compile '" ++ verb ++ "'"
  | invalidColumn column fault => "Invalid column " ++ column ++ ": " ++ fault.message
  | unknownToken token context => "Unknown token '" ++ token ++ "' in " ++ context
  | badMatch fault => "Parse error: " ++ fault.message
  | catalogMismatch table column physical =>
    "Table " ++ table ++ ": column " ++ column ++ " has unsupported type '" ++ physical ++ "'"
  | tableNotFound table => "Table " ++ table ++ " not found"
  | resolution migration fault =>
    "Cannot resolve migration " ++ migration ++ ": " ++ fault.message
  | step migration _ => "Migration " ++ migration ++ " failed"
  | query sql message => "Query failed: " ++ message ++ "\n  SQL: " ++ sql
  | file fault => "IO error: " ++ fault.message
  | yaml fault => yamlHeading ++ fault.message
  | json fault => "JSON error: " ++ fault.message
  | overflow => "attempt to add with overflow"

/-- The messages of the errors that caused this one, nearest first. -/
def causes : Error → List String
  | step _ cause => cause.message :: cause.causes
  | file fault => [fault.message]
  | yaml fault => [fault.message]
  | json fault => [fault.message]
  | _ => []

/-- The numbered lines that list causes, the first of them numbered `depth`. -/
def causeLines (depth : Nat) : List String → String
  | [] => ""
  | cause :: rest =>
    "\nCaused by:\n  " ++ toString depth ++ ": " ++ cause ++ causeLines (depth + 1) rest

/-- The message followed by the chain of causes. -/
def detailed (e : Error) : String := "Error: " ++ e.message ++ "\n" ++ causeLines 1 e.causes

/-- The exit code of a program that ends with this error. -/
def exitCode : Error → Nat
  | config _ | yaml _ | json _ => 1
  | query .. => 2
  | compilation .. | invalidColumn .. => 3
  | unknownToken .. | badMatch _ => 4
  | catalogMismatch .. | tableNotFound _ => 5
  | resolution .. | step .. => 6
  | file _ => 7
  | overflow => 101

theorem exitCode_pos (e : Error) : 0 < e.exitCode := by cases e <;> simp [exitCode]

end Error

/-- The engine with a given name, in any case. -/
def Dialect.ofName (name : String) : Except Error Dialect :=
  let word := Text.lower name
  match Dialect.ofName? word with
  | some d => .ok d
  | none => .error (.config (.unknownDatabaseType word))

/-- The engine a connection URL selects by its scheme. -/
def Dialect.ofUrl (url : String) : Except Error Dialect :=
  match urlScheme? url with
  | some scheme => Dialect.ofName scheme
  | none => .error (.config (.urlWithoutScheme url))

/-- The logical type with a given name. -/
def ColumnType.ofName (name : String) : Except Error ColumnType :=
  match ColumnType.ofName? name with
  | some t => .ok t
  | none => .error (.config (.unknownColumnType (Text.asciiLower name)))

end SchemaShift
