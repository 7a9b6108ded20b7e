import SchemaShift.Ddl.TypeSpec

/-!
# Column hints

SQLite reports the declared physical type of a column only. What it leaves out stands in the
text of the table definition: a comment with the logical type, a comment that says `unsigned`, and
the keyword `AUTOINCREMENT`. The hints of a definition are what its column clauses say.

* `find?_insert_self`: a later clause for the same name replaces an earlier one.
-/

namespace SchemaShift

/-- What the clause of a column says beyond its physical type. -/
structure ColumnHint where
  /-- The type named by the first comment that is not `unsigned`, if it is a type clause. -/
  origin : Option TypeSpec := none
  unsigned : Bool := false
  autoIncrement : Bool := false
deriving DecidableEq, Repr

/-- The hints of a table definition, by column name. -/
abbrev ColumnHints := List (String × ColumnHint)

namespace ColumnHints

/-- The hint of a column. -/
def find? (hints : ColumnHints) (name : String) : Option ColumnHint :=
  (List.find? (·.1 == name) hints).map Prod.snd

/-- Adds a hint, replacing the one with the same name. -/
def insert (name : String) (hint : ColumnHint) : ColumnHints → ColumnHints
  | [] => [(name, hint)]
  | (n, h) :: rest =>
    if n = name then (name, hint) :: rest else (n, h) :: insert name hint rest

theorem find?_insert_self (hints : ColumnHints) (name : String) (hint : ColumnHint) :
    find? (insert name hint hints) name = some hint := by
  induction hints with
  | nil => simp [insert, find?]
  | cons entry rest ih =>
    simp only [insert]
    split
    · simp [find?]
    · rename_i other
      have differs : (entry.1 == name) = false := by simpa using other
      simpa [find?, List.find?_cons, differs] using ih

/-! ## Reading -/

/-- The keywords that open a table constraint instead of a column clause. -/
def constraintKeywords : List String :=
  ["primary", "unique", "key", "index", "constraint", "foreign", "check", "fulltext", "spatial"]

/-- What one token of a column clause adds to the hint. -/
def addToken (hint : ColumnHint) (t : Token) : ColumnHint :=
  match t with
  | .comment body =>
    if Text.sameWord body "unsigned" then { hint with unsigned := true }
    else if hint.origin.isNone then { hint with origin := (TypeSpec.ofText body).toOption }
    else hint
  | t => if t.isKeyword "autoincrement" then { hint with autoIncrement := true } else hint

/-- The hint of a clause, with the name of its column; none for a table constraint and for a
clause that does not start with a name. -/
def ofClause? : List Token → Option (String × ColumnHint)
  | [] => none
  | first :: rest =>
    if constraintKeywords.any first.isKeyword then none
    else first.name?.map fun name => (name, rest.foldl addToken {})

/-- The hints of a run of clauses. -/
def ofClauses (clauses : List (List Token)) : ColumnHints :=
  clauses.foldl (fun hints clause =>
    match ofClause? clause with
    | some (name, hint) => insert name hint hints
    | none => hints) []

/-- The hints of a table definition: what stands in its first parentheses. -/
def ofTokens (tokens : List Token) : Except Error ColumnHints :=
  match tokens.dropWhile (· != .leftParen) with
  | [] => .ok []
  | _ :: inside =>
    match Token.closing? 1 inside with
    | some n => .ok (ofClauses (Token.splitTopLevel (inside.take n)))
    | none => .error (.badMatch .unbalancedParentheses)

/-- The hints of the text of a table definition. -/
def ofText (sql : String) : Except Error ColumnHints := Token.scan sql >>= ofTokens

end ColumnHints

end SchemaShift
