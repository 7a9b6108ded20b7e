import SchemaShift.Text.Blank

/-!
# Quoted text

Every quoted form of a statement is a text between two quote characters in which the quote itself
is written twice. Identifiers are quoted with double quotes or backticks, literals with single
quotes; a literal for MySQL writes the backslash twice as well.

* `collapse_doubled`: collapsing doubled quotes undoes the doubling.
* `unquoteChars_quoted`, `unquote_quoted`: a text quoted with any of the three quotes is read back
  as itself.
-/

namespace SchemaShift.Text

/-- The quote of identifiers on PostgreSQL and SQLite. -/
def doubleQuote : Char := '\"'

/-- The quote of identifiers on MySQL. -/
def backtick : Char := '\x60'

/-- The quote of string literals. -/
def singleQuote : Char := '\''

/-! ## Writing -/

/-- Writes every quote twice. -/
def doubled (q : Char) (cs : List Char) : List Char :=
  cs.flatMap fun c => if c = q then [q, q] else [c]

/-- A text between two quotes, with the quotes inside it doubled. -/
def quotedChars (q : Char) (cs : List Char) : List Char := q :: doubled q cs ++ [q]

/-- A text between two quotes, with the quotes inside it doubled. -/
def quoted (q : Char) (s : String) : String := String.ofList (quotedChars q s.toList)

/-- An identifier as PostgreSQL and SQLite write it. -/
def quoteDouble (name : String) : String := quoted doubleQuote name

/-- An identifier as MySQL writes it. -/
def quoteBacktick (name : String) : String := quoted backtick name

/-- A string literal of standard SQL. -/
def quoteLiteral (value : String) : String := quoted singleQuote value

/-- A string literal for MySQL, where the backslash is an escape character. -/
def quoteMySqlLiteral (value : String) : String :=
  quoteLiteral (String.ofList (doubled '\\' value.toList))

/-! ## Reading -/

/-- Writes every doubled quote once. -/
def collapse (q : Char) : List Char → List Char
  | [] => []
  | [c] => [c]
  | c :: d :: rest =>
    if c = q ∧ d = q then q :: collapse q rest else c :: collapse q (d :: rest)

/-- The characters between two quotes, when the text has at least two characters and a quote at
either end. -/
def between? (q : Char) : List Char → Option (List Char)
  | [] => none
  | c :: rest =>
    if c = q ∧ rest.getLast? = some q then some rest.dropLast else none

/-- Strips one level of quotes and collapses the doubled ones; a text without quotes at both ends
is only trimmed. -/
def unquoteChars (cs : List Char) : List Char :=
  let text := trimChars cs
  match [singleQuote, doubleQuote, backtick].findSome? fun q =>
      (between? q text).map (collapse q) with
  | some inner => inner
  | none => text

/-- Strips one level of quotes and collapses the doubled ones. -/
def unquote (s : String) : String := String.ofList (unquoteChars s.toList)

/-! ## Laws -/

@[simp] theorem doubled_nil (q : Char) : doubled q [] = [] := rfl

theorem doubled_cons_self (q : Char) (cs : List Char) :
    doubled q (q :: cs) = q :: q :: doubled q cs := by simp [doubled]

theorem doubled_cons_of_ne {q c : Char} (h : c ≠ q) (cs : List Char) :
    doubled q (c :: cs) = c :: doubled q cs := by simp [doubled, h]

theorem doubled_of_not_mem {q : Char} {cs : List Char} (h : q ∉ cs) : doubled q cs = cs := by
  induction cs with
  | nil => rfl
  | cons c cs ih =>
    rw [List.mem_cons, not_or] at h
    rw [doubled_cons_of_ne (Ne.symm h.1), ih h.2]

theorem collapse_cons_of_ne {q c : Char} (h : c ≠ q) (cs : List Char) :
    collapse q (c :: cs) = c :: collapse q cs := by
  cases cs with
  | nil => simp [collapse]
  | cons d rest => simp [collapse, h]

theorem collapse_doubled (q : Char) (cs : List Char) : collapse q (doubled q cs) = cs := by
  induction cs with
  | nil => rfl
  | cons c rest ih =>
    by_cases h : c = q
    · subst h; simp [doubled_cons_self, collapse, ih]
    · rw [doubled_cons_of_ne h, collapse_cons_of_ne h, ih]

theorem between?_quotedChars (q : Char) (cs : List Char) :
    between? q (quotedChars q cs) = some (doubled q cs) := by
  simp [between?, quotedChars]

theorem between?_eq_none {p q : Char} (h : q ≠ p) (cs : List Char) :
    between? p (quotedChars q cs) = none := by
  simp [between?, quotedChars, h]

theorem trimChars_quotedChars {q : Char} (h : isBlank q = false) (cs : List Char) :
    trimChars (quotedChars q cs) = quotedChars q cs := by
  simp [trimChars, dropBlanks, quotedChars, h]

theorem unquoteChars_quoted {q : Char} (hq : q = singleQuote ∨ q = doubleQuote ∨ q = backtick)
    (cs : List Char) : unquoteChars (quotedChars q cs) = cs := by
  have blank : isBlank q = false := by rcases hq with rfl | rfl | rfl <;> decide
  rw [unquoteChars, trimChars_quotedChars blank]
  rcases hq with rfl | rfl | rfl
  · simp [List.findSome?, between?_quotedChars, collapse_doubled]
  · simp [List.findSome?, between?_quotedChars, collapse_doubled,
      between?_eq_none (p := singleQuote) (q := doubleQuote) (by decide)]
  · simp [List.findSome?, between?_quotedChars, collapse_doubled,
      between?_eq_none (p := singleQuote) (q := backtick) (by decide),
      between?_eq_none (p := doubleQuote) (q := backtick) (by decide)]

theorem unquote_quoted {q : Char} (hq : q = singleQuote ∨ q = doubleQuote ∨ q = backtick)
    (s : String) : unquote (quoted q s) = s := by
  rw [unquote, quoted, String.toList_ofList, unquoteChars_quoted hq, String.ofList_toList]

end SchemaShift.Text
