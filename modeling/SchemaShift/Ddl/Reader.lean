import SchemaShift.Ddl.Paren

/-!
# Reading token runs

A reader takes a value off the front of a token run and says what is left, with a proof that
nothing was added. Loops over a run therefore end because the run gets shorter, and no count of
steps is needed. Errors name the run by a context, such as the table it belongs to.

* `run_pure`, `run_bind`: what a composed reader returns, without the proofs.
* `run_name_cons`: a name is read from one token.
-/

namespace SchemaShift

/-- A value read off the front of a token run, with the tokens that are left. -/
structure Parsed (α : Type) (tokens : List Token) where
  value : α
  rest : List Token
  rest_le : rest.length ≤ tokens.length

namespace Parsed

/-- The same result seen from a longer run. -/
def weaken {α : Type} {short long : List Token} (h : short.length ≤ long.length)
    (p : Parsed α short) : Parsed α long :=
  { value := p.value, rest := p.rest, rest_le := Nat.le_trans p.rest_le h }

/-- The same result with another value. -/
def map {α β : Type} {tokens : List Token} (f : α → β) (p : Parsed α tokens) :
    Parsed β tokens :=
  { value := f p.value, rest := p.rest, rest_le := p.rest_le }

end Parsed

/-- A function that takes a value off the front of a token run. -/
def Reader (α : Type) : Type := (tokens : List Token) → Except Error (Parsed α tokens)

namespace Reader

variable {α β : Type}

/-- Reads nothing. -/
protected def pure (a : α) : Reader α := fun ts => .ok ⟨a, ts, Nat.le_refl _⟩

/-- Reads with one reader and goes on with another. -/
protected def bind (r : Reader α) (f : α → Reader β) : Reader β := fun ts =>
  match r ts with
  | .error e => .error e
  | .ok p =>
    match f p.value p.rest with
    | .error e => .error e
    | .ok q => .ok (q.weaken p.rest_le)

instance : Monad Reader where
  pure := Reader.pure
  bind := Reader.bind

/-- The value and the tokens that are left. -/
def run (r : Reader α) (ts : List Token) : Except Error (α × List Token) :=
  match r ts with
  | .error e => .error e
  | .ok p => .ok (p.value, p.rest)

theorem run_pure (a : α) (ts : List Token) : (pure a : Reader α).run ts = .ok (a, ts) := rfl

theorem run_bind (r : Reader α) (f : α → Reader β) (ts : List Token) :
    (r >>= f).run ts = (r.run ts).bind fun p => (f p.1).run p.2 := by
  show (Reader.bind r f).run ts = _
  unfold run Reader.bind
  cases r ts with
  | error e => rfl
  | ok p =>
    simp only [Except.bind]
    cases f p.value p.rest <;> rfl

/-- Fails. -/
def fail (e : Error) : Reader α := fun _ => .error e

/-! ## Single tokens -/

/-- The error of a token that does not belong where it stands. -/
def misplaced (context : String) (t : Token) : Error := .unknownToken t.text context

/-- The error of a run that ends too early. -/
def ended (context : String) : Error := .badMatch (.unexpectedEnd context)

/-- Fails at the next token, or at the end of the run. -/
def unexpected (context : String) : Reader α
  | [] => .error (ended context)
  | t :: _ => .error (misplaced context t)

/-- The next token, left in place. -/
def peek : Reader (Option Token) := fun ts => .ok ⟨ts.head?, ts, Nat.le_refl _⟩

/-- The next token, if there is one. -/
def next : Reader (Option Token) := fun ts => .ok ⟨ts.head?, ts.drop 1, by simp⟩

/-- Takes a keyword if it comes next, and says whether it did. -/
def eatKeyword (keyword : String) : Reader Bool
  | [] => .ok ⟨false, [], Nat.le_refl _⟩
  | t :: ts =>
    if t.isKeyword keyword then .ok ⟨true, ts, by simp⟩ else .ok ⟨false, t :: ts, Nat.le_refl _⟩

/-- Takes a keyword that has to come next. -/
def expectKeyword (context keyword : String) : Reader Unit := do
  if ← eatKeyword keyword then pure () else unexpected context

/-- Takes a token that has to come next. -/
def expectToken (context : String) (expected : Token) : Reader Unit
  | [] => .error (ended context)
  | t :: ts =>
    if t = expected then .ok ⟨(), ts, by simp⟩ else .error (misplaced context t)

/-- Takes the name that has to come next. -/
def name (context : String) : Reader String
  | [] => .error (ended context)
  | t :: ts =>
    match t.name? with
    | some n => .ok ⟨n, ts, by simp⟩
    | none => .error (misplaced context t)

/-- The end of the run. -/
def finish (context : String) : Reader Unit
  | [] => .ok ⟨(), [], Nat.le_refl _⟩
  | t :: _ => .error (misplaced context t)

theorem run_name_cons {context n : String} {t : Token} (h : t.name? = some n)
    (ts : List Token) : (name context).run (t :: ts) = .ok (n, ts) := by
  simp only [run, name]
  split
  · rename_i e he
    split at he
    · cases he
    · simp_all
  · rename_i p hp
    split at hp
    · cases hp; simp_all
    · cases hp

/-! ## Groups and lists -/

/-- The tokens up to the parenthesis that closes a group already opened. -/
def groupRest : Reader (List Token) := fun ts =>
  match Token.closing? 1 ts with
  | some n => .ok ⟨ts.take n, ts.drop (n + 1), by simp⟩
  | none => .error (.badMatch .unbalancedParentheses)

/-- The tokens inside a group, if one starts here. -/
def group : Reader (Option (List Token))
  | .leftParen :: ts =>
    (groupRest ts).map fun p => (p.map some).weaken (by simp)
  | ts => .ok ⟨none, ts, Nat.le_refl _⟩

/-- Passes over a group, if one starts here. -/
def skipGroup : Reader Unit := do
  let _ ← group
  pure ()

/-- The names that open the parts of a list. -/
def listNames (context : String) : List (List Token) → Except Error (List String)
  | [] => .ok []
  | part :: parts =>
    match part.head?.bind Token.name? with
    | some n => (listNames context parts).map (n :: ·)
    | none => .error (.badMatch (.invalidColumnList context))

/-- The column names of `(a, b(10), c DESC)`; there has to be at least one. -/
def columnList (context : String) : Reader (List String) := do
  expectToken context .leftParen
  let inside ← groupRest
  match listNames context (Token.splitTopLevel inside) with
  | .error e => fail e
  | .ok [] => fail (.badMatch (.emptyColumnList context))
  | .ok names => pure names

/-- Follows the points of a qualified name to its last part. -/
def qualifiedFrom (context : String) (current : String) : Reader String
  | .symbol '.' :: t :: ts =>
    match t.name? with
    | some n => (qualifiedFrom context n ts).map fun p => p.weaken (by simp; omega)
    | none => .error (misplaced context t)
  | [.symbol '.'] => .error (ended context)
  | ts => .ok ⟨current, ts, Nat.le_refl _⟩

/-- A name, of which only the last part counts when it is qualified. -/
def qualifiedName (context : String) : Reader String := do
  qualifiedFrom context (← name context)

/-- The name in front of a column list, if there is one. -/
def optionalName (context : String) : Reader (Option String) := do
  match ← peek with
  | none => pure none
  | some .leftParen => pure none
  | some _ => return some (← name context)

end Reader

end SchemaShift
