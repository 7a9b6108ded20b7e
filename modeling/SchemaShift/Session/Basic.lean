import SchemaShift.Error
import SchemaShift.Row

/-!
# Database sessions

A session is an engine together with the actions a database connection offers. The actions change
a state that the session is free to choose; what they did stays done when a later action fails.

* `DbM.result_bind`, `DbM.result_ofExcept`: how actions run on a state.
* `DbM.result_bind_eq_ok_iff`: an action after another one succeeds when both do.
-/

namespace SchemaShift

/-- Actions on a database whose state is of type `σ`. An action that fails leaves a state too. -/
abbrev DbM (σ : Type) : Type → Type := ExceptT Error (StateM σ)

namespace DbM

variable {σ τ α β : Type}

/-- The result of an action on a state, and the state after it. -/
def result (x : DbM σ α) (s : σ) : Except Error α × σ := ExceptT.run x s

/-- A computation without effect on the database. -/
def ofExcept (x : Except Error α) : DbM σ α := ExceptT.mk (pure x)

/-- An action on the first of two states. -/
def onFirst (x : DbM σ α) : DbM (σ × τ) α :=
  ExceptT.mk fun (s, t) => let (r, s) := x.result s; (r, (s, t))

/-- The result of an action as a value, whether it fails or not. -/
def attempt (x : DbM σ α) : DbM σ (Except Error α) :=
  ExceptT.mk fun s => let (r, s) := x.result s; (.ok r, s)

theorem result_pure (a : α) (s : σ) : (pure a : DbM σ α).result s = (.ok a, s) := rfl

theorem result_ofExcept (x : Except Error α) (s : σ) :
    (ofExcept x : DbM σ α).result s = (x, s) := rfl

theorem result_bind (x : DbM σ α) (f : α → DbM σ β) (s : σ) :
    (x >>= f).result s =
      match x.result s with
      | (.ok a, s) => (f a).result s
      | (.error e, s) => (.error e, s) := by
  simp only [result, ExceptT.run_bind]
  simp only [bind, StateT.bind]
  rcases ExceptT.run x s with ⟨r | r, s'⟩ <;> rfl

theorem result_bind_eq_ok_iff {x : DbM σ α} {f : α → DbM σ β} {s s'' : σ} {b : β} :
    (x >>= f).result s = (.ok b, s'') ↔
      ∃ a s', x.result s = (.ok a, s') ∧ (f a).result s' = (.ok b, s'') := by
  rw [result_bind]
  constructor
  · intro h
    split at h
    · exact ⟨_, _, ‹_›, h⟩
    · cases h
  · rintro ⟨a, s', first, second⟩
    rw [first]
    exact second

theorem result_ofExcept_eq_ok_iff {x : Except Error α} {s s' : σ} {a : α} :
    (ofExcept x : DbM σ α).result s = (.ok a, s') ↔ x = .ok a ∧ s = s' := by
  rw [result_ofExcept, Prod.mk.injEq]

theorem result_pure_eq_ok_iff {a a' : α} {s s' : σ} :
    (pure a : DbM σ α).result s = (.ok a', s') ↔ a = a' ∧ s = s' := by
  rw [result_pure, Prod.mk.injEq, Except.ok.injEq]

theorem result_attempt (x : DbM σ α) (s : σ) :
    x.attempt.result s = (.ok (x.result s).1, (x.result s).2) := rfl

end DbM

/-- A connection to a database. Statements are executed in the order of the actions, and at most
one transaction is open. -/
structure Session (σ : Type) where
  dialect : Dialect
  /-- The database that limits catalog queries. -/
  database : String
  /-- Runs a query and returns its rows. -/
  select : String → DbM σ (List Row)
  /-- Runs a statement that returns no rows. -/
  execute : String → DbM σ Unit
  begin : DbM σ Unit
  commit : DbM σ Unit
  rollback : DbM σ Unit

namespace Session

variable {σ : Type}

/-- Executes statements in order, up to the first that fails. -/
def executeAll (session : Session σ) : List String → DbM σ Unit
  | [] => pure ()
  | sql :: rest => do
    session.execute sql
    session.executeAll rest

/-- A session whose state stands beside another one. -/
def onFirst {τ : Type} (session : Session σ) : Session (σ × τ) where
  dialect := session.dialect
  database := session.database
  select sql := (session.select sql).onFirst
  execute sql := (session.execute sql).onFirst
  begin := session.begin.onFirst
  commit := session.commit.onFirst
  rollback := session.rollback.onFirst

end Session

end SchemaShift
