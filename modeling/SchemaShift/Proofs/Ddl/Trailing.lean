import SchemaShift.Proofs.Ddl.Clauses

/-!
# What stands behind a definition

A table definition is read from the front, and what stands behind its clauses is passed over but
for the storage engine. This file shows that comments and semicolons behind it do not matter: the
readers of its head read the same when the run goes on, as long as they left something, and the
search for an engine passes over both.

Results:
* `Reader.Extends.bind`: readers in a row read the same when the run goes on.
* `Ddl.readHead_extends`: so does the reader of a head.
* `Ddl.readTable_append`: comments and semicolons behind a statement do not matter to it.
-/

namespace SchemaShift

/-! ## Runs that go on -/

namespace Reader

variable {α β : Type} {r s : Reader α} {f g : α → Reader β}

/-- Where the first reader leaves something behind, the second one reads the same off a run that
goes on. -/
def Extends (r s : Reader α) : Prop :=
  ∀ ⦃ts : List Token⦄ ⦃a : α⦄ ⦃rest : List Token⦄, r.run ts = .ok (a, rest) → rest ≠ [] →
    ∀ back, s.run (ts ++ back) = .ok (a, rest ++ back)

theorem Extends.bind (first : r.Extends s) (next : ∀ a, (f a).Extends (g a)) :
    (r >>= f).Extends (s >>= g) := by
  intro ts b rest read some back
  obtain ⟨a, mid, readFirst, readNext⟩ := run_bind_eq_ok_iff.1 read
  have left : mid ≠ [] := by
    rintro rfl
    obtain ⟨parsed, -, -, rfl⟩ := run_eq_ok_iff.1 readNext
    exact some (List.eq_nil_of_length_eq_zero (Nat.le_zero.1 parsed.rest_le))
  exact run_bind_eq_ok_iff.2 ⟨a, _, first readFirst left back, next a readNext some back⟩

theorem Extends.pure (a : α) : (Pure.pure a : Reader α).Extends (Pure.pure a) := by
  rintro ts _ _ ⟨⟩ - back
  rfl

theorem Extends.fail_bind (e : Error) (f : α → Reader β) (s : Reader β) :
    (Reader.fail e >>= f).Extends s := nofun

theorem Extends.unexpected (context : String) (s : Reader α) :
    (Reader.unexpected context).Extends s := by
  intro ts a rest read
  cases ts <;> cases read

theorem Extends.ite {c : Prop} [Decidable c] {r' s' : Reader α} (yes : r.Extends s)
    (no : r'.Extends s') : (if c then r else r').Extends (if c then s else s') := by
  split
  · exact yes
  · exact no

theorem eatKeyword_extends (keyword : String) :
    (eatKeyword keyword).Extends (eatKeyword keyword) := by
  intro ts found rest read some back
  cases ts with
  | nil =>
    cases read
    exact absurd rfl some
  | cons t ts =>
    rw [List.cons_append]
    by_cases here : t.isKeyword keyword = true
    · rw [run_eatKeyword_of keyword here] at read ⊢
      cases read
      rfl
    · rw [run_eatKeyword_of_not keyword (by simpa using here)] at read ⊢
      cases read
      rfl

theorem expectKeyword_extends (context keyword : String) :
    (expectKeyword context keyword).Extends (expectKeyword context keyword) :=
  (eatKeyword_extends keyword).bind fun _ => .ite (.pure ()) (.unexpected context _)

theorem expectToken_extends (context : String) (t : Token) :
    (expectToken context t).Extends (expectToken context t) := by
  intro ts found rest read some back
  obtain ⟨parsed, taken, rfl, rfl⟩ := run_eq_ok_iff.1 read
  cases ts with
  | nil => cases taken
  | cons u ts =>
    rw [expectToken] at taken
    split at taken
    · rename_i same
      cases taken
      rw [same]
      exact run_expectToken context t (ts ++ back)
    · cases taken

theorem name_extends (context : String) : (name context).Extends (name context) := by
  intro ts n rest read _ back
  obtain ⟨t, rfl, named⟩ := (name_ensures context).run read
  exact run_name_cons named (rest ++ back)

/-- The name behind a point takes the place of the one in front of it. -/
theorem run_qualifiedFrom_point {context n : String} {t : Token} (h : t.name? = some n)
    (current : String) (ts : List Token) :
    (qualifiedFrom context current).run (.symbol '.' :: t :: ts) =
      (qualifiedFrom context n).run ts := by
  have step : qualifiedFrom context current (.symbol '.' :: t :: ts) =
      (qualifiedFrom context n ts).map fun p => p.weaken (by simp; omega) := by
    rw [qualifiedFrom]
    split
    · rename_i m named
      rw [h] at named
      cases named
      rfl
    · rename_i none
      rw [h] at none
      cases none
  rw [run, step, run]
  cases qualifiedFrom context n ts <;> rfl

theorem run_qualifiedFrom_of_ne {u : Token} (h : u ≠ .symbol '.') (context current : String)
    (ts : List Token) :
    (qualifiedFrom context current).run (u :: ts) = .ok (current, u :: ts) := by
  have step : qualifiedFrom context current (u :: ts) = .ok ⟨current, u :: ts, Nat.le_refl _⟩ := by
    rw [qualifiedFrom]
    · rintro t ts' ⟨⟩
      exact h rfl
    · rintro ⟨⟩
      exact h rfl
  rw [run, step]

theorem qualifiedFrom_extends (context current : String) :
    (qualifiedFrom context current).Extends (qualifiedFrom context current) := by
  intro ts
  fun_induction qualifiedFrom context current ts with
  | case1 current t ts n named ih =>
    intro a rest read some back
    rw [run_qualifiedFrom_point named] at read
    rw [List.cons_append, List.cons_append, run_qualifiedFrom_point named]
    exact ih read some back
  | case2 current t ts none =>
    intro a rest read
    obtain ⟨parsed, taken, -⟩ := run_eq_ok_iff.1 read
    rw [qualifiedFrom] at taken
    split at taken
    · rename_i named
      rw [none] at named
      cases named
    · cases taken
  | case3 =>
    intro a rest read
    cases read
  | case4 current ts long short =>
    intro a rest read some back
    cases ts with
    | nil =>
      cases read
      exact absurd rfl some
    | cons u us =>
      have other : u ≠ .symbol '.' := by
        rintro rfl
        cases us with
        | nil => exact short rfl
        | cons t us => exact long t us rfl
      rw [run_qualifiedFrom_of_ne other] at read
      cases read
      exact run_qualifiedFrom_of_ne other context current _

theorem qualifiedName_extends (context : String) :
    (qualifiedName context).Extends (qualifiedName context) :=
  (name_extends context).bind (qualifiedFrom_extends context)

theorem run_groupRest_of_closing? {ts : List Token} {n : Nat}
    (h : Token.closing? 1 ts = some n) :
    groupRest.run ts = .ok (ts.take n, ts.drop (n + 1)) := by
  unfold Reader.run groupRest
  split
  · rename_i e failed
    split at failed
    · cases failed
    · rename_i none
      rw [h] at none
      cases none
  · rename_i parsed read
    split at read
    · rename_i m closes
      rw [h] at closes
      cases closes
      cases read
      rfl
    · cases read

/-- What stands behind a group does not matter to it. -/
theorem run_groupRest_append {ts : List Token} {n : Nat} (h : Token.closing? 1 ts = some n)
    (back : List Token) :
    groupRest.run (ts ++ back) = .ok (ts.take n, ts.drop (n + 1) ++ back) := by
  have short := Token.closing?_lt h
  rw [run_groupRest_of_closing? (Token.closing?_append_right h back),
    List.take_append_of_le_length (by omega), List.drop_append_of_le_length (by omega)]

end Reader

namespace Ddl

open Reader

/-! ## Heads -/

/-- A head that is read is read the same when the statement goes on. -/
theorem readHead_extends (whole whole' : List Token) :
    (readHead whole).Extends (readHead whole') := by
  have named : (do
      let table ← qualifiedName "CREATE TABLE"
      expectToken "CREATE TABLE" .leftParen
      pure table : Reader String).Extends (do
      let table ← qualifiedName "CREATE TABLE"
      expectToken "CREATE TABLE" .leftParen
      pure table) :=
    (qualifiedName_extends _).bind fun table => (expectToken_extends _ _).bind fun _ => .pure table
  refine (eatKeyword_extends "create").bind fun _ => .ite ?_ (.fail_bind _ _ _)
  refine (eatKeyword_extends "temporary").bind fun _ => ?_
  refine (eatKeyword_extends "table").bind fun _ => .ite ?_ (.fail_bind _ _ _)
  refine (eatKeyword_extends "if").bind fun _ => .ite ?_ named
  refine (expectKeyword_extends _ "not").bind fun _ => ?_
  exact (expectKeyword_extends _ "exists").bind fun _ => named

/-! ## Table options -/

/-- Tokens that no statement is made of. -/
def IsQuiet (t : Token) : Prop := t.isComment = true ∨ t = .semicolon

namespace IsQuiet

variable {t : Token}

theorem not_isKeyword (h : IsQuiet t) (keyword : String) : t.isKeyword keyword = false := by
  rcases h with comment | rfl
  · cases t <;> first | rfl | cases comment
  · rfl

theorem name?_eq_none (h : IsQuiet t) : t.name? = none := by
  rcases h with comment | rfl
  · cases t <;> first | rfl | cases comment
  · rfl

theorem ne_symbol (h : IsQuiet t) (c : Char) : t ≠ .symbol c := by
  rintro rfl
  rcases h with h | h <;> cases h

end IsQuiet

theorem readEngine_of_not {t : Token} (h : t.isKeyword "engine" = false)
    (engine : Option String) (ts : List Token) :
    readEngine engine (t :: ts) = readEngine engine ts := by
  rw [readEngine.eq_def]
  cases ts <;> simp [h, readEngine]

/-- The engine without a sign in front. -/
theorem readEngine_of_ne {t u : Token} (h : t.isKeyword "engine" = true) (hu : u ≠ .symbol '=')
    (engine : Option String) (ts : List Token) :
    readEngine engine (t :: u :: ts) = readEngine u.name? ts := by
  rw [readEngine.eq_def]
  simp [h, hu]

/-- The engine behind a sign. -/
theorem readEngine_equals {t : Token} (h : t.isKeyword "engine" = true) (engine : Option String)
    (v : Token) (ts : List Token) :
    readEngine engine (t :: .symbol '=' :: v :: ts) = readEngine v.name? ts := by
  rw [readEngine.eq_def]
  simp [h]

/-- Comments and semicolons name no engine. -/
theorem readEngine_of_forall {back : List Token} (quiet : ∀ t ∈ back, IsQuiet t)
    (engine : Option String) : readEngine engine back = engine := by
  induction back with
  | nil => rfl
  | cons t ts ih =>
    obtain ⟨ht, others⟩ := List.forall_mem_cons.1 quiet
    rw [readEngine_of_not (ht.not_isKeyword _), ih others]

/-- They name none behind other options either, where the name of an engine may be missing. -/
theorem readEngine_append {back : List Token} (quiet : ∀ t ∈ back, IsQuiet t)
    (engine : Option String) (ts : List Token) :
    readEngine engine (ts ++ back) = readEngine engine ts := by
  fun_induction readEngine engine ts with
  | case1 engine => exact readEngine_of_forall quiet engine
  | case2 engine t found =>
    cases back with
    | nil => simp [readEngine, found]
    | cons u us =>
      obtain ⟨hu, others⟩ := List.forall_mem_cons.1 quiet
      rw [List.singleton_append, readEngine_of_ne found (hu.ne_symbol _), hu.name?_eq_none,
        readEngine_of_forall others]
  | case3 engine t other =>
    rw [List.singleton_append, readEngine_of_not (by simpa using other),
      readEngine_of_forall quiet]
  | case4 engine t found =>
    cases back with
    | nil => simp [readEngine, found]
    | cons v vs =>
      obtain ⟨hv, others⟩ := List.forall_mem_cons.1 quiet
      rw [List.cons_append, List.singleton_append, readEngine_equals found, hv.name?_eq_none,
        readEngine_of_forall others]
  | case5 engine t found v ts ih =>
    rw [List.cons_append, List.cons_append, List.cons_append, readEngine_equals found, ih]
  | case6 engine t u ts found named ih =>
    rw [List.cons_append, List.cons_append, readEngine_of_ne found named, ih]
  | case7 engine t u ts other ih =>
    rw [List.cons_append, readEngine_of_not (by simpa using other)]
    exact ih

/-! ## Definitions -/

/-- Comments and semicolons behind a statement do not matter to it. -/
theorem readTable_append {ts back : List Token} {b : Blueprint} (h : readTable ts = .ok b)
    (quiet : ∀ t ∈ back, IsQuiet t) : readTable (ts ++ back) = .ok b := by
  obtain ⟨⟨⟨table, inside⟩, rest⟩, read, h⟩ := Except.bind_eq_ok_iff.1 h
  obtain ⟨table, clauses, readTable, read⟩ := Reader.run_bind_eq_ok_iff.1 read
  obtain ⟨inside, rest, readInside, read⟩ := Reader.run_bind_eq_ok_iff.1 read
  cases read
  obtain ⟨n, closes, rfl, rfl⟩ := groupRest_ensures.run readInside
  have opened : clauses ≠ [] := by
    rintro rfl
    cases closes
  have again := readHead_extends ts (ts ++ back) readTable opened back
  have group := run_groupRest_append closes back
  obtain ⟨parts, readParts, h⟩ := Except.bind_eq_ok_iff.1 h
  refine Except.bind_eq_ok_iff.2 ⟨((table, clauses.take n), clauses.drop (n + 1) ++ back), ?_, ?_⟩
  · rw [run_bind_of again, run_bind_of group]
    rfl
  · refine Except.bind_eq_ok_iff.2 ⟨parts, readParts, ?_⟩
    rw [readEngine_append quiet]
    exact h

end Ddl

end SchemaShift
