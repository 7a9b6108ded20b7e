import SchemaShift.Proofs.Rebuild.Enforcement

/-!
# What a failure leaves behind

The enforcement of foreign keys is turned off and on by statements like any other. Building a
blueprint ends at the first statement that fails, and so does not turn the enforcement on again if
that statement stands where it is off.

Results:
* `Session.executeAll_eq_error_iff`: an execution that fails does so at one of its statements.
* `Session.Enforces.executeAll`: the enforcement is as it was turned last.
* `Blueprint.enforced_build_iff`: foreign keys are enforced behind a build exactly when it does not
  fail where they are not.
* `Blueprint.not_forall_enforced`: they are not always.
-/

namespace SchemaShift

open Sql

variable {σ : Type} {session : Session σ} {x x' : σ}

namespace Session

/-! ## Executions that fail -/

theorem executeAll_append (session : Session σ) (sqls more : List String) :
    session.executeAll (sqls ++ more) =
      session.executeAll sqls >>= fun _ => session.executeAll more := by
  induction sqls with
  | nil => exact (pure_bind _ _).symm
  | cons sql sqls ih =>
    rw [List.cons_append, executeAll, executeAll, bind_assoc, ih]

/-- An execution that fails has executed the statements in front of the one that fails. -/
theorem executeAll_eq_error_iff {sqls : List String} {e : Error} :
    (session.executeAll sqls).result x = (.error e, x') ↔
      ∃ before sql after x₁, sqls = before ++ sql :: after ∧
        (session.executeAll before).result x = (.ok (), x₁) ∧
        (session.execute sql).result x₁ = (.error e, x') := by
  constructor
  · intro failed
    induction sqls generalizing x with
    | nil => cases failed
    | cons sql sqls ih =>
      rw [executeAll, DbM.result_bind] at failed
      rcases executed : (session.execute sql).result x with ⟨e' | _, x₁⟩
      · rw [executed] at failed
        cases failed
        exact ⟨[], sql, sqls, x, rfl, rfl, executed⟩
      · rw [executed] at failed
        obtain ⟨before, failing, after, x₂, rfl, front, fails⟩ := ih failed
        exact ⟨sql :: before, failing, after, x₂, rfl,
          DbM.result_bind_eq_ok_iff.2 ⟨(), x₁, executed, front⟩, fails⟩
  · rintro ⟨before, sql, after, x₁, rfl, front, fails⟩
    rw [executeAll_append, DbM.result_bind, front]
    dsimp only
    rw [executeAll, DbM.result_bind, fails]

/-! ## The enforcement as part of the state -/

/-- The states of a session show whether foreign keys are enforced: the statements that turn this
off and on succeed, and nothing else changes it. -/
structure Enforces (session : Session σ) (enforced : σ → Bool) : Prop where
  select : ∀ sql x, enforced ((session.select sql).result x).2 = enforced x
  toggle : ∀ on x, ∃ x',
    (session.execute ((Statement.enforceForeignKeys on).render .sqlite)).result x = (.ok (), x') ∧
      enforced x' = on
  execute : ∀ sql x, (∀ on, sql ≠ (Statement.enforceForeignKeys on).render .sqlite) →
    enforced ((session.execute sql).result x).2 = enforced x

end Session

namespace Sql

/-- No other statement begins like one that turns the enforcement off or on. -/
theorem head?_render_ne {s : Statement} (plain : s.toggle? = none) :
    (s.render .sqlite).toList.head? ≠ some 'P' := by
  have other (first rest : String) {c : Char} (h : first.toList.head? = some c) (hc : c ≠ 'P') :
      (first ++ rest).toList.head? ≠ some 'P' := by
    rw [String.toList_append, List.head?_append, h]
    exact fun same => hc (Option.some.inj same)
  cases s with
  | enforceForeignKeys on => cases plain
  | createTable table columns constraints engine =>
    change ("CREATE TABLE " ++ _ ++ _ ++ _ ++ _ ++ _).toList.head? ≠ _
    simp only [String.append_assoc]
    exact other _ _ (c := 'C') rfl (by decide)
  | copyTable target columns source =>
    change ("CREATE TEMPORARY TABLE " ++ _ ++ _ ++ _ ++ _ ++ _).toList.head? ≠ _
    simp only [String.append_assoc]
    exact other _ _ (c := 'C') rfl (by decide)
  | insertFrom table columns source =>
    change ("INSERT INTO " ++ _ ++ _ ++ _ ++ _ ++ _ ++ _ ++ _).toList.head? ≠ _
    simp only [String.append_assoc]
    exact other _ _ (c := 'I') rfl (by decide)
  | dropTable table ifExists =>
    cases ifExists with
    | false => exact other "DROP TABLE " _ (c := 'D') rfl (by decide)
    | true => exact other "DROP TABLE IF EXISTS " _ (c := 'D') rfl (by decide)
  | renameTable table target =>
    change ("RENAME TABLE " ++ _ ++ _ ++ _).toList.head? ≠ _
    simp only [String.append_assoc]
    exact other _ _ (c := 'R') rfl (by decide)
  | alterTable table alterations =>
    change ("ALTER TABLE " ++ _ ++ _ ++ _).toList.head? ≠ _
    simp only [String.append_assoc]
    exact other _ _ (c := 'A') rfl (by decide)
  | createIndex unique name table columns =>
    cases unique with
    | false =>
      change ("CREATE INDEX " ++ _ ++ _ ++ _ ++ _ ++ _ ++ _).toList.head? ≠ _
      simp only [String.append_assoc]
      exact other _ _ (c := 'C') rfl (by decide)
    | true =>
      change ("CREATE UNIQUE INDEX " ++ _ ++ _ ++ _ ++ _ ++ _ ++ _).toList.head? ≠ _
      simp only [String.append_assoc]
      exact other _ _ (c := 'C') rfl (by decide)
  | dropIndex name => exact other "DROP INDEX " _ (c := 'D') rfl (by decide)

theorem render_ne_enforceForeignKeys {s : Statement} (plain : s.toggle? = none) (on : Bool) :
    s.render .sqlite ≠ (Statement.enforceForeignKeys on).render .sqlite := by
  intro same
  refine head?_render_ne plain ?_
  rw [same]
  cases on <;> rfl

end Sql

namespace Session.Enforces

variable {enforced : σ → Bool}

/-- One statement turns the enforcement as it says, or leaves it alone whether it fails or not. -/
theorem statement (enforces : session.Enforces enforced) (s : Statement) (x : σ) :
    enforced ((session.execute (s.render .sqlite)).result x).2 = s.toggle?.getD (enforced x) := by
  cases turned : s.toggle? with
  | none => exact enforces.execute _ x (render_ne_enforceForeignKeys turned)
  | some on =>
    have same : s = .enforceForeignKeys on := by
      cases s with
      | enforceForeignKeys on' => rw [Option.some_inj.1 turned]
      | _ => cases turned
    obtain ⟨x₁, executed, on'⟩ := enforces.toggle on x
    rw [same, executed]
    exact on'

/-- What fails does not turn the enforcement off or on. -/
theorem toggle?_eq_none (enforces : session.Enforces enforced) {s : Statement} {e : Error}
    (h : (session.execute (s.render .sqlite)).result x = (.error e, x')) : s.toggle? = none := by
  cases s with
  | enforceForeignKeys on =>
    obtain ⟨x₁, executed, -⟩ := enforces.toggle on x
    rw [executed] at h
    cases h
  | _ => rfl

/-- Statements that are executed leave the enforcement as they turned it last. -/
theorem executeAll (enforces : session.Enforces enforced) {ss : List Statement}
    (h : (session.executeAll (ss.map (·.render .sqlite))).result x = (.ok (), x')) :
    enforced x' = (toggles ss).getLast?.getD (enforced x) := by
  induction ss generalizing x with
  | nil =>
    obtain ⟨-, rfl⟩ := DbM.result_pure_eq_ok_iff.1 h
    rfl
  | cons s ss ih =>
    obtain ⟨_, x₁, executed, rest⟩ := DbM.result_bind_eq_ok_iff.1 h
    have first := enforces.statement s x
    rw [executed] at first
    rw [ih rest, show enforced x₁ = _ from first, toggles, toggles, List.filterMap_cons]
    cases s.toggle? with
    | none => rfl
    | some on => rw [List.getLast?_cons]; rfl

/-- Compiling leaves the enforcement alone. -/
theorem toSql (enforces : session.Enforces enforced) (b : Blueprint) (x : σ) :
    enforced ((b.toSql session).result x).2 = enforced x := by
  have alike : session.QueriesAlike (.keeping fun y => enforced y = enforced x) session :=
    ⟨rfl, rfl, fun sql y hy => (enforces.select sql y).trans hy⟩
  exact alike.toSql b x rfl

end Session.Enforces

namespace Sql

/-- What is turned off is turned on next. -/
theorem Paired.head?_of_append {ts us : List Bool} (paired : Paired (ts ++ us))
    (off : ts.getLast? = some false) : us.head? = some true := by
  generalize both : ts ++ us = all at paired
  induction paired generalizing ts with
  | nil =>
    rw [(List.append_eq_nil_iff.1 both).1] at off
    cases off
  | @cons others _ ih =>
    match ts, both with
    | [false], both =>
      cases both
      rfl
    | false :: true :: ts, both =>
      refine ih ?_ (List.cons.inj (List.cons.inj both).2).2
      cases ts with
      | nil => cases off
      | cons t ts => exact off

/-- Where what is turned off is turned on again, statements are without enforcement as soon as it
was turned off in front of them. -/
theorem unenforced_iff {before after : List Statement} {s : Statement} (plain : s.toggle? = none)
    (paired : Paired (toggles (before ++ s :: after))) :
    Unenforced before after ↔ (toggles before).getLast? = some false := by
  refine ⟨And.left, fun off => ⟨off, ?_⟩⟩
  rw [toggles_append, toggles, toggles, List.filterMap_cons, plain] at paired
  exact paired.head?_of_append off

end Sql

namespace Blueprint

variable {b : Blueprint} {enforced : σ → Bool}

/-! ## Builds that fail -/

/-- Building a blueprint executes the statements in front of one that fails. -/
def FailsAt (session : Session σ) (b : Blueprint) (x : σ) (before : List Statement)
    (s : Statement) (after : List Statement) : Prop :=
  ∃ x₁ x₂ x₃ e, (b.statements session).result x = (.ok (before ++ s :: after), x₁) ∧
    (session.executeAll (before.map (·.render session.dialect))).result x₁ = (.ok (), x₂) ∧
    (session.execute (s.render session.dialect)).result x₂ = (.error e, x₃)

/-- A build fails before it executes anything, or at one of its statements. -/
theorem exists_failsAt {e : Error} (h : (b.build session).result x = (.error e, x')) :
    (b.toSql session).result x = (.error e, x') ∨
      ∃ before s after, b.FailsAt session x before s after := by
  rw [build, DbM.result_bind] at h
  rcases compiled : (b.toSql session).result x with ⟨e' | sqls, x₁⟩
  · rw [compiled] at h
    cases h
    exact .inl rfl
  · rw [compiled] at h
    obtain ⟨ss, stated, rfl⟩ := toSql_eq_ok_iff.1 compiled
    obtain ⟨front, sql, rest, x₂, split, executed, fails⟩ := Session.executeAll_eq_error_iff.1 h
    obtain ⟨before, others, rfl, rfl, behind⟩ := List.map_eq_append_iff.1 split
    obtain ⟨s, after, rfl, rfl, -⟩ := List.map_eq_cons_iff.1 behind
    exact .inr ⟨before, s, after, x₁, x₂, x', e, stated, executed, fails⟩

/-- A build that fails at a statement leaves foreign keys enforced exactly if they are where it
stands. -/
theorem FailsAt.enforced_iff {before after : List Statement} {s : Statement}
    (failed : b.FailsAt session x before s after) (sqlite : session.dialect = .sqlite)
    (enforces : session.Enforces enforced) (on : enforced x = true) :
    enforced ((b.build session).result x).2 = true ↔ ¬ Unenforced before after := by
  obtain ⟨x₁, x₂, x₃, e, stated, executed, fails⟩ := failed
  have compiled := toSql_eq_ok_iff.2 ⟨_, stated, rfl⟩
  have ended : (b.build session).result x = (.error e, x₃) := by
    rw [build, DbM.result_bind, compiled]
    exact Session.executeAll_eq_error_iff.2
      ⟨_, _, after.map (·.render session.dialect), x₂, by simp, executed, fails⟩
  have paired := paired_statements sqlite stated
  have compiling := enforces.toSql b x
  rw [compiled, on] at compiling
  rw [sqlite] at executed fails
  have plain : s.toggle? = none := enforces.toggle?_eq_none fails
  have last := enforces.statement s x₂
  rw [fails, plain, show enforced x₂ = _ from enforces.executeAll executed, compiling] at last
  rw [ended, show enforced x₃ = _ from last, unenforced_iff plain paired]
  cases (toggles before).getLast? with
  | none => simp
  | some on => cases on <;> simp

/-- Where a session shows whether foreign keys are enforced, they are enforced behind a build that
succeeds, and behind one that fails exactly if it does not fail where they are not. -/
theorem enforced_build_iff (sqlite : session.dialect = .sqlite)
    (enforces : session.Enforces enforced) (on : enforced x = true) :
    (∀ x', (b.build session).result x = (.ok (), x') → enforced x' = true) ∧
      (enforced ((b.build session).result x).2 = true ↔
        ∀ before s after, b.FailsAt session x before s after → ¬ Unenforced before after) := by
  have succeeds {x' : σ} (h : (b.build session).result x = (.ok (), x')) : enforced x' = true := by
    obtain ⟨sqls, x₁, compiled, executed⟩ := DbM.result_bind_eq_ok_iff.1 h
    have compiling := enforces.toSql b x
    rw [compiled, on] at compiling
    obtain ⟨ss, stated, rfl⟩ := toSql_eq_ok_iff.1 compiled
    rw [sqlite] at executed
    rw [enforces.executeAll executed, show enforced x₁ = true from compiling]
    have closed := (paired_statements sqlite stated).getLast?_ne
    cases last : (toggles ss).getLast? with
    | none => rfl
    | some on =>
      rw [last] at closed
      cases on with
      | false => exact (closed rfl).elim
      | true => rfl
  refine ⟨fun _ => succeeds, fun kept before s after failed => ?_, fun between => ?_⟩
  · exact (failed.enforced_iff sqlite enforces on).1 kept
  · rcases built : (b.build session).result x with ⟨e | _, x'⟩
    · rcases exists_failsAt built with compiled | ⟨before, s, after, failed⟩
      · have compiling := enforces.toSql b x
        rw [compiled, on] at compiling
        exact compiling
      · rw [← built]
        exact (failed.enforced_iff sqlite enforces on).2 (between before s after failed)
    · exact succeeds built

/-! ## A build that fails between brackets -/

/-- A session on one switch, in which one statement fails. -/
def switched (failing : String) : Session Bool where
  dialect := .sqlite
  database := "main"
  select sql := ExceptT.mk fun on =>
    (.ok (if sql = Query.enforcement then
      [.ofPairs [("foreign_keys", .integer (if on then 1 else 0))]] else []), on)
  execute sql := ExceptT.mk fun on =>
    if sql = (Statement.enforceForeignKeys false).render .sqlite then (.ok (), false)
    else if sql = (Statement.enforceForeignKeys true).render .sqlite then (.ok (), true)
    else if sql = failing then (.error (.query sql "no such column"), on)
    else (.ok (), on)
  begin := pure ()
  commit := pure ()
  rollback := pure ()

theorem enforces_switched (failing : String) : (switched failing).Enforces id where
  select _ _ := rfl
  toggle := by
    intro on x
    cases on with
    | false => exact ⟨false, rfl, rfl⟩
    | true => exact ⟨true, rfl, rfl⟩
  execute := by
    intro sql x other
    simp only [switched, DbM.result, ExceptT.run_mk, if_neg (other false), if_neg (other true)]
    change (ite _ _ _ : Except Error Unit × Bool).2 = x
    split <;> rfl

/-- A column gets another name. -/
def titling : Blueprint := { table := "users", commands := [.renameColumn "name" "title"] }

/-- The session in which it does not. -/
def untitled : Session Bool := switched "ALTER TABLE \"users\" RENAME COLUMN \"name\" TO \"title\""

/-- Renaming a column fails where foreign keys are not enforced. -/
theorem enforced_build_iff_titling :
    ((titling.build untitled).result true).2 = false ∧
      ∃ before s after, titling.FailsAt untitled true before s after ∧ Unenforced before after := by
  have off : ((titling.build untitled).result true).2 = false := by decide +kernel
  refine ⟨off, ?_⟩
  by_contra! none
  have on := (enforced_build_iff rfl (enforces_switched _) (rfl : id true = true)).2.2 none
  exact Bool.false_ne_true (off.symm.trans on)

/-- Foreign keys are not enforced behind every build. -/
theorem not_forall_enforced :
    ¬ ∀ (session : Session Bool) (b : Blueprint), session.dialect = .sqlite →
      session.Enforces id → ((b.build session).result true).2 = true := by
  intro all
  exact absurd (all untitled titling rfl (enforces_switched _)) (by decide +kernel)

end Blueprint

end SchemaShift
