import SchemaShift.Proofs.Migrator.Foretold

/-!
# Compiling first, executing afterwards

A blueprint is compiled as a whole before the first of its statements is executed. Compiling asks
queries only, on every engine and whether or not it succeeds, so that a blueprint that cannot be
compiled leaves the database alone. What is executed afterwards is what it was compiled to, up to
the first statement that fails.

Results:
* `exists_executes`: an execution of statements ends behind all of them, or at the first that fails.
* `executed_prefix`, `executed_eq_iff`: what was executed is a prefix, and everything exactly when
  nothing failed.
* `buildEach_eq`: executing one statement after the other as they come is a build.
* `build_all_or_nothing`: what a build asks and executes, from compiling to the last statement.
-/

namespace SchemaShift

variable {σ : Type} {session : Session σ}

theorem executed_map_execute (sqls : List String) :
    executed (sqls.map (Event.execute · true)) = sqls := by
  rw [executed, List.filterMap_map]
  exact List.filterMap_some

/-! ## Executing -/

namespace Session

/-- How an execution of statements ends, and what it writes down: all of them are done, or those in
front of the first that fails, whose error is the result. -/
inductive Executes (session : Session σ) (s : σ) (sqls : List String) :
    Except Error Unit → σ → List Event → Prop
  | all {s' : σ} (done : (session.executeAll sqls).result s = (.ok (), s')) :
      Executes session s sqls (.ok ()) s' (sqls.map (.execute · true))
  | upTo {before after : List String} {sql : String} {s₁ s' : σ} {e : Error}
      (split : sqls = before ++ sql :: after)
      (done : (session.executeAll before).result s = (.ok (), s₁))
      (failed : (session.execute sql).result s₁ = (.error e, s')) :
      Executes session s sqls (.error e) s' (before.map (.execute · true) ++ [.execute sql false])

namespace Executes

variable {s s₁ s' : σ} {sql : String} {sqls : List String} {r : Except Error Unit}
  {history : List Event}

theorem cons (done : (session.execute sql).result s = (.ok (), s₁))
    (rest : session.Executes s₁ sqls r s' history) :
    session.Executes s (sql :: sqls) r s' (.execute sql true :: history) := by
  cases rest with
  | all others => exact .all (DbM.result_bind_eq_ok_iff.2 ⟨(), s₁, done, others⟩)
  | @upTo before after _ _ _ _ split others failed =>
    subst split
    have front : (session.executeAll (sql :: before)).result s = (.ok (), _) :=
      DbM.result_bind_eq_ok_iff.2 ⟨(), s₁, done, others⟩
    exact .upTo rfl front failed

/-- What was executed is a prefix. -/
theorem executed_prefix (h : session.Executes s sqls r s' history) : executed history <+: sqls := by
  cases h with
  | all => simp [executed_map_execute]
  | upTo split =>
    rw [split, executed_append, executed_map_execute]
    exact (List.prefix_append_right_inj _).2 List.nil_prefix

/-- Everything was executed exactly when nothing failed. -/
theorem executed_eq_iff (h : session.Executes s sqls r s' history) :
    executed history = sqls ↔ r = .ok () := by
  cases h with
  | all => simp [executed_map_execute]
  | upTo split =>
    rw [split, executed_append, executed_map_execute, List.append_cancel_left_eq]
    exact iff_of_false (List.cons_ne_nil _ _).symm nofun

end Executes

/-- An execution of statements ends behind all of them, or at the first that fails. -/
theorem exists_executes (session : Session σ) (sqls : List String) (s : σ) :
    ∃ r s' history, session.Executes s sqls r s' history ∧
      (session.executeAll sqls).result s = (r, s') ∧
      ∀ earlier, (session.observed.executeAll sqls).result (s, earlier) =
        (r, (s', earlier ++ history)) := by
  induction sqls generalizing s with
  | nil =>
    refine ⟨.ok (), s, [], .all rfl, rfl, fun earlier => ?_⟩
    rw [List.append_nil]
    rfl
  | cons sql sqls ih =>
    have observed : ∀ earlier, (session.observed.execute sql).result (s, earlier) =
        (((session.execute sql).result s).1, (((session.execute sql).result s).2,
          earlier ++ [.execute sql ((session.execute sql).result s).1.isOk])) := fun _ => rfl
    rcases done : (session.execute sql).result s with ⟨e | _, s₁⟩
    · have split : sql :: sqls = [] ++ sql :: sqls := rfl
      refine ⟨.error e, s₁, [.execute sql false], .upTo split rfl done, ?_, ?_⟩
      · rw [executeAll, DbM.result_bind, done]
      · intro earlier
        rw [executeAll, DbM.result_bind, observed, done]
        rfl
    · obtain ⟨r, s', history, ends, result, written⟩ := ih s₁
      refine ⟨r, s', .execute sql true :: history, ends.cons done, ?_, ?_⟩
      · rw [executeAll, DbM.result_bind, done]
        exact result
      · intro earlier
        rw [executeAll, DbM.result_bind, observed, done]
        dsimp only
        rw [written, List.append_assoc]
        rfl

/-- Executes what a blueprint compiles to, one statement after the other. -/
def buildEach (session : Session σ) (b : Blueprint) : DbM σ Unit := do
  for sql in ← b.toSql session do
    session.execute sql

theorem foldlM_execute (session : Session σ) (sqls : List String) :
    sqls.foldlM (fun _ sql => session.execute sql) PUnit.unit = session.executeAll sqls := by
  induction sqls with
  | nil => rfl
  | cons sql sqls ih =>
    rw [List.foldlM_cons, executeAll]
    exact bind_congr fun _ => ih

theorem buildEach_eq (session : Session σ) (b : Blueprint) :
    session.buildEach b = b.build session := by
  unfold buildEach Blueprint.build
  simp [foldlM_execute]

end Session

/-! ## Building -/

/-- Compiling a blueprint asks queries only, and starts no transaction, whether or not it succeeds.
If it fails, a build executes nothing and fails the same way. If it succeeds, a build executes the
statements in order, up to the first that fails: a prefix of what the blueprint was compiled to,
and all of it exactly when the build succeeds. It does not matter whether the statements are
executed one after the other as they come, or which step of a migration asks for the build. -/
theorem Blueprint.build_all_or_nothing (session : Session σ) (b : Blueprint) (s : σ) :
    ∃ queries : List Event, (∀ e ∈ queries, e.IsQuery) ∧
      (∀ earlier, (b.toSql session.observed).result (s, earlier) =
        (((b.toSql session).result s).1, (((b.toSql session).result s).2, earlier ++ queries))) ∧
      (∀ e s', (b.toSql session).result s = (.error e, s') →
        (b.build session).result s = (.error e, s') ∧
        ∀ earlier, (b.build session.observed).result (s, earlier) =
          (.error e, (s', earlier ++ queries))) ∧
      (∀ sqls s₁, (b.toSql session).result s = (.ok sqls, s₁) →
        ∃ r s' history, session.Executes s₁ sqls r s' history ∧
          executed history <+: sqls ∧ (executed history = sqls ↔ r = .ok ()) ∧
          (b.build session).result s = (r, s') ∧
          ∀ earlier, (b.build session.observed).result (s, earlier) =
            (r, (s', earlier ++ queries ++ history))) ∧
      session.buildEach b = b.build session ∧
      (∀ plan : TablePlan, (Step.create plan).run session = session.buildEach plan.create ∧
        (Step.alter plan).run session = session.buildEach plan.alter) := by
  have asks : session.QueriesAlike (observing Event.IsQuery) session.observed :=
    { dialect := rfl
      database := rfl
      select := fun sql => .observed (session.select sql) fun done => ⟨sql, done, rfl⟩ }
  obtain ⟨queries, kinds, compiled⟩ := asks.toSql b s
  refine ⟨queries, kinds, compiled, ?_, ?_, session.buildEach_eq b, fun plan => ?_⟩
  · intro e s' failed
    refine ⟨?_, fun earlier => ?_⟩
    · rw [build, DbM.result_bind, failed]
    · rw [build, DbM.result_bind, compiled, failed]
  · intro sqls s₁ succeeded
    obtain ⟨r, s', history, ends, result, written⟩ := session.exists_executes sqls s₁
    refine ⟨r, s', history, ends, ends.executed_prefix, ends.executed_eq_iff, ?_, fun earlier => ?_⟩
    · rw [build, DbM.result_bind, succeeded]
      exact result
    · rw [build, DbM.result_bind, compiled, succeeded]
      exact written _
  · exact ⟨(session.buildEach_eq _).symm, (session.buildEach_eq _).symm⟩

end SchemaShift
