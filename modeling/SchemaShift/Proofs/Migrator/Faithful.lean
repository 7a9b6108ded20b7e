import SchemaShift.Proofs.Migrator.History
import SchemaShift.Session.Scripted

/-!
# Ledgers are faithful

A run applies what is pending, in order and as one new batch, and a rollback reverts the last
batch. Whatever fails on the way, the ledger is told of exactly the units that were done before,
each once and after its steps, and nothing is asked for a unit behind the one that failed.

Results:
* `exists_faithful`: units that are run are recorded exactly as far as they are done.
* `exists_carriesOut`: what is planned is carried out, or nothing is where planning fails.
* `run_and_rollback_faithful`: a run carries out the next batch and a rollback the last one.
-/

namespace SchemaShift

variable {σ : Type}

namespace Migrator

/-- The history of units that are run in their order and recorded when they are done: all of them
succeed, or one fails behind others that are done, and nothing follows it. What fails only to
commit has been recorded; what fails before that has not. -/
inductive Faithful (m : Migrator σ) (d : Direction) (entries : List Entry) :
    Bool → List Event → Prop
  | done {history : List Event} (completed : m.Completed d entries history)
      (recorded : history.filter Event.records = entries.map fun e => d.recorded e true) :
    Faithful m d entries true history
  | stopped {before rest : List Entry} {entry : Entry} {stop : Stop} {history last : List Event}
      (split : entries = before ++ entry :: rest) (completed : m.Completed d before history)
      (unit : m.UnitHistory d entry (some stop) last)
      (recorded : stop ≠ .committing →
        (history ++ last).filter Event.records = before.map fun e => d.recorded e true) :
    Faithful m d entries false (history ++ last)

/-- How a plan is carried out. Where planning failed, nothing is done and the failure stands; else
what is planned is right, and running it has a faithful history. -/
inductive CarriesOut (m : Migrator σ) (d : Direction) (right : List Entry → Prop) :
    Except Error (List Entry) → Except Error Outcome → List Event → Prop
  | unplanned {e : Error} : CarriesOut m d right (.error e) (.error e) []
  | planned {entries : List Entry} {r : Except Error Outcome} {history : List Event}
      (sound : right entries) (faithful : m.Faithful d entries r.isOk history) :
      CarriesOut m d right (.ok entries) r history

variable {m : Migrator σ} {view : σ → MemoryLedger} {s s' : σ} {d : Direction}
  {entries : List Entry}

/-! ## Units -/

theorem Accounts.faithful {stop : Option Stop} {history : List Event}
    (h : m.Accounts d entries stop history) : m.Faithful d entries stop.isNone history := by
  cases h with
  | done completed => exact .done completed (records_completed completed)
  | stopped split completed unit =>
    refine .stopped split completed unit ?_
    intro before
    rw [List.filter_append, records_completed completed, records_unitHistory unit,
      if_neg (by simp [before]), List.append_nil]

/-- Units that are run have a faithful history. -/
theorem exists_faithful (m : Migrator σ) (d : Direction) (entries : List Entry) (s : σ) :
    ∃ history r s', m.Faithful d entries r.isOk history ∧
      ∀ earlier, (m.observed.units false d entries).result (s, earlier) =
        (r, (s', earlier ++ history)) := by
  obtain ⟨stop, history, r, s', account, ended, result⟩ := m.exists_accounts d entries s
  have same : r.isOk = stop.isNone := by
    rw [Bool.eq_iff_iff, ended, Option.isNone_iff_eq_none]
  refine ⟨history, r, s', ?_, result⟩
  rw [same]
  exact account.faithful

/-! ## Plans -/

theorem exists_faithful_carryOut (m : Migrator σ) (d : Direction) (entries : List Entry) (s : σ) :
    ∃ history r s', m.Faithful d entries r.isOk history ∧
      ∀ earlier, (m.observed.carryOut d entries).result (s, earlier) =
        (r, (s', earlier ++ history)) := by
  obtain ⟨history, r, s', faithful, result⟩ := m.exists_faithful d entries s
  simp only [carryOut, DbM.result_bind, result]
  cases r with
  | error e => exact ⟨history, .error e, s', faithful, fun _ => rfl⟩
  | ok units => exact ⟨history, .ok _, s', faithful, fun _ => rfl⟩

/-- What is planned is carried out, behind what planning itself has written down. -/
theorem exists_carriesOut {kind : Event → Prop} {right : List Entry → Prop}
    {plan : DbM σ (List Entry)} {plan' : DbM (σ × List Event) (List Entry)}
    (planning : Observes kind plan plan')
    (sound : ∀ entries s', plan.result s = (.ok entries, s') → right entries) (d : Direction) :
    ∃ prelude history r s', (∀ e ∈ prelude, kind e) ∧
      m.CarriesOut d right (plan.result s).1 r history ∧
      ∀ earlier, (plan' >>= m.observed.carryOut d).result (s, earlier) =
        (r, (s', earlier ++ (prelude ++ history))) := by
  obtain ⟨prelude, kinds, result⟩ := planning s
  simp only [DbM.result_bind, result]
  rcases known : plan.result s with ⟨e | entries, s₁⟩
  · refine ⟨prelude, [], .error e, s₁, kinds, .unplanned, ?_⟩
    intro earlier
    rw [List.append_nil]
  · obtain ⟨history, r, s', faithful, carried⟩ := m.exists_faithful_carryOut d entries s₁
    refine ⟨prelude, history, r, s', kinds, .planned (sound entries s₁ known) faithful, ?_⟩
    intro earlier
    rw [← List.append_assoc]
    exact carried (earlier ++ prelude)

/-! ## Faithful ledgers -/

/-- A run carries out the next batch, behind at most the creation of the ledger, and a rollback
carries out the last one. -/
theorem run_and_rollback_faithful (reads : m.ledger.Reads view) (ordered : m.source.Ordered)
    (unique : ((view s).entries.map (·.name)).Nodup)
    (bounded : ∀ e ∈ (view s).entries, e.batch < Int64.maxValue) :
    (∀ r s', (m.run false).result s = (r, s') →
      ∃ prelude history, (∀ e ∈ prelude, e.IsCreation) ∧
        m.CarriesOut .up (m.IsNextBatch (view s)) (m.plan.result s).1 r history ∧
        ∀ earlier, (m.observed.run false).result (s, earlier) =
          (r, (s', earlier ++ (prelude ++ history)))) ∧
    ∀ r s', (m.rollback false).result s = (r, s') →
      ∃ history,
        m.CarriesOut .down (IsLastBatch (view s)) (m.rollbackPlan.result s).1 r history ∧
        ∀ earlier, (m.observed.rollback false).result (s, earlier) =
          (r, (s', earlier ++ history)) := by
  constructor
  · intro r s' ran
    have planning : Observes Event.IsCreation m.plan m.observed.plan :=
      m.observes_plan fun done => ⟨done, rfl⟩
    obtain ⟨prelude, history, r', s'', creations, carried, result⟩ :=
      m.exists_carriesOut planning
        (fun _ _ planned => isNextBatch_of_plan reads ordered bounded planned) .up
    rw [← run_eq] at result
    have observed : Observes (fun _ => True) (m.run false) (m.observed.run false) :=
      m.observes_run fun _ => trivial
    have same := ran.symm.trans (observed.result_eq (result []))
    rw [Prod.mk.injEq] at same
    obtain ⟨rfl, rfl⟩ := same
    exact ⟨prelude, history, creations, carried, result⟩
  · intro r s' ran
    have planning : Observes (fun _ => False) m.rollbackPlan m.observed.rollbackPlan :=
      m.observes_rollbackPlan
    obtain ⟨prelude, history, r', s'', none, carried, result⟩ :=
      m.exists_carriesOut planning
        (fun _ _ planned => isLastBatch_of_rollbackPlan reads unique planned) .down
    have silent : prelude = [] := List.eq_nil_iff_forall_not_mem.2 none
    subst silent
    rw [← rollback_eq] at result
    have observed : Observes (fun _ => True) (m.rollback false) (m.observed.rollback false) :=
      m.observes_rollback fun _ => trivial
    have same := ran.symm.trans (observed.result_eq (result []))
    rw [Prod.mk.injEq] at same
    obtain ⟨rfl, rfl⟩ := same
    exact ⟨history, carried, result⟩

/-- Users, posts and tags, by the names of their migrations. -/
def taggingSource : Source where
  discover := .ok ["1_users", "2_posts", "3_tags"]
  resolve
    | "1_users" => .ok ({ down := [.sql "drop users"] } : MigrationDocument).migration
    | "2_posts" =>
      .ok ({ up := [.sql "make posts", .sql "fill posts"] } : MigrationDocument).migration
    | "3_tags" => .ok ({ up := [.sql "make tags"] } : MigrationDocument).migration
    | name => .error (.resolution name (.noFile "migrations"))

theorem ordered_taggingSource : taggingSource.Ordered := by
  rintro names ⟨⟩
  decide

/-- Migrations on a scripted session, with a ledger in memory. -/
def tagging : Migrator (Script × MemoryLedger) where
  session := (Session.scripted .sqlite "main" false).onFirst
  ledger := .memory
  source := taggingSource

/-- A script by which tags fail, and a ledger that records users in the third batch. -/
def tagged : Script × MemoryLedger :=
  ({ failing := ["tags"] }, { installed := true, entries := [{ name := "1_users", batch := 3 }] })

/-- A run records posts in the fourth batch and stops at tags; a rollback strikes out users. -/
theorem run_and_rollback_faithful_tagging :
    (∃ e prelude history,
      tagging.CarriesOut .up (tagging.IsNextBatch tagged.2) (tagging.plan.result tagged).1
        (.error e) history ∧
      prelude ++ history =
        [.begin true, .execute "make posts" true, .execute "fill posts" true,
          .log { name := "2_posts", batch := 4 } true, .commit true,
          .begin true, .execute "make tags" false, .rollback true]) ∧
    ∃ outcome history,
      tagging.CarriesOut .down (IsLastBatch tagged.2) (tagging.rollbackPlan.result tagged).1
        (.ok outcome) history ∧
      history =
        [.begin true, .execute "drop users" true, .delete "1_users" true, .commit true] := by
  obtain ⟨run, rollback⟩ := run_and_rollback_faithful (m := tagging) (s := tagged)
    Ledger.reads_memory ordered_taggingSource (by decide) (by decide)
  have failed : ((tagging.run false).result tagged).1.isOk = false := by decide +kernel
  have done : ((tagging.rollback false).result tagged).1.isOk = true := by decide +kernel
  rcases ran : (tagging.run false).result tagged with ⟨e | outcome, s⟩
  · rcases rolled : (tagging.rollback false).result tagged with ⟨e' | outcome', s'⟩
    · rw [rolled] at done
      cases done
    · obtain ⟨prelude, history, -, applies, observed⟩ := run _ _ ran
      obtain ⟨history', reverts, observed'⟩ := rollback _ _ rolled
      have applied := congrArg (fun ended => ended.2.2) (observed [])
      have reverted := congrArg (fun ended => ended.2.2) (observed' [])
      refine ⟨⟨e, prelude, history, applies, applied.symm.trans ?_⟩,
        outcome', history', reverts, reverted.symm.trans ?_⟩
      · decide +kernel
      · decide +kernel
  · rw [ran] at failed
    cases failed

end Migrator

end SchemaShift
