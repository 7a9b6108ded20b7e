import SchemaShift.Proofs.Migrator.Observation

/-!
# The history of a run

What a unit writes down while it is run: it may begin a transaction, it carries out the steps of
its migration, it records itself in the ledger, and it may commit. When something fails, nothing
that would follow is asked for, apart from rolling back. Units are run one after the other, up to
the first that fails.

Results:
* `exists_unitHistory`: a unit that is run has the history of a unit.
* `exists_accounts`: units that are run have the histories of units, one after the other.
* `exists_completed`: units that succeed are completed.
* `records_completed`: units that are done are recorded in their order, each once.
-/

namespace SchemaShift

variable {σ : Type}

/-- Where a unit stopped. -/
inductive Stop where
  | resolving
  | beginning
  | stepping
  | recording
  | committing
deriving DecidableEq, Repr

/-- That a migration was recorded in some direction. -/
def Direction.recorded (d : Direction) (entry : Entry) (done : Bool) : Event :=
  match d with
  | .up => .log entry done
  | .down => .delete entry.name done

/-- Whether an event changed what the ledger records. -/
def Event.records : Event → Bool
  | log _ done | delete _ done => done
  | _ => false

/-- An event that only transactional migrations have. -/
def Migration.bracket (migration : Migration) (e : Event) : List Event :=
  if migration.transactional then [e] else []

namespace Migrator

/-- What the steps of one direction of a migration write down, from some state on, up to their end
or up to the first that fails. -/
def Stepped (m : Migrator σ) (migration : Migration) (d : Direction) (result : Except Error Unit)
    (steps : List Event) : Prop :=
  ∃ s s', (migration.run m.session.observed d).result (s, []) = (result, (s', steps))

/-- What a unit writes down inside its transaction, and where it stopped if it did. -/
inductive WorkHistory (m : Migrator σ) (migration : Migration) (d : Direction) (entry : Entry) :
    Option Stop → List Event → Prop
  | stepping {e : Error} {steps : List Event} (failed : m.Stepped migration d (.error e) steps) :
    WorkHistory m migration d entry (some .stepping) steps
  | recording {steps : List Event} (stepped : m.Stepped migration d (.ok ()) steps) :
    WorkHistory m migration d entry (some .recording) (steps ++ [d.recorded entry false])
  | done {steps : List Event} (stepped : m.Stepped migration d (.ok ()) steps) :
    WorkHistory m migration d entry none (steps ++ [d.recorded entry true])

/-- What a unit writes down, and where it stopped if it did. -/
inductive UnitHistory (m : Migrator σ) (d : Direction) (entry : Entry) :
    Option Stop → List Event → Prop
  | resolving {e : Error} (unknown : m.source.resolve entry.name = .error e) :
    UnitHistory m d entry (some .resolving) []
  | beginning {migration : Migration} (found : m.source.resolve entry.name = .ok migration)
      (transactional : migration.transactional = true) :
    UnitHistory m d entry (some .beginning) [.begin false]
  | undone {migration : Migration} {stop : Stop} {work : List Event}
      (found : m.source.resolve entry.name = .ok migration)
      (worked : m.WorkHistory migration d entry (some stop) work) (undone : Bool) :
    UnitHistory m d entry (some stop)
      (migration.bracket (.begin true) ++ work ++ migration.bracket (.rollback undone))
  | committing {migration : Migration} {work : List Event}
      (found : m.source.resolve entry.name = .ok migration)
      (transactional : migration.transactional = true)
      (worked : m.WorkHistory migration d entry none work) :
    UnitHistory m d entry (some .committing) ([.begin true] ++ work ++ [.commit false])
  | done {migration : Migration} {work : List Event}
      (found : m.source.resolve entry.name = .ok migration)
      (worked : m.WorkHistory migration d entry none work) :
    UnitHistory m d entry none
      (migration.bracket (.begin true) ++ work ++ migration.bracket (.commit true))

/-- What units write down that are all done, one after the other. -/
inductive Completed (m : Migrator σ) (d : Direction) : List Entry → List Event → Prop
  | nil : Completed m d [] []
  | cons {entry : Entry} {rest : List Entry} {first others : List Event}
      (unit : m.UnitHistory d entry none first) (completed : Completed m d rest others) :
    Completed m d (entry :: rest) (first ++ others)

/-- What is written down when units are run: either all of them are done, or all before the first
that is not, after which nothing follows. -/
inductive Accounts (m : Migrator σ) (d : Direction) (entries : List Entry) :
    Option Stop → List Event → Prop
  | done {history : List Event} (completed : m.Completed d entries history) :
    Accounts m d entries none history
  | stopped {before rest : List Entry} {entry : Entry} {stop : Stop} {history last : List Event}
      (split : entries = before ++ entry :: rest) (completed : m.Completed d before history)
      (unit : m.UnitHistory d entry (some stop) last) :
    Accounts m d entries (some stop) (history ++ last)

/-! ## Units -/

variable {m : Migrator σ} {migration : Migration} {d : Direction} {entry : Entry}
  {s s' : σ} {earlier after : List Event}

theorem isOk_error_iff {α : Type} {e : Error} {stop : Stop} :
    (Except.error e : Except Error α).isOk = true ↔ some stop = none := by
  constructor <;> intro h <;> cases h

theorem isOk_ok_iff {α : Type} {a : α} :
    (Except.ok a : Except Error α).isOk = true ↔ (none : Option Stop) = none :=
  ⟨fun _ => rfl, fun _ => rfl⟩

theorem result_record (m : Migrator σ) (d : Direction) (entry : Entry) (s : σ)
    (earlier : List Event) :
    (m.observed.record d entry).result (s, earlier) =
      (((m.record d entry).result s).1, (((m.record d entry).result s).2,
        earlier ++ [d.recorded entry ((m.record d entry).result s).1.isOk])) := by
  cases d <;> rfl

/-- The part of a unit that stands inside its transaction. -/
def work (m : Migrator σ) (migration : Migration) (d : Direction) (entry : Entry) : DbM σ Unit := do
  migration.run m.session d
  m.record d entry

/-- How a unit ends, given the result of what stands inside its transaction. -/
def finish (m : Migrator σ) (transactional : Bool) (name : String) :
    Except Error Unit → DbM σ Unit
  | .ok _ => if transactional then m.session.commit else pure ()
  | .error cause => do
    if transactional then
      let _ ← m.session.rollback.attempt
    DbM.ofExcept (.error (.step name cause))

/-- How a unit begins: with its transaction, if it has one. -/
def opening (m : Migrator σ) (migration : Migration) : DbM σ Unit :=
  if migration.transactional then m.session.begin else pure ()

theorem result_perform (m : Migrator σ) (migration : Migration) (d : Direction) (entry : Entry)
    (s : σ) :
    (m.perform migration d entry).result s =
      match (m.opening migration).result s with
      | (.error e, s₁) => (.error e, s₁)
      | (.ok _, s₁) =>
        (m.finish migration.transactional entry.name
            ((m.work migration d entry).result s₁).1).result
          ((m.work migration d entry).result s₁).2 := by
  unfold perform opening
  cases migration.transactional with
  | true =>
    simp only [if_true]
    rw [DbM.result_bind]
    obtain ⟨e | _, s₁⟩ := m.session.begin.result s
    · rfl
    · show (DbM.attempt (m.work migration d entry) >>= _).result s₁ =
        (m.finish true entry.name ((m.work migration d entry).result s₁).1).result
          ((m.work migration d entry).result s₁).2
      rw [DbM.result_bind, DbM.result_attempt]
      obtain ⟨e | _, s₂⟩ := (m.work migration d entry).result s₁
      · rfl
      · rfl
  | false =>
    show (DbM.attempt (m.work migration d entry) >>= _).result s =
      (m.finish false entry.name ((m.work migration d entry).result s).1).result
        ((m.work migration d entry).result s).2
    rw [DbM.result_bind, DbM.result_attempt]
    obtain ⟨e | _, s₂⟩ := (m.work migration d entry).result s
    · rfl
    · rfl

theorem exists_stepped (m : Migrator σ) (migration : Migration) (d : Direction) (s : σ) :
    ∃ steps r s', m.Stepped migration d r steps ∧
      ∀ earlier, (migration.run m.observed.session d).result (s, earlier) =
        (r, (s', earlier ++ steps)) := by
  obtain ⟨steps, -, result⟩ := exists_steps m.session migration d s
  exact ⟨steps, _, _, ⟨s, _, result []⟩, result⟩

/-- What happens inside the transaction of a unit. -/
theorem exists_workHistory (m : Migrator σ) (migration : Migration) (d : Direction)
    (entry : Entry) (s : σ) :
    ∃ stop work r s', m.WorkHistory migration d entry stop work ∧ (r.isOk = true ↔ stop = none) ∧
      ∀ earlier, (m.observed.work migration d entry).result (s, earlier) =
        (r, (s', earlier ++ work)) := by
  unfold work
  obtain ⟨steps, r, s₁, stepped, result⟩ := m.exists_stepped migration d s
  cases r with
  | error e =>
    refine ⟨_, _, .error e, s₁, .stepping stepped, isOk_error_iff, ?_⟩
    intro earlier
    rw [DbM.result_bind, result]
  | ok _ =>
    have recorded := m.result_record d entry s₁
    generalize (m.record d entry).result s₁ = between at recorded
    obtain ⟨e | _, s₂⟩ := between
    · refine ⟨_, _, .error e, s₂, .recording stepped, isOk_error_iff, ?_⟩
      intro earlier
      rw [DbM.result_bind, result, ← List.append_assoc]
      exact recorded (earlier ++ steps)
    · refine ⟨_, _, .ok (), s₂, .done stepped, isOk_ok_iff, ?_⟩
      intro earlier
      rw [DbM.result_bind, result, ← List.append_assoc]
      exact recorded (earlier ++ steps)

/-- What a unit writes down after it has begun, up to its end. -/
theorem exists_finished (d : Direction) (found : m.source.resolve entry.name = .ok migration)
    (s : σ) :
    ∃ stop rest r s', m.UnitHistory d entry stop (migration.bracket (.begin true) ++ rest) ∧
      (r.isOk = true ↔ stop = none) ∧
      ∀ earlier,
        (m.observed.finish migration.transactional entry.name
            ((m.observed.work migration d entry).result (s, earlier)).1).result
          ((m.observed.work migration d entry).result (s, earlier)).2 =
            (r, (s', earlier ++ rest)) := by
  obtain ⟨stop, work, r, s₁, worked, ended, result⟩ := m.exists_workHistory migration d entry s
  simp only [result]
  cases r with
  | error cause =>
    cases stop with
    | none => cases ended.2 rfl
    | some stop =>
      -- rolling back is asked for only in a transaction, and may fail without notice
      have history := UnitHistory.undone found worked (m.session.rollback.result s₁).1.isOk
      rw [List.append_assoc] at history
      by_cases transactional : migration.transactional = true
      · refine ⟨_, _, .error (.step entry.name cause), (m.session.rollback.result s₁).2, history,
          isOk_error_iff, ?_⟩
        intro earlier
        rw [transactional, Migration.bracket, if_pos transactional, ← List.append_assoc]
        rfl
      · refine ⟨_, _, .error (.step entry.name cause), s₁, history, isOk_error_iff, ?_⟩
        intro earlier
        rw [Bool.not_eq_true] at transactional
        rw [transactional, Migration.bracket, if_neg (by simp [transactional]), List.append_nil]
        rfl
  | ok _ =>
    have none := ended.1 rfl
    subst none
    have history := UnitHistory.done found worked
    rw [List.append_assoc] at history
    by_cases transactional : migration.transactional = true
    · have committed := m.result_commit s₁
      generalize m.session.commit.result s₁ = between at committed
      obtain ⟨e | _, s₂⟩ := between
      · have failed := UnitHistory.committing found transactional worked
        rw [List.append_assoc] at failed
        refine ⟨some .committing, work ++ [.commit false], .error e, s₂, ?_, isOk_error_iff, ?_⟩
        · rw [Migration.bracket, if_pos transactional]
          exact failed
        · intro earlier
          rw [transactional, ← List.append_assoc]
          exact committed _
      · refine ⟨_, _, .ok (), s₂, history, isOk_ok_iff, ?_⟩
        intro earlier
        rw [transactional, Migration.bracket, if_pos transactional, ← List.append_assoc]
        exact committed _
    · refine ⟨_, _, .ok (), s₁, history, isOk_ok_iff, ?_⟩
      intro earlier
      rw [Bool.not_eq_true] at transactional
      rw [transactional, Migration.bracket, if_neg (by simp [transactional]), List.append_nil]
      rfl

/-- What a unit writes down once its migration has been found. -/
theorem exists_unitHistory_of_found (d : Direction)
    (found : m.source.resolve entry.name = .ok migration) (s : σ) :
    ∃ stop history r s', m.UnitHistory d entry stop history ∧ (r.isOk = true ↔ stop = none) ∧
      ∀ earlier, (m.observed.perform migration d entry).result (s, earlier) =
        (r, (s', earlier ++ history)) := by
  simp only [result_perform, opening]
  by_cases transactional : migration.transactional = true
  · have begun := m.result_begin s
    generalize m.session.begin.result s = between at begun
    obtain ⟨e | _, s₁⟩ := between
    · refine ⟨_, _, .error e, s₁, .beginning found transactional, isOk_error_iff, ?_⟩
      intro earlier
      rw [if_pos transactional, begun]
      rfl
    · obtain ⟨stop, rest, r, s₂, history, ended, result⟩ := exists_finished d found s₁
      refine ⟨stop, _, r, s₂, history, ended, ?_⟩
      intro earlier
      rw [if_pos transactional, begun, Migration.bracket, if_pos transactional,
        ← List.append_assoc]
      exact result (earlier ++ [.begin true])
  · obtain ⟨stop, rest, r, s₁, history, ended, result⟩ := exists_finished d found s
    refine ⟨stop, _, r, s₁, history, ended, ?_⟩
    intro earlier
    rw [if_neg transactional, Migration.bracket, if_neg transactional, List.nil_append]
    exact result earlier

/-- What a unit writes down. -/
theorem exists_unitHistory (m : Migrator σ) (d : Direction) (entry : Entry) (s : σ) :
    ∃ stop history r s', m.UnitHistory d entry stop history ∧ (r.isOk = true ↔ stop = none) ∧
      ∀ earlier, (m.observed.unit false d entry).result (s, earlier) =
        (r, (s', earlier ++ history)) := by
  have source : m.observed.source = m.source := rfl
  cases found : m.source.resolve entry.name with
  | error e =>
    refine ⟨_, _, .error e, s, .resolving found, isOk_error_iff, ?_⟩
    intro earlier
    rw [unit, source, found, List.append_nil]
    rfl
  | ok migration =>
    obtain ⟨stop, history, r, s', written, ended, result⟩ := exists_unitHistory_of_found d found s
    have performed : m.observed.unit false d entry =
        m.observed.perform migration d entry >>= fun _ =>
          pure { name := entry.name, state := d.done } := by
      rw [unit, source, found]
      rfl
    simp only [performed, DbM.result_bind, result]
    cases r with
    | error e =>
      refine ⟨stop, history, .error e, s', written, ended, fun _ => rfl⟩
    | ok _ =>
      have none := ended.1 rfl
      subst none
      exact ⟨none, history, _, s', written, isOk_ok_iff, fun _ => rfl⟩

/-- What units write down that are run one after the other. -/
theorem exists_accounts (m : Migrator σ) (d : Direction) (entries : List Entry) (s : σ) :
    ∃ stop history r s', m.Accounts d entries stop history ∧ (r.isOk = true ↔ stop = none) ∧
      ∀ earlier, (m.observed.units false d entries).result (s, earlier) =
        (r, (s', earlier ++ history)) := by
  induction entries generalizing s with
  | nil =>
    refine ⟨none, [], .ok [], s, .done .nil, isOk_ok_iff, ?_⟩
    intro earlier
    rw [List.append_nil]
    rfl
  | cons entry rest ih =>
    obtain ⟨stop, first, r, s₁, unit, ended, result⟩ := m.exists_unitHistory d entry s
    unfold units
    simp only [DbM.result_bind, result]
    cases r with
    | error e =>
      cases stop with
      | none => cases ended.2 rfl
      | some stop =>
        have account : m.Accounts d (entry :: rest) (some stop) ([] ++ first) :=
          .stopped rfl .nil unit
        exact ⟨some stop, _, .error e, s₁, account, isOk_error_iff, fun _ => rfl⟩
    | ok outcome =>
      have none := ended.1 rfl
      subst none
      obtain ⟨stop, others, r, s₂, account, ended, result⟩ := ih s₁
      have accounts : m.Accounts d (entry :: rest) stop (first ++ others) := by
        cases account with
        | done completed => exact .done (.cons unit completed)
        | stopped split completed last =>
          rw [split, ← List.append_assoc]
          exact .stopped rfl (.cons unit completed) last
      simp only [result, List.append_assoc]
      cases r with
      | error e => exact ⟨stop, _, .error e, s₂, accounts, ended, fun _ => rfl⟩
      | ok outcomes =>
        have none := ended.1 rfl
        subst none
        exact ⟨none, _, _, s₂, accounts, isOk_ok_iff, fun _ => rfl⟩

/-- What units write down that all succeed. -/
theorem exists_completed {entries : List Entry} {outcomes : List UnitOutcome}
    (done : (m.units false d entries).result s = (.ok outcomes, s')) :
    ∃ history, m.Completed d entries history ∧
      ∀ earlier, (m.observed.units false d entries).result (s, earlier) =
        (.ok outcomes, (s', earlier ++ history)) := by
  obtain ⟨stop, history, r, s₁, account, ended, result⟩ := m.exists_accounts d entries s
  have observed : Observes (fun _ => True) (m.units false d entries)
      (m.observed.units false d entries) := m.observes_units (fun _ => trivial) d entries
  have same := done.symm.trans (observed.result_eq (result []))
  rw [Prod.mk.injEq] at same
  obtain ⟨rfl, rfl⟩ := same
  have none := ended.1 rfl
  subst none
  cases account with
  | done completed => exact ⟨history, completed, result⟩

theorem Completed.append {first second : List Entry} {before after : List Event}
    (h : m.Completed d first before) (h' : m.Completed d second after) :
    m.Completed d (first ++ second) (before ++ after) := by
  induction h with
  | nil => exact h'
  | cons unit completed ih =>
    rw [List.append_assoc]
    exact .cons unit ih

/-! ## What is recorded -/

theorem records_eq_nil {events : List Event} (h : ∀ e ∈ events, e.records = false) :
    events.filter Event.records = [] := by
  rw [List.filter_eq_nil_iff]
  intro e he recorded
  rw [h e he] at recorded
  cases recorded

theorem records_bracket (migration : Migration) {e : Event} (h : e.records = false) :
    (migration.bracket e).filter Event.records = [] := by
  apply records_eq_nil
  intro e' he'
  unfold Migration.bracket at he'
  split at he'
  · rw [List.mem_singleton.1 he', h]
  · cases he'

/-- The steps of a migration do not change what the ledger records. -/
theorem records_stepped {result : Except Error Unit} {steps : List Event}
    (h : m.Stepped migration d result steps) : steps.filter Event.records = [] := by
  obtain ⟨s, s', ran⟩ := h
  obtain ⟨steps', statements, observed⟩ := exists_steps m.session migration d s
  have same := (observed []).symm.trans ran
  simp only [List.nil_append, Prod.mk.injEq] at same
  obtain ⟨-, -, rfl⟩ := same
  apply records_eq_nil
  intro e he
  have statement := statements e he
  cases e with
  | select | execute => rfl
  | _ => cases statement

theorem records_recorded (d : Direction) (entry : Entry) (done : Bool) :
    (d.recorded entry done).records = done := by
  cases d <;> rfl

theorem records_workHistory {stop : Option Stop} {work : List Event}
    (h : m.WorkHistory migration d entry stop work) :
    work.filter Event.records = if stop = none then [d.recorded entry true] else [] := by
  cases h with
  | stepping failed => exact records_stepped failed
  | recording stepped =>
    rw [List.filter_append, records_stepped stepped, List.filter_cons, records_recorded]
    rfl
  | done stepped =>
    rw [List.filter_append, records_stepped stepped, List.filter_cons, records_recorded]
    rfl

/-- A unit is recorded once if it is done, or fails only to commit, and not at all otherwise. -/
theorem records_unitHistory {stop : Option Stop} {history : List Event}
    (h : m.UnitHistory d entry stop history) :
    history.filter Event.records =
      if stop = none ∨ stop = some .committing then [d.recorded entry true] else [] := by
  cases h with
  | resolving unknown => rfl
  | beginning found transactional => rfl
  | undone found worked undone =>
    rw [List.filter_append, List.filter_append, records_workHistory worked,
      records_bracket _ rfl, records_bracket _ rfl]
    cases worked <;> rfl
  | committing found transactional worked =>
    rw [List.filter_append, List.filter_append, records_workHistory worked]
    rfl
  | done found worked =>
    rw [List.filter_append, List.filter_append, records_workHistory worked,
      records_bracket _ rfl, records_bracket _ rfl]
    rfl

/-- Units that are done are recorded in their order, each once. -/
theorem records_completed {entries : List Entry} {history : List Event}
    (h : m.Completed d entries history) :
    history.filter Event.records = entries.map fun entry => d.recorded entry true := by
  induction h with
  | nil => rfl
  | cons unit completed ih =>
    rw [List.filter_append, records_unitHistory unit, ih, List.map_cons]
    rfl

end Migrator

end SchemaShift
