import SchemaShift.Proofs.Ledger.Steady
import SchemaShift.Proofs.Migrator.Faithful
import SchemaShift.Proofs.Migrator.Pretended

/-!
# Pretended runs tell what runs do

Where nothing fails and the answers to queries do not depend on what was executed, a pretended run
records the statements that the run itself executes, unit by unit and in their order. What the run
does besides is to keep its ledger and its transactions.

Results:
* `foretelling`: recording what another session executes, as a relation between actions.
* `exists_units_foretold`: pretended units record what the units themselves execute.
* `exists_foreseen`: a pretended run foresees what a run plans.
* `pretended_faithful`: pretended runs ask queries only, and foretell runs and rollbacks.
-/

namespace SchemaShift

variable {σ α β : Type} {working : σ → Prop}

/-- The statement that was executed, if one was. -/
def Event.executed? : Event → Option String
  | execute sql true => some sql
  | _ => none

/-- The statements that were executed, in their order. -/
def executed (history : List Event) : List String := history.filterMap Event.executed?

theorem executed_append (before after : List Event) :
    executed (before ++ after) = executed before ++ executed after := List.filterMap_append

theorem executed_creations {prelude : List Event} (h : ∀ e ∈ prelude, e.IsCreation) :
    executed prelude = [] := by
  rw [executed, List.filterMap_eq_nil_iff]
  intro e he
  obtain ⟨done, rfl⟩ := h e he
  rfl

/-- What is reported of a unit, its statements apart. -/
def UnitOutcome.withoutStatements (u : UnitOutcome) : UnitOutcome := { u with statements := [] }

/-! ## Recording and executing -/

/-- One action records the statements that the other one executes, and both come to the same
result. They may begin in different states. -/
def Foretells (working : σ → Prop) (x : DbM (σ × List String) α) (y : DbM (σ × List Event) α) :
    Prop :=
  ∀ s t, working s → working t → ∃ r s' t' history, working s' ∧ working t' ∧
    (∀ recorded, x.result (s, recorded) = (r, (s', recorded ++ executed history))) ∧
    ∀ earlier, y.result (t, earlier) = (r, (t', earlier ++ history))

/-- Recording and executing, as a relation that goes along with composition. -/
def foretelling (working : σ → Prop) : ActionRelation (σ × List String) (σ × List Event) where
  holds := Foretells working
  ofExcept r s t hs ht := by
    refine ⟨r, s, t, [], hs, ht, ?_, ?_⟩
    · intro recorded
      rw [executed, List.filterMap_nil, List.append_nil]
      rfl
    · intro earlier
      rw [List.append_nil]
      rfl
  bind := by
    intro α β x y f g first second s t hs ht
    obtain ⟨r, s₁, t₁, before, hs₁, ht₁, recorded, done⟩ := first s t hs ht
    simp only [DbM.result_bind, recorded, done]
    cases r with
    | error e => exact ⟨.error e, s₁, t₁, before, hs₁, ht₁, fun _ => rfl, fun _ => rfl⟩
    | ok a =>
      obtain ⟨r, s₂, t₂, after, hs₂, ht₂, recorded', done'⟩ := second a s₁ t₁ hs₁ ht₁
      refine ⟨r, s₂, t₂, before ++ after, hs₂, ht₂, ?_, ?_⟩
      · intro earlier
        rw [executed_append, ← List.append_assoc]
        exact recorded' _
      · intro earlier
        rw [← List.append_assoc]
        exact done' _

theorem catches_foretelling (working : σ → Prop) : (foretelling working).Catches := by
  intro α x y first s t hs ht
  obtain ⟨r, s', t', history, hs', ht', recorded, done⟩ := first s t hs ht
  refine ⟨.ok r, s', t', history, hs', ht', ?_, ?_⟩
  · intro earlier
    rw [DbM.result_attempt, recorded]
  · intro earlier
    rw [DbM.result_attempt, done]

/-- What always comes to one result does so while it is observed. -/
theorem DbM.Always.observed {x : DbM σ α} {r : Except Error α} (h : x.Always working r)
    (event : Bool → Event) {t : σ} (ht : working t) :
    ∃ t', working t' ∧ ∀ earlier, (x.observed event).result (t, earlier) =
      (r, (t', earlier ++ [event r.isOk])) := by
  obtain ⟨t', result, ht'⟩ := h t ht
  refine ⟨t', ht', ?_⟩
  intro earlier
  show ((x.result t).1, ((x.result t).2, earlier ++ [event (x.result t).1.isOk])) = _
  rw [result]

/-- A pretended session records what the session itself executes. -/
theorem Session.Steady.foretells {session : Session σ} (h : session.Steady working) :
    session.pretend.Alike (foretelling working) session.observed where
  dialect := rfl
  database := rfl
  select sql := by
    intro s t hs ht
    obtain ⟨r, always⟩ := h.select sql
    obtain ⟨s', asked, hs'⟩ := always s hs
    obtain ⟨t', ht', observed⟩ := always.observed (.select sql) ht
    refine ⟨r, s', t', [.select sql r.isOk], hs', ht', ?_, observed⟩
    intro recorded
    rw [Session.result_select, asked, executed, List.filterMap_cons_none rfl, List.filterMap_nil,
      List.append_nil]
  execute sql := by
    intro s t hs ht
    obtain ⟨t', ht', observed⟩ := (h.execute sql).observed (.execute sql) ht
    exact ⟨.ok (), s, t', [.execute sql true], hs, ht', fun recorded => rfl, observed⟩

/-! ## Units -/

/-- What was told, and what it came to in earnest: both fail alike, or it came as it was told. -/
inductive AsTold (as : α → β → List Event → Prop) :
    Except Error α → Except Error β → List Event → Prop
  | failed {e : Error} {history : List Event} : AsTold as (.error e) (.error e) history
  | done {told : α} {done : β} {history : List Event} (h : as told done history) :
    AsTold as (.ok told) (.ok done) history

/-- What is told of an entry, with the statements that are to be executed for it. -/
def Entry.told (d : Direction) (e : Entry) (statements : List String) : UnitOutcome :=
  { name := e.name, state := d.done, statements }

namespace Migrator

/-- The history of units that are done, and what was told of them: for each, the statements that
it has executed. -/
inductive Carried (m : Migrator σ) (d : Direction) :
    List Entry → List UnitOutcome → List Event → Prop
  | nil : Carried m d [] [] []
  | cons {e : Entry} {entries : List Entry} {told : List UnitOutcome} {first others : List Event}
      (unit : m.UnitHistory d e none first) (carried : Carried m d entries told others) :
      Carried m d (e :: entries) (e.told d (executed first) :: told) (first ++ others)

variable {m : Migrator σ} {d : Direction} {s t : σ}

theorem executed_bracket (migration : Migration) {e : Event} (h : e.executed? = none) :
    executed (migration.bracket e) = [] := by
  unfold Migration.bracket executed
  split
  · rw [List.filterMap_cons_none h, List.filterMap_nil]
  · rfl

/-- Of the history of a unit, its steps alone are executed. -/
theorem executed_unit (migration : Migration) (steps : List Event) (d : Direction) (e : Entry) :
    executed (migration.bracket (.begin true) ++ (steps ++ [d.recorded e true]) ++
      migration.bracket (.commit true)) = executed steps := by
  have kept : executed [d.recorded e true] = [] := by cases d <;> rfl
  rw [executed_append, executed_append, executed_append, executed_bracket migration rfl,
    executed_bracket migration rfl, kept, List.nil_append, List.append_nil, List.append_nil]

/-- What does not fail leaves its event where a migration has a transaction. -/
theorem exists_bracketed {x : DbM σ Unit} (succeeds : x.Always working (.ok ()))
    (event : Bool → Event) (migration : Migration) (ht : working t) :
    ∃ t', working t' ∧ ∀ earlier,
      (if migration.transactional then x.observed event else pure ()).result (t, earlier) =
        (.ok (), (t', earlier ++ migration.bracket (event true))) := by
  unfold Migration.bracket
  by_cases transactional : migration.transactional = true
  · simp only [transactional, if_true]
    exact succeeds.observed event ht
  · simp only [transactional, Bool.false_eq_true, if_false, List.append_nil]
    exact ⟨t, ht, fun _ => rfl⟩

theorem exists_opened (steady : m.session.Steady working) (migration : Migration)
    (ht : working t) : ∃ t', working t' ∧ ∀ earlier,
      (m.observed.opening migration).result (t, earlier) =
        (.ok (), (t', earlier ++ migration.bracket (.begin true))) :=
  exists_bracketed steady.begin .begin migration ht

theorem exists_closed (steady : m.session.Steady working) (migration : Migration) (name : String)
    (ht : working t) : ∃ t', working t' ∧ ∀ earlier,
      (m.observed.finish migration.transactional name (.ok ())).result (t, earlier) =
        (.ok (), (t', earlier ++ migration.bracket (.commit true))) :=
  exists_bracketed steady.commit .commit migration ht

theorem exists_undone (m : Migrator σ) (transactional : Bool) (name : String) (cause : Error)
    (t : σ) : ∃ t' rest, ∀ earlier,
      (m.observed.finish transactional name (.error cause)).result (t, earlier) =
        (.error (.step name cause), (t', earlier ++ rest)) := by
  cases transactional with
  | true => exact ⟨_, [.rollback (m.session.rollback.result t).1.isOk], fun _ => rfl⟩
  | false => exact ⟨t, [], fun earlier => by rw [List.append_nil]; rfl⟩

theorem exists_recorded (records : m.ledger.Records working) (d : Direction) (e : Entry)
    (ht : working t) : ∃ t', working t' ∧ ∀ earlier,
      (m.observed.record d e).result (t, earlier) =
        (.ok (), (t', earlier ++ [d.recorded e true])) := by
  cases d with
  | up => exact (records.log e.name e.batch).observed (.log e) ht
  | down => exact (records.delete e.name).observed (.delete e.name) ht

/-- What is recorded for a migration that was found, and what it does in earnest. -/
theorem exists_perform_foretold (steady : m.session.Steady working)
    (records : m.ledger.Records working) {e : Entry} {migration : Migration}
    (found : m.source.resolve e.name = .ok migration) (d : Direction) (hs : working s)
    (ht : working t) :
    ∃ r s' t' history, (m.pretended e.name migration d).result s = (r, s') ∧
      (∀ earlier, (m.observed.perform migration d e).result (t, earlier) =
        (r.map fun _ => (), (t', earlier ++ history))) ∧
      ∀ statements, r = .ok statements → m.UnitHistory d e none history ∧
        statements = executed history ∧ working s' ∧ working t' := by
  obtain ⟨t₁, ht₁, opened⟩ := exists_opened steady migration ht
  have alike : m.session.pretend.Alike (foretelling working) m.observed.session :=
    steady.foretells
  obtain ⟨r, s', t₂, steps, hs', ht₂, recorded, done⟩ :=
    alike.run (catches_foretelling working) migration d s t₁ hs ht₁
  simp only [result_perform, opened]
  cases r with
  | error cause =>
    obtain ⟨t₃, rest, undone⟩ := m.exists_undone migration.transactional e.name cause t₂
    have worked : ∀ earlier, (m.observed.work migration d e).result (t₁, earlier) =
        (.error cause, (t₂, earlier ++ steps)) := by
      intro earlier
      rw [work, DbM.result_bind, done]
    refine ⟨_, s', t₃, migration.bracket (.begin true) ++ steps ++ rest,
      result_pretended (recorded []), ?_, ?_⟩
    · intro earlier
      simp only [worked, undone, List.append_assoc]
      rfl
    · rintro statements ⟨⟩
  | ok _ =>
    obtain ⟨t₃, ht₃, logged⟩ := exists_recorded records d e ht₂
    obtain ⟨t₄, ht₄, closed⟩ := exists_closed steady migration e.name ht₃
    have worked : ∀ earlier, (m.observed.work migration d e).result (t₁, earlier) =
        (.ok (), (t₃, earlier ++ steps ++ [d.recorded e true])) := by
      intro earlier
      rw [work, DbM.result_bind, done]
      exact logged _
    have stepped : m.Stepped migration d (.ok ()) steps := ⟨t₁, t₂, done []⟩
    refine ⟨_, s', t₄, migration.bracket (.begin true) ++ (steps ++ [d.recorded e true]) ++
      migration.bracket (.commit true), result_pretended (recorded []), ?_, ?_⟩
    · intro earlier
      simp only [worked, closed, List.append_assoc]
      rfl
    · rintro statements ⟨⟩
      exact ⟨.done found (.done stepped), (executed_unit migration steps d e).symm, hs', ht₄⟩

/-- A pretended unit records what the unit itself executes. -/
theorem exists_unit_foretold (steady : m.session.Steady working)
    (records : m.ledger.Records working) (d : Direction) (e : Entry) (hs : working s)
    (ht : working t) :
    ∃ r r' s' t' history, (m.unit true d e).result s = (r, s') ∧
      (∀ earlier, (m.observed.unit false d e).result (t, earlier) =
        (r', (t', earlier ++ history))) ∧
      AsTold (fun told done history => m.UnitHistory d e none history ∧
        told = e.told d (executed history) ∧ done = told.withoutStatements ∧
        working s' ∧ working t') r r' history := by
  have source : m.observed.source = m.source := rfl
  simp only [unit, source]
  cases found : m.source.resolve e.name with
  | error cause => exact ⟨_, _, s, t, [], rfl, fun _ => by rw [List.append_nil]; rfl, .failed⟩
  | ok migration =>
    obtain ⟨r, s', t', history, told, done, same⟩ :=
      exists_perform_foretold steady records found d hs ht
    simp only [if_true, if_false, Bool.false_eq_true, DbM.result_bind, told, done]
    cases r with
    | error cause => exact ⟨_, _, s', t', history, rfl, fun _ => rfl, .failed⟩
    | ok statements =>
      obtain ⟨unit, executed, hs', ht'⟩ := same statements rfl
      exact ⟨_, _, s', t', history, rfl, fun _ => rfl,
        .done ⟨unit, executed ▸ rfl, rfl, hs', ht'⟩⟩

/-- Pretended units record what the units themselves execute. -/
theorem exists_units_foretold (steady : m.session.Steady working)
    (records : m.ledger.Records working) (d : Direction) (entries : List Entry) (hs : working s)
    (ht : working t) :
    ∃ r r' s' t' history, (m.units true d entries).result s = (r, s') ∧
      (∀ earlier, (m.observed.units false d entries).result (t, earlier) =
        (r', (t', earlier ++ history))) ∧
      AsTold (fun told done history => m.Carried d entries told history ∧
        done = told.map UnitOutcome.withoutStatements) r r' history := by
  induction entries generalizing s t with
  | nil =>
    exact ⟨_, _, s, t, [], rfl, fun _ => by rw [List.append_nil]; rfl, .done ⟨.nil, rfl⟩⟩
  | cons e entries ih =>
    obtain ⟨r, r', s₁, t₁, first, told, done, same⟩ :=
      exists_unit_foretold steady records d e hs ht
    unfold units
    simp only [DbM.result_bind, told, done]
    cases same with
    | failed => exact ⟨_, _, s₁, t₁, first, rfl, fun _ => rfl, .failed⟩
    | done same =>
      obtain ⟨unit, rfl, rfl, hs₁, ht₁⟩ := same
      obtain ⟨r, r', s₂, t₂, others, told', done', same'⟩ := ih hs₁ ht₁
      simp only [told', done', List.append_assoc]
      cases same' with
      | failed => exact ⟨_, _, s₂, t₂, _, rfl, fun _ => rfl, .failed⟩
      | done same' =>
        obtain ⟨carried, rfl⟩ := same'
        exact ⟨_, _, s₂, t₂, _, rfl, fun _ => rfl, .done ⟨.cons unit carried, rfl⟩⟩

/-! ## Plans -/

variable {states : σ → Prop}

theorem settled_foreseen (installed : m.ledger.installed.Settled states)
    (ran : m.ledger.ran.Settled states) (lastBatch : m.ledger.lastBatch.Settled states) :
    m.foreseen.Settled states := by
  have listed : m.ran.Settled states := by
    refine installed.bind fun there => ?_
    cases there with
    | true => exact ran
    | false => exact .pure _
  refine (listed.bind fun _ => (DbM.Settled.ofExcept _).bind fun _ => .pure _).bind
    fun pending => ?_
  unfold batched
  by_cases nothing : pending.isEmpty = true
  · rw [if_pos nothing]
    exact .pure _
  · rw [if_neg nothing]
    refine installed.bind fun there => ?_
    cases there with
    | true => exact (lastBatch.bind fun _ => .ofExcept _).bind fun _ => .pure _
    | false => exact (DbM.Settled.pure _).bind fun _ => .pure _

/-- Where nothing is recorded, everything is foreseen as the first batch. -/
theorem always_foreseen {there : Bool} (installed : m.ledger.installed.Always states (.ok there))
    (ran : (if there then m.ledger.ran else pure [] : DbM σ (List String)).Always states (.ok []))
    (first : (if there then m.ledger.nextBatch else pure 1 : DbM σ Int64).Always states (.ok 1)) :
    m.foreseen.Always states
      (m.source.discover.map fun names => names.map fun name => { name, batch := 1 }) := by
  have nothing : m.ran.Always states (.ok []) := installed.bind ran
  have everything : m.pending.Always states m.source.discover := by
    refine nothing.bind ?_
    cases m.source.discover with
    | error e => exact (DbM.Always.ofExcept (.error e)).bind_error
    | ok names =>
      refine (DbM.Always.ofExcept (.ok names)).bind ?_
      have all : names.filter (fun name => !([] : List String).contains name) = names := by simp
      rw [all]
      exact .pure names
  unfold foreseen
  cases discovered : m.source.discover with
  | error e =>
    rw [discovered] at everything
    exact everything.bind_error
  | ok names =>
    rw [discovered] at everything
    refine everything.bind ?_
    unfold batched
    by_cases none : names.isEmpty = true
    · rw [if_pos none, List.isEmpty_iff.1 none]
      exact .pure _
    · rw [if_neg none]
      refine installed.bind ?_
      cases there with
      | true => exact first.bind (.pure _)
      | false => exact first.bind (.pure _)

/-- A pretended run foresees what a run plans. -/
theorem exists_foreseen (steady : m.ledger.Steady working states) (hs : states s) :
    ∃ r s' s'', m.foreseen.result s = (r, s') ∧ m.plan.result s = (r, s'') ∧ working s' ∧
      working s'' := by
  cases steady with
  | same within installed create ran entries last lastBatch =>
    obtain ⟨r, foreseen⟩ := settled_foreseen installed ran lastBatch
    obtain ⟨e | there, asked⟩ := installed
    · have failed : m.foreseen.Always states (.error e) := asked.bind_error.bind_error.bind_error
      obtain ⟨s', foreseen, hs'⟩ := failed s hs
      obtain ⟨s'', planned, hs''⟩ := (asked.bind_error.bind_error : m.plan.Always states _) s hs
      exact ⟨_, s', s'', foreseen, planned, within s' hs', within s'' hs''⟩
    · have opened : m.install.Always states (.ok !there) := by
        refine asked.bind ?_
        cases there with
        | true => exact .pure _
        | false => exact create.bind (.pure _)
      obtain ⟨s', foreseen', hs'⟩ := foreseen s hs
      obtain ⟨s'', planned, hs''⟩ := (opened.bind foreseen : m.plan.Always states r) s hs
      exact ⟨r, s', s'', foreseen', planned, within s' hs', within s'' hs''⟩
  | new within opened_within absent create installed ran entries lastBatch =>
    have before := always_foreseen absent (.pure []) (.pure 1)
    have after := always_foreseen installed ran (lastBatch.bind (.ofExcept (batchAfter 0)))
    obtain ⟨s', foreseen, hs'⟩ := before s hs
    obtain ⟨s₁, asked, hs₁⟩ := absent s hs
    obtain ⟨s₂, created, hs₂⟩ := create s₁ hs₁
    obtain ⟨s'', planned, hs''⟩ := after s₂ hs₂
    refine ⟨_, s', s'', foreseen, ?_, within s' hs', opened_within s'' hs''⟩
    have done : m.install.result s = (.ok true, s₂) := by
      rw [install, DbM.result_bind, asked]
      simp only [Bool.false_eq_true, if_false]
      rw [DbM.result_bind, created]
      rfl
    rw [plan_eq, DbM.result_bind, done]
    exact planned

theorem settled_rollbackPlan (steady : m.ledger.Steady working states) :
    m.rollbackPlan.Settled states := by
  cases steady with
  | same within installed create ran entries last lastBatch =>
    refine installed.bind fun there => ?_
    cases there with
    | true => exact last
    | false => exact .pure _
  | new within opened_within absent => exact ⟨.ok [], absent.bind (.pure [])⟩

/-! ## Runs -/

/-- What a pretended run tells is what comes of the run itself, to the batch, the units and the
statements of each. -/
def Foretold (m : Migrator σ) (d : Direction) (told done : Outcome) (history : List Event) : Prop :=
  (∃ entries, m.Carried d entries told.units history) ∧
    done = { told with pretend := false, units := told.units.map UnitOutcome.withoutStatements }

theorem exists_deliver_foretold (steady : m.session.Steady working)
    (records : m.ledger.Records working) (d : Direction) (entries : List Entry) (hs : working s)
    (ht : working t) :
    ∃ r r' s' t' history, (m.deliver true d entries).result s = (r, s') ∧
      (∀ earlier, (m.observed.deliver false d entries).result (t, earlier) =
        (r', (t', earlier ++ history))) ∧
      AsTold (m.Foretold d) r r' history := by
  obtain ⟨r, r', s', t', history, told, done, same⟩ :=
    exists_units_foretold steady records d entries hs ht
  simp only [deliver, DbM.result_bind, told, done]
  cases same with
  | failed => exact ⟨_, _, s', t', history, rfl, fun _ => rfl, .failed⟩
  | done same =>
    obtain ⟨carried, rfl⟩ := same
    exact ⟨_, _, s', t', history, rfl, fun _ => rfl, .done ⟨⟨entries, carried⟩, rfl⟩⟩

/-- A pretended run foretells the run, behind at most the creation of the ledger. -/
theorem exists_run_foretold (session : m.session.Steady working)
    (records : m.ledger.Records working) (ledger : m.ledger.Steady working states)
    (hs : states s) :
    ∃ r r' s' s'' prelude history, (m.run true).result s = (r, s') ∧
      (∀ earlier, (m.observed.run false).result (s, earlier) =
        (r', (s'', earlier ++ (prelude ++ history)))) ∧
      (∀ e ∈ prelude, e.IsCreation) ∧ AsTold (m.Foretold .up) r r' history := by
  obtain ⟨r, s₁, t₁, foreseen, planned, hs₁, ht₁⟩ := exists_foreseen ledger hs
  have planning : Observes Event.IsCreation m.plan m.observed.plan :=
    m.observes_plan fun done => ⟨done, rfl⟩
  obtain ⟨prelude, creations, observed⟩ := planning s
  rw [planned] at observed
  rw [run_pretended_eq, run_eq]
  simp only [DbM.result_bind, foreseen, observed]
  cases r with
  | error e =>
    refine ⟨_, _, s₁, t₁, prelude, [], rfl, ?_, creations, .failed⟩
    intro earlier
    rw [List.append_nil]
  | ok entries =>
    obtain ⟨r, r', s', s'', history, told, done, same⟩ :=
      exists_deliver_foretold session records .up entries hs₁ ht₁
    refine ⟨r, r', s', s'', prelude, history, told, ?_, creations, same⟩
    intro earlier
    rw [← List.append_assoc]
    exact done (earlier ++ prelude)

/-- A pretended rollback foretells the rollback. -/
theorem exists_rollback_foretold (session : m.session.Steady working)
    (records : m.ledger.Records working) (ledger : m.ledger.Steady working states)
    (hs : states s) :
    ∃ r r' s' s'' history, (m.rollback true).result s = (r, s') ∧
      (∀ earlier, (m.observed.rollback false).result (s, earlier) =
        (r', (s'', earlier ++ history))) ∧
      AsTold (m.Foretold .down) r r' history := by
  obtain ⟨r, always⟩ := settled_rollbackPlan ledger
  obtain ⟨s₁, planned, hs₁⟩ := always s hs
  have hw := ledger.within hs₁
  rw [rollback_eq_deliver, rollback_eq_deliver]
  simp only [DbM.result_bind, planned, m.observes_rollbackPlan.result_silent planned]
  cases r with
  | error e =>
    refine ⟨_, _, s₁, s₁, [], rfl, ?_, .failed⟩
    intro earlier
    rw [List.append_nil]
  | ok entries => exact exists_deliver_foretold session records .down entries hw hw

/-- Pretended runs, rollbacks and resets ask queries only, of the session and of the ledger,
whatever comes of them. Where nothing fails and no answer depends on what was executed, a pretended
run or rollback tells what the run or the rollback does. -/
theorem pretended_faithful (m : Migrator σ) :
    (∀ w, Watches Event.IsQuery m w →
      Observes Event.IsQuery (m.run true) (w.run true) ∧
      Observes Event.IsQuery (m.rollback true) (w.rollback true) ∧
      Observes Event.IsQuery (m.reset true) (w.reset true)) ∧
    ∀ working states, m.session.Steady working → m.ledger.Records working →
      m.ledger.Steady working states → ∀ s, states s →
      (∃ r r' s' s'' prelude history, (m.run true).result s = (r, s') ∧
        (m.run false).result s = (r', s'') ∧
        (∀ earlier, (m.observed.run false).result (s, earlier) =
          (r', (s'', earlier ++ (prelude ++ history)))) ∧
        (∀ e ∈ prelude, e.IsCreation) ∧ AsTold (m.Foretold .up) r r' history) ∧
      ∃ r r' s' s'' history, (m.rollback true).result s = (r, s') ∧
        (m.rollback false).result s = (r', s'') ∧
        (∀ earlier, (m.observed.rollback false).result (s, earlier) =
          (r', (s'', earlier ++ history))) ∧
        AsTold (m.Foretold .down) r r' history := by
  constructor
  · intro w watches
    exact ⟨watches.run_pretended, watches.rollback_pretended, watches.reset_pretended⟩
  · intro working states session records ledger s hs
    constructor
    · have faithful : Observes (fun _ => True) (m.run false) (m.observed.run false) :=
        m.observes_run fun _ => trivial
      obtain ⟨r, r', s', s'', prelude, history, told, done, creations, same⟩ :=
        exists_run_foretold session records ledger hs
      exact ⟨r, r', s', s'', prelude, history, told, faithful.result_eq (done []), done,
        creations, same⟩
    · have faithful : Observes (fun _ => True) (m.rollback false) (m.observed.rollback false) :=
        m.observes_rollback fun _ => trivial
      obtain ⟨r, r', s', s'', history, told, done, same⟩ :=
        exists_rollback_foretold session records ledger hs
      exact ⟨r, r', s', s'', history, told, faithful.result_eq (done []), done, same⟩

/-- Where users, posts and tags are new, a pretended run tells the three statements that make and
fill them, and a run executes these in the first batch. -/
theorem pretended_faithful_tagging :
    Observes Event.IsQuery (tagging.run true) (tagging.observed.run true) ∧
    ∃ told done history, tagging.Foretold .up told done history ∧
      ((tagging.run true).result ({}, {})).1 = .ok told ∧ told.batch = some 1 ∧
      told.statements = ["make posts", "fill posts", "make tags"] ∧
      executed history = ["make posts", "fill posts", "make tags"] := by
  obtain ⟨queries, foretell⟩ := pretended_faithful tagging
  have session : tagging.session.Steady fun p => p.1.answers = [] ∧ p.1.failing = [] :=
    (Session.steady_scripted .sqlite "main" false []).onFirst
  have records : tagging.ledger.Records fun p => p.1.answers = [] ∧ p.1.failing = [] :=
    Ledger.records_memory fun s : Script => s.answers = [] ∧ s.failing = []
  have ledger : tagging.ledger.Steady (fun p => p.1.answers = [] ∧ p.1.failing = [])
      fun p => (p.1.answers = [] ∧ p.1.failing = []) ∧ p.2 = {} :=
    Ledger.steady_memory_new fun s : Script => s.answers = [] ∧ s.failing = []
  obtain ⟨⟨r, r', s', s'', prelude, history, told, -, done, creations, same⟩, -⟩ :=
    foretell _ _ session records ledger ({}, {}) ⟨⟨rfl, rfl⟩, rfl⟩
  refine ⟨(queries tagging.observed (.observed tagging)).1, ?_⟩
  have known : ((tagging.run true).result ({}, {})).1.toOption.map
      (fun o => (o.batch, o.statements)) =
        some (some 1, ["make posts", "fill posts", "make tags"]) := by decide +kernel
  have written : executed ((tagging.observed.run false).result (({}, {}), [])).2.2 =
      ["make posts", "fill posts", "make tags"] := by decide +kernel
  rw [told] at known ⊢
  rw [done []] at written
  cases same with
  | failed => cases known
  | done same =>
    simp only [Except.toOption, Option.map_some, Option.some.injEq, Prod.mk.injEq] at known
    simp only [List.nil_append, executed_append, executed_creations creations] at written
    exact ⟨_, _, history, same, rfl, known.1, known.2, written⟩

end Migrator

end SchemaShift
