import SchemaShift.Proofs.Migrator.Faithful
import SchemaShift.Proofs.Migrator.Pretended

/-!
# Transactions are bracketed

A unit that is transactional begins its transaction, does its work and then commits or rolls back;
what a unit does that is not transactional stands between no markers. As the first unit that fails
ends its call, no transaction is begun while another one is open, and nothing follows when one is
rolled back. A transaction is left open only when its own end fails.

The log of a call is what its session was asked to do, whether the ledger stands beside the session
or in its database.

Results:
* `Logs`: a migrator that writes down what it asks, and whose ledger begins and ends nothing.
* `Logs.database`: such a ledger may stand in the database of the session.
* `UnitLog`, `CallLog`: what a unit leaves in the log of its call, and what calls leave.
* `CallLog.bracketed`: the log of a call is bracketed.
* `CallLog.append`: the logs of two calls are the log of one, if the first call succeeds.
* `transactions_bracketed`: runs, rollbacks and resets leave such logs.
-/

namespace SchemaShift

variable {σ α β : Type}

/-! ## Markers -/

/-- An event of beginning a transaction or of ending one, whether it was done or not. -/
def Event.IsMarker : Event → Prop
  | begin _ | commit _ | rollback _ => True
  | select _ _ | execute _ _ | create _ | log _ _ | delete _ _ => False

/-- An event that has nothing to do with transactions. -/
def Event.IsPlain (e : Event) : Prop := ¬ e.IsMarker

/-- Whether a transaction is open after an event. -/
def Event.opens (before : Bool) : Event → Bool
  | begin true => true
  | commit true | rollback true => false
  | _ => before

/-- Whether a transaction is open at the end of a log. -/
def isOpen (log : List Event) : Bool := log.foldl Event.opens false

/-- The log of a call keeps to its transactions: none is begun while another one is open, nothing
follows when one is rolled back, and none is left open unless the call failed in its last event,
which was to end it. -/
structure Bracketed (ok : Bool) (log : List Event) : Prop where
  begins : ∀ before done after, log = before ++ .begin done :: after → isOpen before = false
  rollsBack : ∀ before done after, log = before ++ .rollback done :: after → after = []
  closes : isOpen log = true →
    ok = false ∧ ∃ before, log = before ++ [.commit false] ∨ log = before ++ [.rollback false]

/-- A log that can stand in front of another one: none of its transactions is rolled back, and none
is left open. -/
structure Settled (log : List Event) : Prop where
  begins : ∀ before done after, log = before ++ .begin done :: after → isOpen before = false
  commits : ∀ done, .rollback done ∉ log
  closed : isOpen log = false

theorem Event.IsStatement.isPlain {e : Event} (h : e.IsStatement) : e.IsPlain := by
  cases e with
  | select | execute => exact id
  | begin | commit | rollback | create | log | delete => exact h.elim

theorem Event.IsQuery.isPlain {e : Event} (h : e.IsQuery) : e.IsPlain := by
  obtain ⟨sql, done, rfl⟩ := h
  exact id

theorem Event.opens_of_isPlain {e : Event} (h : e.IsPlain) (before : Bool) :
    e.opens before = before := by
  cases e with
  | begin | commit | rollback => exact (h trivial).elim
  | select | execute | create | log | delete => rfl

theorem foldl_opens_of_isPlain {log : List Event} (h : ∀ e ∈ log, e.IsPlain) (before : Bool) :
    log.foldl Event.opens before = before := by
  induction log generalizing before with
  | nil => rfl
  | cons e rest ih =>
    rw [List.foldl_cons, Event.opens_of_isPlain (h e List.mem_cons_self)]
    exact ih (fun e he => h e (List.mem_cons_of_mem _ he)) before

theorem Settled.isOpen_append {log : List Event} (h : Settled log) (rest : List Event) :
    isOpen (log ++ rest) = isOpen rest := by
  rw [isOpen, List.foldl_append, ← isOpen, h.closed, isOpen]

/-- Where an event stands in two logs put together. -/
theorem append_eq_append_cons_cases {log rest before after : List Event} {e : Event}
    (h : log ++ rest = before ++ e :: after) :
    (∃ between, log = before ++ e :: between ∧ after = between ++ rest) ∨
      ∃ between, before = log ++ between ∧ rest = between ++ e :: after := by
  rcases List.append_eq_append_iff.1 h with ⟨between, first, second⟩ | ⟨between, first, second⟩
  · exact .inr ⟨between, first, second⟩
  · cases between with
    | nil => exact .inr ⟨[], by rw [first, List.append_nil, List.append_nil], second.symm⟩
    | cons e' between =>
      obtain ⟨rfl, rfl⟩ := List.cons.inj second
      exact .inl ⟨between, first, rfl⟩

/-- Behind a log that is settled, a bracketed one stays bracketed. -/
theorem Settled.append_bracketed {first rest : List Event} {ok : Bool} (h : Settled first)
    (h' : Bracketed ok rest) : Bracketed ok (first ++ rest) where
  begins before done after split := by
    rcases append_eq_append_cons_cases split with ⟨between, inside, -⟩ | ⟨between, rfl, inside⟩
    · exact h.begins before done between inside
    · rw [h.isOpen_append]
      exact h'.begins between done after inside
  rollsBack before done after split := by
    rcases append_eq_append_cons_cases split with ⟨between, inside, -⟩ | ⟨between, rfl, inside⟩
    · exact (h.commits done (inside ▸ List.mem_append_right before List.mem_cons_self)).elim
    · exact h'.rollsBack between done after inside
  closes opened := by
    rw [h.isOpen_append] at opened
    obtain ⟨failed, before, last⟩ := h'.closes opened
    refine ⟨failed, first ++ before, ?_⟩
    rw [List.append_assoc, List.append_assoc, List.append_right_inj, List.append_right_inj]
    exact last

/-- Events that have nothing to do with transactions are settled. -/
theorem settled_of_isPlain {log : List Event} (h : ∀ e ∈ log, e.IsPlain) : Settled log where
  begins before done _ split :=
    (h (.begin done) (split ▸ List.mem_append_right before List.mem_cons_self) trivial).elim
  commits _ mem := h _ mem trivial
  closed := foldl_opens_of_isPlain h false

/-- Nothing but the first event of a transaction begins one. -/
theorem begin_of_transaction {work before after : List Event} {last : Event} {done : Bool}
    (plain : ∀ e ∈ work, e.IsPlain) (ends : ∀ done, last ≠ .begin done)
    (split : .begin true :: work ++ [last] = before ++ .begin done :: after) : before = [] := by
  cases before with
  | nil => rfl
  | cons e before =>
    have split : work ++ [last] = before ++ .begin done :: after := (List.cons.inj split).2
    have mem : Event.begin done ∈ work ++ [last] :=
      split ▸ List.mem_append_right before List.mem_cons_self
    rcases List.mem_append.1 mem with inside | atEnd
    · exact (plain _ inside trivial).elim
    · exact (ends done (List.mem_singleton.1 atEnd).symm).elim

/-- A transaction that is committed is settled. -/
theorem settled_committed {work : List Event} (plain : ∀ e ∈ work, e.IsPlain) :
    Settled (.begin true :: work ++ [.commit true]) where
  begins before done after split := by
    rw [begin_of_transaction plain (by simp) split]
    rfl
  commits done mem := by
    rcases List.mem_append.1 mem with inside | atEnd
    · rcases List.mem_cons.1 inside with first | inside
      · cases first
      · exact plain _ inside trivial
    · cases List.mem_singleton.1 atEnd
  closed := by rw [isOpen, List.foldl_append]; rfl

/-- A transaction whose end is that of a call that fails is bracketed. -/
theorem bracketed_ended {work : List Event} (plain : ∀ e ∈ work, e.IsPlain) {last : Event}
    (ends : last = .commit false ∨ ∃ done, last = .rollback done) :
    Bracketed false (.begin true :: work ++ [last]) where
  begins before done after split := by
    have other : ∀ done, last ≠ .begin done := by
      rcases ends with rfl | ⟨undone, rfl⟩ <;> simp
    rw [begin_of_transaction plain other split]
    rfl
  rollsBack before done after split := by
    rcases append_eq_append_cons_cases split with ⟨between, inside, -⟩ | ⟨between, -, atEnd⟩
    · have mem : Event.rollback done ∈ Event.begin true :: work :=
        inside ▸ List.mem_append_right before List.mem_cons_self
      rcases List.mem_cons.1 mem with first | inside
      · cases first
      · exact (plain _ inside trivial).elim
    · cases between with
      | nil => exact (List.cons.inj atEnd).2.symm
      | cons e between => simp at atEnd
  closes opened := by
    refine ⟨rfl, .begin true :: work, ?_⟩
    rcases ends with rfl | ⟨done, rfl⟩
    · exact .inl rfl
    · cases done with
      | false => exact .inr rfl
      | true =>
        rw [isOpen, List.foldl_append] at opened
        cases opened

theorem bracketed_nil (ok : Bool) : Bracketed ok [] where
  begins before done after split := by simp at split
  rollsBack before done after split := by simp at split
  closes := nofun

/-- A transaction that cannot be begun is bracketed. -/
theorem bracketed_unbegun : Bracketed false [.begin false] where
  begins before done after split := by
    cases before with
    | nil => rfl
    | cons e before => simp at split
  rollsBack before done after split := by
    cases before with
    | nil => simp at split
    | cons e before => simp at split
  closes := nofun

/-! ## Units and calls -/

/-- A migrator that does what another one does, and writes down what is asked of its session. Its
ledger may write as well, but has nothing to do with transactions. -/
structure Logs (m : Migrator σ) (w : Migrator (σ × List Event)) : Prop
    extends Watches Event.IsPlain m w where
  create : Observes Event.IsPlain m.ledger.create w.ledger.create
  log : ∀ name batch, Observes Event.IsPlain (m.ledger.log name batch) (w.ledger.log name batch)
  delete : ∀ name, Observes Event.IsPlain (m.ledger.delete name) (w.ledger.delete name)

namespace Logs

theorem observed (m : Migrator σ) : Logs m m.observed where
  toWatches := .observed m
  create := .observed m.ledger.create fun _ => id
  log name batch := .observed (m.ledger.log name batch) fun _ => id
  delete name := .observed (m.ledger.delete name) fun _ => id

/-- A ledger in the database of the session has nothing to do with transactions. -/
theorem database (session : Session σ) (table : String) (source : Source) :
    Logs { session, ledger := .database session table, source }
      { session := session.observed, ledger := .database session.observed table, source } :=
  have alike : session.Alike (observing Event.IsPlain) session.observed :=
    session.alike_observed fun _ h => h.isPlain
  { toWatches := (Watches.database session table source).mono fun _ h => h.isPlain
    create := .bind (.ofExcept _) fun _ => alike.build (Ledger.blueprint table)
    log := fun name batch => alike.execute (Ledger.insertion session.dialect table name batch)
    delete := fun name => alike.execute (Ledger.deletion session.dialect table name) }

end Logs

namespace Migrator

/-- What a unit does inside its transaction, if it has one: it carries out its steps and writes to
the ledger. None of it is a marker. -/
def Works (w : Migrator (σ × List Event)) (migration : Migration) (d : Direction) (entry : Entry)
    (ok : Bool) (work : List Event) : Prop :=
  (∀ e ∈ work, e.IsPlain) ∧
    ∃ s s' r, (w.work migration d entry).result (s, []) = (r, (s', work)) ∧ r.isOk = ok

/-- What a unit leaves in the log of its call, and whether it succeeds. -/
inductive UnitLog (w : Migrator (σ × List Event)) (d : Direction) (entry : Entry) :
    Bool → List Event → Prop
  | unknown {e : Error} (unknown : w.source.resolve entry.name = .error e) :
    UnitLog w d entry false []
  | plain {migration : Migration} {ok : Bool} {work : List Event}
      (found : w.source.resolve entry.name = .ok migration)
      (plain : migration.transactional = false) (worked : w.Works migration d entry ok work) :
    UnitLog w d entry ok work
  | unbegun {migration : Migration} (found : w.source.resolve entry.name = .ok migration)
      (transactional : migration.transactional = true) : UnitLog w d entry false [.begin false]
  | committed {migration : Migration} {work : List Event}
      (found : w.source.resolve entry.name = .ok migration)
      (transactional : migration.transactional = true)
      (worked : w.Works migration d entry true work) (done : Bool) :
    UnitLog w d entry done (.begin true :: work ++ [.commit done])
  | rolledBack {migration : Migration} {work : List Event}
      (found : w.source.resolve entry.name = .ok migration)
      (transactional : migration.transactional = true)
      (worked : w.Works migration d entry false work) (done : Bool) :
    UnitLog w d entry false (.begin true :: work ++ [.rollback done])

/-- What is written down when the ledger is asked for what it says, or to be created. -/
inductive Consulted (w : Migrator (σ × List Event)) : List Event → Prop
  | installed (s : σ) : Consulted w (w.ledger.installed.result (s, [])).2.2
  | create (s : σ) : Consulted w (w.ledger.create.result (s, [])).2.2
  | ran (s : σ) : Consulted w (w.ledger.ran.result (s, [])).2.2
  | entries (s : σ) : Consulted w (w.ledger.entries.result (s, [])).2.2
  | last (s : σ) : Consulted w (w.ledger.last.result (s, [])).2.2
  | lastBatch (s : σ) : Consulted w (w.ledger.lastBatch.result (s, [])).2.2

/-- The log of a call, and whether the call may have succeeded: what the ledger is asked, and units
one after the other, up to the first that fails. -/
inductive CallLog (w : Migrator (σ × List Event)) (d : Direction) : Bool → List Event → Prop
  | nil {ok : Bool} : CallLog w d ok []
  | asked {ok : Bool} {asked rest : List Event} (consulted : w.Consulted asked)
      (plain : ∀ e ∈ asked, e.IsPlain) (others : CallLog w d ok rest) :
    CallLog w d ok (asked ++ rest)
  | unit {ok : Bool} {entry : Entry} {first rest : List Event}
      (unit : w.UnitLog d entry true first) (others : CallLog w d ok rest) :
    CallLog w d ok (first ++ rest)
  | stopped {entry : Entry} {last : List Event} (unit : w.UnitLog d entry false last) :
    CallLog w d false last

variable {m : Migrator σ} {w : Migrator (σ × List Event)} {d : Direction} {entry : Entry}
  {ok : Bool} {log : List Event}

/-- A unit that succeeds leaves no transaction open. -/
theorem UnitLog.settled (h : w.UnitLog d entry true log) : Settled log := by
  cases h with
  | plain found plain worked => exact settled_of_isPlain worked.1
  | committed found transactional worked done => exact settled_committed worked.1

/-- A unit that fails is bracketed. -/
theorem UnitLog.bracketed (h : w.UnitLog d entry false log) : Bracketed false log := by
  cases h with
  | unknown => exact bracketed_nil false
  | plain found plain worked =>
    rw [← List.append_nil log]
    exact (settled_of_isPlain worked.1).append_bracketed (bracketed_nil false)
  | unbegun => exact bracketed_unbegun
  | committed found transactional worked => exact bracketed_ended worked.1 (.inl rfl)
  | rolledBack found transactional worked done => exact bracketed_ended worked.1 (.inr ⟨done, rfl⟩)

/-- The log of a call is bracketed. -/
theorem CallLog.bracketed (h : w.CallLog d ok log) : Bracketed ok log := by
  induction h with
  | nil => exact bracketed_nil _
  | asked consulted plain others ih => exact (settled_of_isPlain plain).append_bracketed ih
  | unit unit others ih => exact unit.settled.append_bracketed ih
  | stopped unit => exact unit.bracketed

/-- The logs of two calls are the log of one, if the first call succeeds. -/
theorem CallLog.append {first rest : List Event} (h : w.CallLog d true first)
    (h' : w.CallLog d ok rest) : w.CallLog d ok (first ++ rest) := by
  generalize succeeded : true = done at h
  induction h with
  | nil => exact h'
  | asked consulted plain others ih =>
    rw [List.append_assoc]
    exact .asked consulted plain (ih succeeded)
  | unit unit others ih =>
    rw [List.append_assoc]
    exact .unit unit (ih succeeded)
  | stopped => cases succeeded

/-! ## Calls that leave logs -/

theorem observes_work (logs : Logs m w) (migration : Migration) (d : Direction) (entry : Entry) :
    Observes Event.IsPlain (m.work migration d entry) (w.work migration d entry) := by
  have alike : m.session.Alike (observing Event.IsPlain) m.session.observed :=
    m.session.alike_observed fun _ h => h.isPlain
  unfold work
  rw [logs.session]
  refine .bind (alike.run (catches_observing _) migration d) fun _ => ?_
  cases d with
  | up => exact logs.log entry.name entry.batch
  | down => exact logs.delete entry.name

/-- What a unit does inside its transaction is logged. -/
theorem exists_works (logs : Logs m w) (migration : Migration) (d : Direction) (entry : Entry)
    (s : σ) :
    ∃ work r s', (m.work migration d entry).result s = (r, s') ∧
      w.Works migration d entry r.isOk work ∧
      ∀ earlier, (w.work migration d entry).result (s, earlier) = (r, (s', earlier ++ work)) := by
  obtain ⟨work, plain, result⟩ := observes_work logs migration d entry s
  exact ⟨work, _, _, rfl, ⟨plain, s, _, _, result [], rfl⟩, result⟩

/-- A unit without a transaction leaves the log of a unit. -/
theorem exists_unitLog_plain (logs : Logs m w) {migration : Migration}
    (found : w.source.resolve entry.name = .ok migration)
    (plain : migration.transactional = false) (d : Direction) (s : σ) :
    ∃ log r s', w.UnitLog d entry r.isOk log ∧ (m.perform migration d entry).result s = (r, s') ∧
      ∀ earlier, (w.perform migration d entry).result (s, earlier) = (r, (s', earlier ++ log)) := by
  obtain ⟨work, r, s', done, worked, result⟩ := exists_works logs migration d entry s
  simp only [result_perform, opening, plain, Bool.false_eq_true, if_false, DbM.result_pure, done,
    result]
  cases r with
  | ok _ => exact ⟨work, .ok (), s', .plain found plain worked, rfl, fun _ => rfl⟩
  | error cause =>
    exact ⟨work, .error (.step entry.name cause), s', .plain found plain worked, rfl, fun _ => rfl⟩

/-- A unit with a transaction leaves the log of a unit. -/
theorem exists_unitLog_transactional (logs : Logs m w) {migration : Migration}
    (found : w.source.resolve entry.name = .ok migration)
    (transactional : migration.transactional = true) (d : Direction) (s : σ) :
    ∃ log r s', w.UnitLog d entry r.isOk log ∧ (m.perform migration d entry).result s = (r, s') ∧
      ∀ earlier, (w.perform migration d entry).result (s, earlier) = (r, (s', earlier ++ log)) := by
  have begins := m.result_begin s
  have session : m.observed.session = w.session := logs.session.symm
  simp only [result_perform, opening, transactional, if_true]
  rw [session] at begins
  simp only [begins]
  rcases m.session.begin.result s with ⟨e | _, s₁⟩
  · exact ⟨_, .error e, s₁, .unbegun found transactional, rfl, fun _ => rfl⟩
  · obtain ⟨work, r, s₂, done, worked, result⟩ := exists_works logs migration d entry s₁
    simp only [done, result]
    cases r with
    | ok _ =>
      have commits := m.result_commit s₂
      rw [session] at commits
      simp only [finish, if_true, commits]
      rcases m.session.commit.result s₂ with ⟨r, s₃⟩
      refine ⟨_, r, s₃, .committed found transactional worked r.isOk, rfl, ?_⟩
      intro earlier
      simp [Except.isOk, Except.toBool]
    | error cause =>
      -- rolling back may fail without notice
      have rolls : ∀ earlier, w.session.rollback.attempt.result (s₂, earlier) =
          (.ok (m.session.rollback.result s₂).1, ((m.session.rollback.result s₂).2,
            earlier ++ [.rollback (m.session.rollback.result s₂).1.isOk])) := by
        rw [← session]
        exact fun _ => rfl
      simp only [finish, if_true, DbM.result_bind, rolls]
      refine ⟨_, .error (.step entry.name cause), (m.session.rollback.result s₂).2,
        .rolledBack found transactional worked (m.session.rollback.result s₂).1.isOk, rfl, ?_⟩
      intro earlier
      simp [Except.isOk, Except.toBool, DbM.result_ofExcept]

/-- An action does what another one does, and leaves the log of a call. -/
def LeavesLog (w : Migrator (σ × List Event)) (d : Direction) (x : DbM σ α)
    (y : DbM (σ × List Event) α) : Prop :=
  ∀ s, ∃ log r s', w.CallLog d r.isOk log ∧ x.result s = (r, s') ∧
    ∀ earlier, y.result (s, earlier) = (r, (s', earlier ++ log))

namespace LeavesLog

variable {x : DbM σ α} {y : DbM (σ × List Event) α}

theorem ofExcept (r : Except Error α) : w.LeavesLog d (.ofExcept r : DbM σ α) (.ofExcept r) := by
  intro s
  refine ⟨[], r, s, .nil, rfl, ?_⟩
  intro earlier
  rw [List.append_nil]
  rfl

theorem pure (a : α) : w.LeavesLog d (Pure.pure a : DbM σ α) (Pure.pure a) := .ofExcept (.ok a)

/-- What the ledger is asked leaves a log. -/
theorem consulted (h : Observes Event.IsPlain x y)
    (consults : ∀ s, w.Consulted (y.result (s, [])).2.2) : w.LeavesLog d x y := by
  intro s
  obtain ⟨asked, plain, result⟩ := h s
  have consulted := consults s
  rw [result, List.nil_append] at consulted
  refine ⟨asked, _, _, ?_, rfl, result⟩
  rw [← List.append_nil asked]
  exact .asked consulted plain .nil

theorem bind {f : α → DbM σ β} {g : α → DbM (σ × List Event) β} (first : w.LeavesLog d x y)
    (second : ∀ a, w.LeavesLog d (f a) (g a)) : w.LeavesLog d (x >>= f) (y >>= g) := by
  intro s
  obtain ⟨before, r, s₁, logged, done, result⟩ := first s
  simp only [DbM.result_bind, done, result]
  cases r with
  | error e => exact ⟨before, .error e, s₁, logged, rfl, fun _ => rfl⟩
  | ok a =>
    obtain ⟨after, r, s₂, loggedAfter, doneAfter, resultAfter⟩ := second a s₁
    refine ⟨before ++ after, r, s₂, logged.append loggedAfter, doneAfter, ?_⟩
    intro earlier
    rw [← List.append_assoc]
    exact resultAfter (earlier ++ before)

end LeavesLog

/-- A unit leaves a log. -/
theorem leavesLog_unit (logs : Logs m w) (d : Direction) (entry : Entry) :
    w.LeavesLog d (m.unit false d entry) (w.unit false d entry) := by
  intro s
  unfold unit
  rw [logs.source]
  cases found : m.source.resolve entry.name with
  | error e =>
    have found' : w.source.resolve entry.name = .error e := logs.source ▸ found
    refine ⟨[], .error e, s, .stopped (.unknown found'), rfl, ?_⟩
    intro earlier
    rw [List.append_nil]
    rfl
  | ok migration =>
    have found' : w.source.resolve entry.name = .ok migration := logs.source ▸ found
    obtain ⟨log, r, s', logged, done, result⟩ : ∃ log r s', w.UnitLog d entry r.isOk log ∧
        (m.perform migration d entry).result s = (r, s') ∧ ∀ earlier,
          (w.perform migration d entry).result (s, earlier) = (r, (s', earlier ++ log)) := by
      cases transactional : migration.transactional with
      | false => exact exists_unitLog_plain logs found' transactional d s
      | true => exact exists_unitLog_transactional logs found' transactional d s
    simp only [DbM.result_bind, Bool.false_eq_true, if_false, done, result]
    cases r with
    | error e => exact ⟨log, .error e, s', .stopped logged, rfl, fun _ => rfl⟩
    | ok _ =>
      refine ⟨log, _, s', ?_, rfl, fun _ => rfl⟩
      rw [← List.append_nil log]
      exact .unit logged .nil

theorem leavesLog_units (logs : Logs m w) (d : Direction) (entries : List Entry) :
    w.LeavesLog d (m.units false d entries) (w.units false d entries) := by
  induction entries with
  | nil => exact .pure _
  | cons entry rest ih =>
    exact .bind (leavesLog_unit logs d entry) fun first => .bind ih fun others => .pure _

/-- Actions that leave logs, as a relation that goes along with composition. -/
def leaving (w : Migrator (σ × List Event)) (d : Direction) :
    ActionRelation σ (σ × List Event) where
  holds := w.LeavesLog d
  ofExcept := .ofExcept
  bind := .bind

theorem asksAlike_leaving (logs : Logs m w) (d : Direction) : AsksAlike (leaving w d) m w where
  source := logs.source
  installed := .consulted logs.installed .installed
  ran := .consulted logs.ran .ran
  entries := .consulted logs.entries .entries
  last := .consulted logs.last .last
  lastBatch := .consulted logs.lastBatch .lastBatch

theorem leavesLog_run (logs : Logs m w) : w.LeavesLog .up (m.run false) (w.run false) :=
  (asksAlike_leaving logs .up).run (.consulted logs.create .create) (leavesLog_units logs .up)

theorem leavesLog_rollback (logs : Logs m w) :
    w.LeavesLog .down (m.rollback false) (w.rollback false) :=
  (asksAlike_leaving logs .down).rollback (leavesLog_units logs .down)

theorem leavesLog_reset (logs : Logs m w) : w.LeavesLog .down (m.reset false) (w.reset false) :=
  (asksAlike_leaving logs .down).reset (leavesLog_units logs .down)

/-! ## Brackets -/

/-- An action does what another one does, and the log of its call keeps to its transactions. -/
def Brackets (w : Migrator (σ × List Event)) (d : Direction) (x : DbM σ α)
    (y : DbM (σ × List Event) α) : Prop :=
  ∀ s, ∃ log r s', w.CallLog d r.isOk log ∧ Bracketed r.isOk log ∧ x.result s = (r, s') ∧
    ∀ earlier, y.result (s, earlier) = (r, (s', earlier ++ log))

theorem LeavesLog.brackets {x : DbM σ α} {y : DbM (σ × List Event) α} (h : w.LeavesLog d x y) :
    w.Brackets d x y := by
  intro s
  obtain ⟨log, r, s', logged, done, result⟩ := h s
  exact ⟨log, r, s', logged, logged.bracketed, done, result⟩

/-- Runs, rollbacks and resets keep to their transactions, whatever fails. -/
theorem transactions_bracketed (logs : Logs m w) :
    w.Brackets .up (m.run false) (w.run false) ∧
      w.Brackets .down (m.rollback false) (w.rollback false) ∧
      w.Brackets .down (m.reset false) (w.reset false) :=
  ⟨(leavesLog_run logs).brackets, (leavesLog_rollback logs).brackets,
    (leavesLog_reset logs).brackets⟩

/-- A script by which tags fail and cannot be rolled back, and a ledger that records users. -/
def unclosable : Script × MemoryLedger :=
  ({ failing := ["tags", "-- rollback"] },
    { installed := true, entries := [{ name := "1_users", batch := 3 }] })

/-- Migrations on a session, with a ledger in its database. -/
def taggingIn (session : Session σ) : Migrator σ where
  session
  ledger := .database session "migrations"
  source := taggingSource

/-- A run records posts and then stops inside the transaction of tags, which stays open; a rollback
strikes out users, inside a transaction. With a ledger in the database, resets keep to their
transactions as well. -/
theorem transactions_bracketed_tagging :
    (∃ log, tagging.observed.CallLog .up false log ∧ Bracketed false log ∧
      log = [.begin true, .execute "make posts" true, .execute "fill posts" true,
        .log { name := "2_posts", batch := 4 } true, .commit true,
        .begin true, .execute "make tags" false, .rollback false]) ∧
    (∃ log, tagging.observed.CallLog .down true log ∧ Bracketed true log ∧
      log = [.begin true, .execute "drop users" true, .delete "1_users" true, .commit true]) ∧
    (taggingIn (Session.scripted .sqlite "main" false).observed).Brackets .down
      ((taggingIn (.scripted .sqlite "main" false)).reset false)
      ((taggingIn (Session.scripted .sqlite "main" false).observed).reset false) := by
  obtain ⟨run, rollback, -⟩ := transactions_bracketed (Logs.observed tagging)
  obtain ⟨log, r, s, logged, bracketed, ran, observed⟩ := run unclosable
  obtain ⟨log', r', s', logged', bracketed', rolled, observed'⟩ := rollback unclosable
  have failed : ((tagging.run false).result unclosable).1.isOk = false := by decide +kernel
  have done : ((tagging.rollback false).result unclosable).1.isOk = true := by decide +kernel
  rw [ran] at failed
  rw [rolled] at done
  rw [failed] at logged bracketed
  rw [done] at logged' bracketed'
  have events := congrArg (fun ended => ended.2.2) (observed [])
  have events' := congrArg (fun ended => ended.2.2) (observed' [])
  refine ⟨⟨log, logged, bracketed, events.symm.trans ?_⟩,
    ⟨log', logged', bracketed', events'.symm.trans ?_⟩, ?_⟩
  · decide +kernel
  · decide +kernel
  · exact (transactions_bracketed (Logs.database _ "migrations" taggingSource)).2.2

end Migrator

end SchemaShift
