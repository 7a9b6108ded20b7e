import SchemaShift.Proofs.Migrator.Observation

/-!
# Pretended runs touch nothing

A pretended run asks queries, of the catalog and of the ledger, and nothing else: whatever comes of
it, no statement is executed, no transaction is begun or ended, and the ledger is told nothing.

Results:
* `observesBeside`: observing goes along with recording statements.
* `Watches.units_pretended`: pretended units ask queries only.
* `Watches.run_pretended`, `Watches.rollback_pretended`, `Watches.reset_pretended`: so do pretended
  runs.
* `Watches.database`: what is asked of a ledger in a database are queries too.
-/

namespace SchemaShift

variable {σ ρ α β : Type} {kind : Event → Prop}

/-! ## Observing what records -/

/-- An action with the events it writes down moved behind a state beside its own. -/
def DbM.regrouped (y : DbM ((σ × List Event) × ρ) α) : DbM ((σ × ρ) × List Event) α :=
  ExceptT.mk fun ((s, t), events) =>
    let (r, ((s, events), t)) := y.result ((s, events), t)
    (r, ((s, t), events))

theorem DbM.regrouped_bind (y : DbM ((σ × List Event) × ρ) α)
    (g : α → DbM ((σ × List Event) × ρ) β) :
    (y >>= g).regrouped = y.regrouped >>= fun a => (g a).regrouped := by
  funext ⟨⟨s, t⟩, events⟩
  show (y >>= g).regrouped.result ((s, t), events) =
    (y.regrouped >>= fun a => (g a).regrouped).result ((s, t), events)
  have alone : y.regrouped.result ((s, t), events) =
      ((y.result ((s, events), t)).1, (((y.result ((s, events), t)).2.1.1,
        (y.result ((s, events), t)).2.2), (y.result ((s, events), t)).2.1.2)) := rfl
  have both : (y >>= g).regrouped.result ((s, t), events) =
      (((y >>= g).result ((s, events), t)).1, ((((y >>= g).result ((s, events), t)).2.1.1,
        ((y >>= g).result ((s, events), t)).2.2),
        ((y >>= g).result ((s, events), t)).2.1.2)) := rfl
  rw [both, result_bind, result_bind, alone]
  rcases y.result ((s, events), t) with ⟨e | a, ⟨s', events'⟩, t'⟩ <;> rfl

/-- Actions and observed ones that both record something beside, as a relation that goes along with
composition. -/
def observesBeside (kind : Event → Prop) : ActionRelation (σ × ρ) ((σ × List Event) × ρ) where
  holds x y := Observes kind x y.regrouped
  ofExcept x := .ofExcept x
  bind := by
    intro α β x y f g first second
    rw [DbM.regrouped_bind]
    exact first.bind second

theorem catches_observesBeside (kind : Event → Prop) :
    (observesBeside kind : ActionRelation (σ × ρ) ((σ × List Event) × ρ)).Catches :=
  fun h => h.attempt

/-- A pretended session asks queries only. -/
theorem Session.pretend_alike (session : Session σ) :
    session.pretend.Alike (observesBeside Event.IsQuery) session.observed.pretend where
  dialect := rfl
  database := rfl
  select sql :=
    Observes.observed (session.pretend.select sql) fun done => ⟨sql, done, rfl⟩
  execute _ := .of_result fun _ _ => rfl

theorem DbM.result_regrouped {y : DbM ((σ × List Event) × ρ) α} {s s' : σ} {t t' : ρ}
    {events events' : List Event} {r : Except Error α}
    (h : y.regrouped.result ((s, t), events) = (r, ((s', t'), events'))) :
    y.result ((s, events), t) = (r, ((s', events'), t')) := by
  simp only [Prod.ext_iff] at h ⊢
  exact ⟨h.1, ⟨h.2.1.1, h.2.2⟩, h.2.1.2⟩

/-! ## Pretended runs -/

namespace Watches

variable {m : Migrator σ} {w : Migrator (σ × List Event)}

theorem pretended (h : Watches Event.IsQuery m w) (name : String) (migration : Migration)
    (d : Direction) :
    Observes Event.IsQuery (m.pretended name migration d) (w.pretended name migration d) := by
  intro s
  obtain ⟨history, queries, result⟩ :=
    m.session.pretend_alike.run (catches_observesBeside _) migration d (s, [])
  refine ⟨history, queries, ?_⟩
  intro events
  have watched := DbM.result_regrouped (result events)
  rw [← h.session] at watched
  rcases ran : (migration.run m.session.pretend d).result (s, []) with ⟨r, s', recorded⟩
  rw [ran] at watched
  rw [Migrator.result_pretended ran, Migrator.result_pretended watched]

theorem units_pretended (h : Watches Event.IsQuery m w) (d : Direction) (entries : List Entry) :
    Observes Event.IsQuery (m.units true d entries) (w.units true d entries) := by
  induction entries with
  | nil => exact .pure _
  | cons entry rest ih =>
    have unit : Observes Event.IsQuery (m.unit true d entry) (w.unit true d entry) := by
      unfold Migrator.unit
      rw [h.source]
      cases m.source.resolve entry.name with
      | error cause => exact .ofExcept _
      | ok migration => exact .bind (h.pretended entry.name migration d) fun _ => .pure _
    exact .bind unit fun first => .bind ih fun others => .pure _

/-- A pretended run asks queries only. -/
theorem run_pretended (h : Watches Event.IsQuery m w) :
    Observes Event.IsQuery (m.run true) (w.run true) :=
  h.asksAlike.run_pretended (h.units_pretended .up)

/-- A pretended rollback asks queries only. -/
theorem rollback_pretended (h : Watches Event.IsQuery m w) :
    Observes Event.IsQuery (m.rollback true) (w.rollback true) :=
  h.asksAlike.rollback (h.units_pretended .down)

/-- A pretended reset asks queries only. -/
theorem reset_pretended (h : Watches Event.IsQuery m w) :
    Observes Event.IsQuery (m.reset true) (w.reset true) :=
  h.asksAlike.reset (h.units_pretended .down)

/-- What is asked of a ledger in a database are queries. -/
theorem database (session : Session σ) (table : String) (source : Source) :
    Watches Event.IsQuery { session, ledger := .database session table, source }
      { session := session.observed, ledger := .database session.observed table, source } :=
  have asks (sql : String) :
      Observes Event.IsQuery (session.select sql) (session.observed.select sql) :=
    .observed (session.select sql) fun done => ⟨sql, done, rfl⟩
  have lastBatch : Observes Event.IsQuery (Ledger.database.lastBatch session table)
      (Ledger.database.lastBatch session.observed table) :=
    .bind (asks _) fun _ => .pure _
  { session := rfl
    source := rfl
    installed := .bind (asks _) fun _ => .pure _
    ran := .bind (asks _) fun _ => .pure _
    entries := .bind (asks _) fun _ => .pure _
    last := .bind lastBatch fun _ => .bind (asks _) fun _ => .pure _
    lastBatch }

end Watches

end SchemaShift
