import SchemaShift.Proofs.Ledger.Reading
import SchemaShift.Proofs.Session.Steady

/-!
# Steady ledgers

A ledger is steady when it says the same whether or not it has just been created, or when there is
none and a new one is empty. What it is told does not fail.

Results:
* `steady_memory_installed`, `steady_memory_new`: ledgers in memory are steady.
* `steady_database`: a ledger in the database of a steady session is steady.
-/

namespace SchemaShift.Ledger

variable {σ : Type} {working : σ → Prop}

/-- A ledger that can be told in the given states what was applied and what was reverted. -/
structure Records (ledger : Ledger σ) (working : σ → Prop) : Prop where
  log : ∀ name batch, (ledger.log name batch).Always working (.ok ())
  delete : ∀ name, (ledger.delete name).Always working (.ok ())

/-- A ledger that says the same in the given states, at least about a run that has not begun: either
it says the same when it has been created, or it is not there and a new one is empty. -/
inductive Steady (ledger : Ledger σ) (working : σ → Prop) : (σ → Prop) → Prop
  | same {states : σ → Prop} (within : ∀ s, states s → working s)
      (installed : ledger.installed.Settled states) (create : ledger.create.Always states (.ok ()))
      (ran : ledger.ran.Settled states) (entries : ledger.entries.Settled states)
      (last : ledger.last.Settled states) (lastBatch : ledger.lastBatch.Settled states) :
      Steady ledger working states
  | new {states opened : σ → Prop} (within : ∀ s, states s → working s)
      (opened_within : ∀ s, opened s → working s)
      (absent : ledger.installed.Always states (.ok false))
      (create : ∀ s, states s → ∃ s', ledger.create.result s = (.ok (), s') ∧ opened s')
      (installed : ledger.installed.Always opened (.ok true))
      (ran : ledger.ran.Always opened (.ok []))
      (entries : ledger.entries.Always opened (.ok []))
      (lastBatch : ledger.lastBatch.Always opened (.ok 0)) : Steady ledger working states

theorem Steady.within {ledger : Ledger σ} {states : σ → Prop} (h : ledger.Steady working states)
    {s : σ} (hs : states s) : working s := by
  cases h with
  | same within => exact within s hs
  | new within => exact within s hs

/-! ## Ledgers in memory -/

theorem records_memory (states : σ → Prop) :
    (memory : Ledger (σ × MemoryLedger)).Records fun p => states p.1 where
  log name batch p hp := ⟨(p.1, p.2.log name batch), rfl, hp⟩
  delete name p hp := ⟨(p.1, p.2.delete name), rfl, hp⟩

theorem always_read {α : Type} (states : σ → Prop) (m : MemoryLedger) (f : MemoryLedger → α) :
    (memory.read f : DbM (σ × MemoryLedger) α).Always (fun p => states p.1 ∧ p.2 = m)
      (.ok (f m)) := by
  rintro ⟨s, _⟩ ⟨hs, rfl⟩
  exact ⟨_, rfl, hs, rfl⟩

/-- A ledger in memory that is there says the same when it is created once more. -/
theorem steady_memory_installed (states : σ → Prop) {m : MemoryLedger}
    (there : m.installed = true) :
    (memory : Ledger (σ × MemoryLedger)).Steady (fun p => states p.1)
      (fun p => states p.1 ∧ p.2 = m) :=
  .same (fun _ hp => hp.1) ⟨_, always_read states m _⟩
    (by
      rintro ⟨s, _⟩ ⟨hs, rfl⟩
      refine ⟨_, rfl, hs, ?_⟩
      rw [← there])
    ⟨_, always_read states m (·.sorted.map Entry.name)⟩ ⟨_, always_read states m _⟩
    ⟨_, always_read states m _⟩ ⟨_, always_read states m _⟩

/-- A new ledger in memory is empty. -/
theorem steady_memory_new (states : σ → Prop) :
    (memory : Ledger (σ × MemoryLedger)).Steady (fun p => states p.1)
      (fun p => states p.1 ∧ p.2 = {}) := by
  have create : ∀ p : σ × MemoryLedger, states p.1 ∧ p.2 = {} →
      ∃ p', memory.create.result p = (.ok (), p') ∧
        (states p'.1 ∧ p'.2 = { installed := true }) := by
    rintro ⟨s, _⟩ ⟨hs, rfl⟩
    exact ⟨_, rfl, hs, rfl⟩
  have nothing : MemoryLedger.sorted { installed := true } = [] := List.mergeSort_nil
  have ran := always_read states { installed := true } (·.sorted.map Entry.name)
  rw [nothing, List.map_nil] at ran
  have entries := always_read states { installed := true } (·.sorted)
  rw [nothing] at entries
  have lastBatch := always_read states { installed := true } (·.lastBatch)
  rw [MemoryLedger.lastBatch_of_empty rfl] at lastBatch
  exact .new (fun _ hp => hp.1) (fun _ hp => hp.1) (always_read states _ _) create
    (always_read states _ _) ran entries lastBatch

/-! ## Ledgers in a database -/

section Database

variable {session : Session σ} {table : String}

theorem records_database (h : session.Steady working) (table : String) :
    (database session table).Records working where
  log _ _ := h.execute _
  delete _ := h.execute _

/-- The table of a ledger can be compiled for every engine. -/
theorem exists_compile (working : σ → Prop) (session : Session σ) (table : String) {c : Command}
    (h : c ∈ (blueprint table).commands) :
    ∃ statements, ((blueprint table).compile session c).Always working (.ok statements) := by
  unfold Blueprint.compile
  simp only [commands_blueprint, List.mem_cons, List.not_mem_nil, or_false] at h
  rcases h with rfl | rfl
  · cases session.dialect <;> exact ⟨_, .ofExcept (.ok _)⟩
  · cases session.dialect <;> exact ⟨_, .ofExcept (.ok _)⟩

theorem exists_compileAll {b : Blueprint} {cs : List Command}
    (h : ∀ c ∈ cs, ∃ statements, (b.compile session c).Always working (.ok statements)) :
    ∃ statements, (b.compileAll session cs).Always working (.ok statements) := by
  induction cs with
  | nil => exact ⟨[], .pure _⟩
  | cons c cs ih =>
    obtain ⟨first, compiled⟩ := h c List.mem_cons_self
    obtain ⟨others, rest⟩ := ih fun c hc => h c (List.mem_cons_of_mem _ hc)
    exact ⟨first ++ others, compiled.bind (rest.bind (.pure _))⟩

/-- The table of a ledger can be made in the database of every steady session. -/
theorem always_build (h : session.Steady working) (valid : Identifier.Valid table) :
    ((blueprint table).build session).Always working (.ok ()) := by
  have columns : ∀ c ∈ (blueprint "").columns, Identifier.Valid c.name ∧ c.Valid := by decide
  have checked : (blueprint table).check = .ok () := Blueprint.check_eq_ok_iff.2 ⟨valid, columns⟩
  have commands : (blueprint table).compiledCommands = (blueprint table).commands := rfl
  obtain ⟨statements, compiled⟩ : ∃ statements,
      ((blueprint table).compileAll session (blueprint table).commands).Always working
        (.ok statements) :=
    exists_compileAll fun c hc => exists_compile working session table hc
  have stated : ((blueprint table).statements session).Always working (.ok statements) := by
    unfold Blueprint.statements
    rw [checked, commands]
    exact (DbM.Always.ofExcept _).bind compiled
  have written : ((blueprint table).toSql session).Always working
      (.ok (statements.map (·.render session.dialect))) := stated.bind (.pure _)
  exact written.bind (h.executeAll _)

/-- A ledger in the database of a steady session says the same, whatever is executed. -/
theorem steady_database (h : session.Steady working) (valid : Identifier.Valid table) :
    (database session table).Steady working working := by
  have lastBatch : (database.lastBatch session table).Settled working :=
    (h.select _).bind fun _ => .pure _
  exact .same (fun _ hs => hs) ((h.select _).bind fun _ => .pure _)
    (by
      show (DbM.ofExcept (Identifier.check table) >>= fun _ =>
        (blueprint table).build session).Always working (.ok ())
      rw [Identifier.check_eq_ok_iff.2 valid]
      exact (DbM.Always.ofExcept _).bind (always_build h valid))
    ((h.select _).bind fun _ => .pure _) ((h.select _).bind fun _ => .pure _)
    (lastBatch.bind fun _ => (h.select _).bind fun _ => .pure _) lastBatch

end Database

end SchemaShift.Ledger
