import SchemaShift.Migrator.Basic
import SchemaShift.Proofs.Ledger.Reading
import SchemaShift.Proofs.Migrator.Discovery

/-!
# Plans

A run and a rollback find out what there is to do before they begin, and then carry it out: a plan
is the entries that are to be recorded, or that are to be struck out.

Results:
* `run_eq`, `rollback_eq`: a run and a rollback carry out their plans.
* `run_pretended_eq`, `rollback_eq_deliver`: so do pretended ones.
* `plan_eq_ok`, `rollbackPlan_eq_ok`: what is planned, and what the ledger says then.
* `isNextBatch_of_plan`: a run plans what is pending, in order and as a batch that is new.
* `isLastBatch_of_rollbackPlan`: a rollback plans the last batch, greatest name first.
-/

namespace SchemaShift.Migrator

variable {σ : Type}

/-! ## Planning and carrying out -/

/-- Names as the entries of the next batch; there is no batch of nothing. -/
def batched (m : Migrator σ) (pending : List String) : DbM σ (List Entry) := do
  if pending.isEmpty then return []
  else
    let batch ← if ← m.ledger.installed then m.ledger.nextBatch else pure 1
    return pending.map fun name => { name, batch }

/-- The entries that a run is to record: what is pending, as the next batch. -/
def plan (m : Migrator σ) : DbM σ (List Entry) := do
  let _ ← m.install
  let pending ← m.pending
  m.batched pending

/-- The entries that a rollback is to strike out. -/
def rollbackPlan (m : Migrator σ) : DbM σ (List Entry) := do
  if ← m.ledger.installed then m.ledger.last else return []

/-- Runs the migrations of entries in order, and tells of it. -/
def carryOut (m : Migrator σ) (d : Direction) (entries : List Entry) : DbM σ Outcome := do
  let units ← m.units false d entries
  return { batch := entries.head?.map (·.batch), pretend := false, units }

/-- Runs the migrations of entries in order, in earnest or pretended, and tells of it. -/
def deliver (m : Migrator σ) (pretend : Bool) (d : Direction) (entries : List Entry) :
    DbM σ Outcome := do
  let units ← m.units pretend d entries
  return { batch := entries.head?.map (·.batch), pretend, units }

/-- The entries that a pretended run would record. -/
def foreseen (m : Migrator σ) : DbM σ (List Entry) := do
  let pending ← m.pending
  m.batched pending

theorem plan_eq (m : Migrator σ) : m.plan = m.install >>= fun _ => m.foreseen := rfl

theorem carryOut_eq (m : Migrator σ) (d : Direction) : m.carryOut d = m.deliver false d := rfl

/-- What a run does once it knows what is pending. -/
theorem batched_deliver (m : Migrator σ) (pretend : Bool) (pending : List String) :
    m.batched pending >>= m.deliver pretend .up =
      if pending.isEmpty then pure { pretend }
      else do
        let batch ← if ← m.ledger.installed then m.ledger.nextBatch else pure 1
        let units ← m.units pretend .up (pending.map fun name => { name, batch })
        return { batch := some batch, pretend, units } := by
  cases pending with
  | nil => rfl
  | cons name rest =>
    simp only [batched, List.isEmpty_cons, Bool.false_eq_true, if_false, bind_assoc]
    refine congrArg (m.ledger.installed >>= ·) (funext fun installed => ?_)
    cases installed with
    | true =>
      simp only [if_true, bind_assoc, pure_bind]
      rfl
    | false =>
      simp only [Bool.false_eq_true, if_false, pure_bind]
      rfl

theorem run_eq (m : Migrator σ) : m.run false = m.plan >>= m.carryOut .up := by
  simp only [carryOut_eq, plan, bind_assoc, batched_deliver]
  rfl

theorem run_pretended_eq (m : Migrator σ) : m.run true = m.foreseen >>= m.deliver true .up := by
  simp only [foreseen, bind_assoc, batched_deliver]
  rfl

theorem rollback_eq_deliver (m : Migrator σ) (pretend : Bool) :
    m.rollback pretend = m.rollbackPlan >>= m.deliver pretend .down := by
  simp only [rollbackPlan, bind_assoc]
  refine congrArg (m.ledger.installed >>= ·) (funext fun installed => ?_)
  cases installed with
  | true => rfl
  | false => rfl

theorem rollback_eq (m : Migrator σ) :
    m.rollback false = m.rollbackPlan >>= m.carryOut .down := m.rollback_eq_deliver false

/-! ## What is planned -/

/-- The names that are discovered and that a ledger does not record. -/
def pendingNames (names : List String) (ledger : MemoryLedger) : List String :=
  names.filter fun name => name ∉ ledger.entries.map (·.name)

/-- What is pending for a ledger, in strict order, as one batch that is greater than all that are
recorded and the first if none is. -/
def IsNextBatch (m : Migrator σ) (ledger : MemoryLedger) (entries : List Entry) : Prop :=
  ∃ names batch, m.source.discover = .ok names ∧ (pendingNames names ledger).Pairwise (· < ·) ∧
    (∀ e ∈ ledger.entries, e.batch < batch) ∧ (ledger.entries = [] → batch = 1) ∧
    entries = (pendingNames names ledger).map fun name => { name, batch }

/-- What a ledger records with the greatest number, greatest name first; nothing where there is no
ledger. -/
structure IsLastBatch (ledger : MemoryLedger) (entries : List Entry) : Prop where
  mem_iff : ∀ e, e ∈ entries ↔ ledger.installed = true ∧ e ∈ ledger.entries ∧
    ∀ other ∈ ledger.entries, other.batch ≤ e.batch
  descending : entries.Pairwise fun a b => b.name < a.name

variable {m : Migrator σ} {view : σ → MemoryLedger} {s s' : σ}

theorem install_eq_ok (reads : m.ledger.Reads view) {b : Bool}
    (h : m.install.result s = (.ok b, s')) : view s' = { view s with installed := true } := by
  obtain ⟨there, s₁, asked, h⟩ := DbM.result_bind_eq_ok_iff.1 h
  obtain ⟨same, kept⟩ := reads.installed s s₁ there asked
  cases there with
  | true =>
    obtain ⟨-, rfl⟩ := DbM.result_pure_eq_ok_iff.1 h
    rw [kept, same]
  | false =>
    obtain ⟨_, s₂, created, h⟩ := DbM.result_bind_eq_ok_iff.1 h
    obtain ⟨-, rfl⟩ := DbM.result_pure_eq_ok_iff.1 h
    rw [reads.create s₁ s₂ created, kept]

theorem pending_eq_ok (reads : m.ledger.Reads view) (there : (view s).installed = true)
    {pending : List String} (h : m.pending.result s = (.ok pending, s')) :
    ∃ names, m.source.discover = .ok names ∧ pending = pendingNames names (view s) ∧
      view s' = view s := by
  obtain ⟨ran, s₁, listed, h⟩ := DbM.result_bind_eq_ok_iff.1 h
  obtain ⟨names, s₂, discovered, h⟩ := DbM.result_bind_eq_ok_iff.1 h
  obtain ⟨found, rfl⟩ := DbM.result_ofExcept_eq_ok_iff.1 discovered
  obtain ⟨rfl, rfl⟩ := DbM.result_pure_eq_ok_iff.1 h
  obtain ⟨asked, s₃, installed, listed⟩ := DbM.result_bind_eq_ok_iff.1 listed
  obtain ⟨rfl, kept⟩ := reads.installed s s₃ asked installed
  rw [if_pos there] at listed
  obtain ⟨rfl, kept'⟩ := reads.ran s₃ s₁ ran listed
  refine ⟨names, found, ?_, kept'.trans kept⟩
  rw [kept, pendingNames]
  apply List.filter_congr
  intro name _
  have same : name ∈ (view s).sorted.map (·.name) ↔ name ∈ (view s).entries.map (·.name) := by
    simp [MemoryLedger.mem_sorted_iff]
  rw [List.contains_eq_mem, ← decide_not]
  exact decide_eq_decide.2 (not_congr same)

theorem batched_eq_ok (reads : m.ledger.Reads view) (there : (view s).installed = true)
    {pending : List String} {entries : List Entry}
    (h : (m.batched pending).result s = (.ok entries, s')) :
    entries = pending.map (fun name => { name, batch := (view s).lastBatch + 1 }) ∧
      (pending ≠ [] → (view s).lastBatch < Int64.maxValue) ∧ view s' = view s := by
  unfold batched at h
  by_cases nothing : pending.isEmpty = true
  · rw [if_pos nothing] at h
    obtain ⟨rfl, rfl⟩ := DbM.result_pure_eq_ok_iff.1 h
    rw [List.isEmpty_iff.1 nothing]
    exact ⟨rfl, absurd rfl, rfl⟩
  · rw [if_neg nothing] at h
    obtain ⟨asked, s₁, installed, h⟩ := DbM.result_bind_eq_ok_iff.1 h
    obtain ⟨rfl, kept⟩ := reads.installed s s₁ asked installed
    rw [if_pos there] at h
    obtain ⟨batch, s₂, counted, h⟩ := DbM.result_bind_eq_ok_iff.1 h
    obtain ⟨last, s₃, counted, next⟩ := DbM.result_bind_eq_ok_iff.1 counted
    obtain ⟨rfl, kept'⟩ := reads.lastBatch s₁ s₃ last counted
    obtain ⟨follows, rfl⟩ := DbM.result_ofExcept_eq_ok_iff.1 next
    obtain ⟨below, rfl⟩ := batchAfter_eq_ok_iff.1 follows
    obtain ⟨rfl, rfl⟩ := DbM.result_pure_eq_ok_iff.1 h
    rw [kept] at below
    rw [kept', kept]
    exact ⟨rfl, fun _ => below, rfl⟩

/-- A run plans what is pending as the batch behind the last one, if there is one behind it, and the
ledger is there then. -/
theorem plan_eq_ok (reads : m.ledger.Reads view) {entries : List Entry}
    (h : m.plan.result s = (.ok entries, s')) :
    ∃ names, m.source.discover = .ok names ∧
      entries = (pendingNames names (view s)).map
        (fun name => { name, batch := (view s).lastBatch + 1 }) ∧
      (pendingNames names (view s) ≠ [] → (view s).lastBatch < Int64.maxValue) ∧
      view s' = { view s with installed := true } := by
  obtain ⟨_, s₁, installed, h⟩ := DbM.result_bind_eq_ok_iff.1 h
  have there : view s₁ = { view s with installed := true } := install_eq_ok reads installed
  obtain ⟨pending, s₂, listed, h⟩ := DbM.result_bind_eq_ok_iff.1 h
  obtain ⟨names, found, rfl, kept⟩ := pending_eq_ok reads (by rw [there]) listed
  rw [there] at kept
  obtain ⟨rfl, below, kept'⟩ := batched_eq_ok reads (by rw [kept]) h
  rw [there] at below
  rw [kept] at below kept'
  refine ⟨names, found, ?_, below, kept'⟩
  rw [there, kept]
  rfl

/-- A run plans what is pending, in order and as a batch that is new. -/
theorem isNextBatch_of_plan (reads : m.ledger.Reads view) (ordered : m.source.Ordered)
    (bounded : ∀ e ∈ (view s).entries, e.batch < Int64.maxValue) {entries : List Entry}
    (h : m.plan.result s = (.ok entries, s')) : m.IsNextBatch (view s) entries := by
  obtain ⟨names, found, rfl, -⟩ := plan_eq_ok reads h
  refine ⟨names, (view s).lastBatch + 1, found, (ordered names found).filter _, ?_, ?_, rfl⟩
  · exact fun e he => MemoryLedger.lt_nextBatch (MemoryLedger.lastBatch_lt_maxValue bounded) he
  · intro empty
    rw [MemoryLedger.lastBatch_of_empty empty]
    rfl

/-- A rollback plans the last batch of a ledger that is there. -/
theorem rollbackPlan_eq_ok (reads : m.ledger.Reads view) {entries : List Entry}
    (h : m.rollbackPlan.result s = (.ok entries, s')) :
    entries = (if (view s).installed then (view s).last else []) ∧ view s' = view s := by
  obtain ⟨asked, s₁, installed, h⟩ := DbM.result_bind_eq_ok_iff.1 h
  obtain ⟨rfl, kept⟩ := reads.installed s s₁ asked installed
  by_cases there : (view s).installed = true
  · rw [if_pos there] at h ⊢
    obtain ⟨rfl, kept'⟩ := reads.last s₁ s' entries h
    rw [kept', kept]
    exact ⟨rfl, rfl⟩
  · rw [if_neg there] at h ⊢
    obtain ⟨rfl, rfl⟩ := DbM.result_pure_eq_ok_iff.1 h
    exact ⟨rfl, kept⟩

/-- A rollback plans the last batch, greatest name first. -/
theorem isLastBatch_of_rollbackPlan (reads : m.ledger.Reads view)
    (unique : ((view s).entries.map (·.name)).Nodup) {entries : List Entry}
    (h : m.rollbackPlan.result s = (.ok entries, s')) : IsLastBatch (view s) entries := by
  obtain ⟨rfl, -⟩ := rollbackPlan_eq_ok reads h
  by_cases there : (view s).installed = true
  · rw [if_pos there]
    refine ⟨?_, MemoryLedger.pairwise_last unique⟩
    intro e
    rw [MemoryLedger.mem_last_iff_greatest, and_iff_right there]
  · rw [if_neg there]
    refine ⟨?_, .nil⟩
    intro e
    simp [there]

/-- A rollback carries out the last batch of a ledger in memory. -/
theorem result_rollback_of_last {τ : Type} {m : Migrator (τ × MemoryLedger)}
    (inMemory : m.ledger = .memory) {s : τ × MemoryLedger} (there : s.2.installed = true)
    {entries : List Entry} (last : s.2.last = entries) :
    (m.rollback false).result s = (m.carryOut .down entries).result s := by
  have planned : m.rollbackPlan.result s = (.ok entries, s) := by
    rw [rollbackPlan, inMemory, ← last]
    obtain ⟨t, installed, recorded⟩ := s
    cases there
    rfl
  rw [rollback_eq, DbM.result_bind, planned]

end SchemaShift.Migrator
