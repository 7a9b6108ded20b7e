import SchemaShift.Proofs.Ledger.Keeping
import SchemaShift.Proofs.Migrator.Faithful
import SchemaShift.Proofs.Except

/-!
# Rollbacks undo runs

A run records what is pending behind all that is recorded, as the last batch, and a rollback that
follows it strikes out the last batch, last entry first. So the ledger says again what it said
before, and the units go back in the reverse of the order in which they came.

Batches are numbered by words of 64 bits. Behind the greatest of them there is none, and nothing can
be applied any more: a run that succeeds has found a number that is greater than all others.

Results:
* `exists_units_eq_ok`: units that succeed are told to the ledger one after the other.
* `foldl_noted_up`, `foldl_noted_down`: what a ledger says after a batch, up or down.
* `exists_run_eq_ok`, `exists_rollback_eq_ok`: what a run and a rollback leave behind.
* `rollback_undoes_run`: a rollback undoes the run before it.
-/

namespace SchemaShift

variable {σ : Type}

/-! ## Ledgers in memory -/

/-- What a ledger says when it has been told of an entry. -/
def Direction.noted (d : Direction) (ledger : MemoryLedger) (e : Entry) : MemoryLedger :=
  match d with
  | .up => ledger.log e.name e.batch
  | .down => ledger.delete e.name

namespace MemoryLedger

/-- New entries stand behind the others. -/
theorem foldl_noted_up (ledger : MemoryLedger) {entries : List Entry}
    (new : ∀ e ∈ entries, e.name ∉ ledger.entries.map (·.name))
    (unique : (entries.map (·.name)).Nodup) :
    entries.foldl Direction.up.noted ledger =
      { ledger with entries := ledger.entries ++ entries } := by
  induction entries generalizing ledger with
  | nil => simp
  | cons e rest ih =>
    obtain ⟨fresh, others⟩ := List.nodup_cons.1 (List.map_cons ▸ unique)
    have kept : ledger.entries.filter (·.name != e.name) = ledger.entries := by
      refine List.filter_eq_self.2 fun other known => bne_iff_ne.2 ?_
      rintro same
      exact new e List.mem_cons_self (same ▸ List.mem_map_of_mem known)
    have logged : Direction.up.noted ledger e =
        { ledger with entries := ledger.entries ++ [e] } := by
      rw [Direction.noted, log, delete, kept]
    rw [List.foldl_cons, logged, ih _ ?_ others]
    · rw [List.append_assoc, List.singleton_append]
    · intro other later
      rw [List.map_append, List.mem_append, not_or]
      refine ⟨new other (List.mem_cons_of_mem e later), ?_⟩
      rw [List.map_singleton, List.mem_singleton]
      rintro same
      exact fresh (same ▸ List.mem_map_of_mem later)

/-- Entries that are struck out are gone, whatever their order. -/
theorem foldl_noted_down (ledger : MemoryLedger) (entries : List Entry) :
    entries.foldl Direction.down.noted ledger =
      { ledger with
        entries := ledger.entries.filter fun e => decide (e.name ∉ entries.map (·.name)) } := by
  induction entries generalizing ledger with
  | nil => simp
  | cons e rest ih =>
    rw [List.foldl_cons, ih, Direction.noted, delete, List.filter_filter]
    congr 2
    funext other
    rw [Bool.eq_iff_iff]
    simp [and_comm]

end MemoryLedger

/-! ## Numbers of batches -/

/-- The number of a batch is that of its first entry. -/
theorem head?_map_batch {entries : List Entry} {batch : Int64}
    (same : ∀ e ∈ entries, e.batch = batch) (filled : entries ≠ []) :
    entries.head?.map (·.batch) = some batch := by
  rw [List.head?_eq_some_head filled, Option.map_some, same _ (List.head_mem filled)]

/-! ## Ledgers that are told -/

/-- Telling a ledger what was applied or reverted changes what it says accordingly. -/
structure Ledger.Writes (ledger : Ledger σ) (view : σ → MemoryLedger) : Prop where
  log : ∀ s s' name batch, (ledger.log name batch).result s = (.ok (), s') →
    view s' = (view s).log name batch
  delete : ∀ s s' name, (ledger.delete name).result s = (.ok (), s') →
    view s' = (view s).delete name

theorem Ledger.writes_memory : (memory : Ledger (σ × MemoryLedger)).Writes Prod.snd where
  log := by
    rintro s s' name batch ⟨⟩
    rfl
  delete := by
    rintro s s' name ⟨⟩
    rfl

namespace Migrator

/-- What migrations do themselves leaves alone what the ledger says, as do their transactions. -/
structure LeavesAlone (m : Migrator σ) (view : σ → MemoryLedger) : Prop where
  begin : ∀ s s', m.session.begin.result s = (.ok (), s') → view s' = view s
  commit : ∀ s s', m.session.commit.result s = (.ok (), s') → view s' = view s
  steps : ∀ name migration d s s', m.source.resolve name = .ok migration →
    (migration.run m.session d).result s = (.ok (), s') → view s' = view s

/-- A ledger beside the session is left alone. -/
theorem leavesAlone_beside (session : Session σ) (ledger : Ledger (σ × MemoryLedger))
    (source : Source) :
    LeavesAlone { session := session.onFirst, ledger, source } Prod.snd where
  begin s s' begun := (congrArg (fun ended => ended.2.2) begun).symm
  commit s s' committed := (congrArg (fun ended => ended.2.2) committed).symm
  steps := by
    intro name migration d s s' found ran
    have alike : session.onFirst.Alike
        (.keeping fun p => p.2 = s.2) (session.onFirst : Session (σ × MemoryLedger)) :=
      { dialect := rfl
        database := rfl
        select := fun _ _ same => same
        execute := fun _ _ same => same }
    have kept := alike.run (ActionRelation.catches_keeping _) migration d s rfl
    rw [ran] at kept
    exact kept

variable {m : Migrator σ} {view : σ → MemoryLedger} {s s' s₁ s₂ : σ} {d : Direction}

theorem record_eq_ok (writes : m.ledger.Writes view) {e : Entry}
    (h : (m.record d e).result s = (.ok (), s')) : view s' = d.noted (view s) e := by
  cases d with
  | up => exact writes.log s s' e.name e.batch h
  | down => exact writes.delete s s' e.name h

/-- A unit succeeds when it begins, does its work and ends. -/
theorem exists_perform_eq_ok {e : Entry} {migration : Migration}
    (h : (m.perform migration d e).result s = (.ok (), s')) :
    ∃ s₁ s₂, (m.opening migration).result s = (.ok (), s₁) ∧
      (m.work migration d e).result s₁ = (.ok (), s₂) ∧
      (m.finish migration.transactional e.name (.ok ())).result s₂ = (.ok (), s') := by
  rw [result_perform] at h
  rcases opened : (m.opening migration).result s with ⟨e | _, s₁⟩
  · rw [opened] at h
    cases h
  · rw [opened] at h
    dsimp only at h
    rcases worked : (m.work migration d e).result s₁ with ⟨cause | _, s₂⟩
    · -- what fails inside a transaction fails after it as well
      rw [worked] at h
      cases transactional : migration.transactional <;> rw [transactional] at h <;> cases h
    · rw [worked] at h
      exact ⟨s₁, s₂, rfl, worked, h⟩

/-- A unit that succeeds is told to the ledger. -/
theorem perform_eq_ok (writes : m.ledger.Writes view) (alone : m.LeavesAlone view) {e : Entry}
    {migration : Migration} (found : m.source.resolve e.name = .ok migration)
    (h : (m.perform migration d e).result s = (.ok (), s')) : view s' = d.noted (view s) e := by
  obtain ⟨s₁, s₂, opened, worked, finished⟩ := exists_perform_eq_ok h
  obtain ⟨_, s₃, stepped, recorded⟩ := DbM.result_bind_eq_ok_iff.1 worked
  have bracketed : view s₁ = view s ∧ view s' = view s₂ := by
    unfold opening at opened
    unfold finish at finished
    cases transactional : migration.transactional with
    | true =>
      simp only [transactional, if_true] at opened finished
      exact ⟨alone.begin s s₁ opened, alone.commit s₂ s' finished⟩
    | false =>
      simp only [transactional, Bool.false_eq_true, if_false] at opened finished
      obtain ⟨-, rfl⟩ := DbM.result_pure_eq_ok_iff.1 opened
      obtain ⟨-, rfl⟩ := DbM.result_pure_eq_ok_iff.1 finished
      exact ⟨rfl, rfl⟩
  rw [bracketed.2, record_eq_ok writes recorded,
    alone.steps e.name migration d s₁ s₃ found stepped, bracketed.1]

/-- A unit succeeds when its migration is found and performed. -/
theorem exists_unit_eq_ok {e : Entry} {u : UnitOutcome}
    (h : (m.unit false d e).result s = (.ok u, s')) :
    ∃ migration, m.source.resolve e.name = .ok migration ∧ u = { name := e.name, state := d.done } ∧
      (m.perform migration d e).result s = (.ok (), s') := by
  unfold unit at h
  cases found : m.source.resolve e.name with
  | error cause =>
    rw [found] at h
    cases h
  | ok migration =>
    rw [found] at h
    simp only [Bool.false_eq_true, if_false] at h
    obtain ⟨_, s₁, performed, h⟩ := DbM.result_bind_eq_ok_iff.1 h
    obtain ⟨rfl, rfl⟩ := DbM.result_pure_eq_ok_iff.1 h
    exact ⟨migration, rfl, rfl, performed⟩

/-- Units that succeed are told to the ledger one after the other. -/
theorem exists_units_eq_ok (writes : m.ledger.Writes view) (alone : m.LeavesAlone view)
    {entries : List Entry} {outcomes : List UnitOutcome}
    (h : (m.units false d entries).result s = (.ok outcomes, s')) :
    outcomes = entries.map (fun e => { name := e.name, state := d.done }) ∧
      view s' = entries.foldl d.noted (view s) := by
  induction entries generalizing s outcomes with
  | nil =>
    obtain ⟨rfl, rfl⟩ := DbM.result_pure_eq_ok_iff.1 h
    exact ⟨rfl, rfl⟩
  | cons e rest ih =>
    obtain ⟨first, s₁, unit, h⟩ := DbM.result_bind_eq_ok_iff.1 h
    obtain ⟨others, s₂, done, h⟩ := DbM.result_bind_eq_ok_iff.1 h
    obtain ⟨rfl, rfl⟩ := DbM.result_pure_eq_ok_iff.1 h
    obtain ⟨rfl, told⟩ := ih done
    obtain ⟨migration, found, rfl, performed⟩ := exists_unit_eq_ok unit
    refine ⟨rfl, ?_⟩
    rw [told, perform_eq_ok writes alone found performed, List.foldl_cons]

/-! ## Runs and rollbacks -/

/-- What a plan is carried out to, when it succeeds. -/
theorem exists_carryOut_eq_ok {plan : DbM σ (List Entry)} {o : Outcome}
    (h : (plan >>= m.carryOut d).result s = (.ok o, s')) :
    ∃ entries s₁ outcomes, plan.result s = (.ok entries, s₁) ∧
      (m.units false d entries).result s₁ = (.ok outcomes, s') ∧
      o = { batch := entries.head?.map (·.batch), pretend := false, units := outcomes } := by
  obtain ⟨entries, s₁, planned, h⟩ := DbM.result_bind_eq_ok_iff.1 h
  obtain ⟨outcomes, s₂, done, h⟩ := DbM.result_bind_eq_ok_iff.1 h
  obtain ⟨rfl, rfl⟩ := DbM.result_pure_eq_ok_iff.1 h
  exact ⟨entries, s₁, outcomes, planned, done, rfl⟩

/-- A rollback undid a run. The ledger says what it said before, and is there. What the rollback
reverted is what the run applied, of the same batch: the history of the run has the units in their
order, behind at most the creation of the ledger, and that of the rollback has them in the reverse
of it. -/
structure Undoes (m : Migrator σ) (view : σ → MemoryLedger) (s s₁ s₂ : σ)
    (applied reverted : Outcome) : Prop where
  ledger : view s₂ = { view s with installed := true }
  batch : reverted.batch = applied.batch
  reverses : ∃ entries up down,
    m.Completed .up entries up ∧ m.Completed .down entries.reverse down ∧
    applied.units = entries.map (fun e => { name := e.name, state := .applied }) ∧
    reverted.units = entries.reverse.map (fun e => { name := e.name, state := .reverted }) ∧
    (∃ prelude : List Event, (∀ e ∈ prelude, e.IsCreation) ∧
      ∀ earlier, (m.observed.run false).result (s, earlier) =
        (.ok applied, (s₁, earlier ++ (prelude ++ up)))) ∧
    ∀ earlier, (m.observed.rollback false).result (s₁, earlier) =
      (.ok reverted, (s₂, earlier ++ down))

theorem map_name_batched (names : List String) (batch : Int64) :
    (names.map fun name => ({ name, batch } : Entry)).map (·.name) = names := by
  rw [List.map_map]
  exact List.map_id names

/-- What a run that succeeds leaves behind: all that was pending, as the next batch. There is one if
anything was pending. -/
theorem exists_run_eq_ok (reads : m.ledger.Reads view) (writes : m.ledger.Writes view)
    (alone : m.LeavesAlone view) (ordered : m.source.Ordered) {applied : Outcome}
    (ran : (m.run false).result s = (.ok applied, s₁)) :
    ∃ names entries up prelude, m.source.discover = .ok names ∧
      entries = (pendingNames names (view s)).map
        (fun name => { name, batch := (view s).lastBatch + 1 }) ∧
      (pendingNames names (view s) ≠ [] → (view s).lastBatch < Int64.maxValue) ∧
      view s₁ = { installed := true, entries := (view s).entries ++ entries } ∧
      applied.batch = entries.head?.map (·.batch) ∧
      applied.units = entries.map (fun e => { name := e.name, state := .applied }) ∧
      m.Completed .up entries up ∧ (∀ e ∈ prelude, e.IsCreation) ∧
      ∀ earlier, (m.observed.run false).result (s, earlier) =
        (.ok applied, (s₁, earlier ++ (prelude ++ up))) := by
  rw [run_eq] at ran
  obtain ⟨entries, s₀, outcomes, planned, done, rfl⟩ := exists_carryOut_eq_ok ran
  obtain ⟨names, found, rfl, below, there⟩ := plan_eq_ok reads planned
  obtain ⟨rfl, told⟩ := exists_units_eq_ok writes alone done
  obtain ⟨up, completed, observed⟩ := exists_completed done
  have plans : Observes Event.IsCreation m.plan m.observed.plan :=
    m.observes_plan fun done => ⟨done, rfl⟩
  obtain ⟨prelude, creations, plans⟩ := plans s
  refine ⟨names, _, up, prelude, found, rfl, below, ?_, rfl, rfl, completed, creations, ?_⟩
  · rw [told, there, MemoryLedger.foldl_noted_up]
    · intro e he
      obtain ⟨name, pending, rfl⟩ := List.mem_map.1 he
      exact of_decide_eq_true (List.mem_filter.1 pending).2
    · rw [map_name_batched]
      exact ((ordered names found).filter _).imp Std.ne_of_lt
  · intro earlier
    rw [run_eq, DbM.result_bind, plans, planned]
    simp only [carryOut, DbM.result_bind, observed, List.append_assoc]
    rfl

/-- What a rollback that succeeds leaves behind: all but the last batch. -/
theorem exists_rollback_eq_ok (reads : m.ledger.Reads view) (writes : m.ledger.Writes view)
    (alone : m.LeavesAlone view) (there : (view s).installed = true) {reverted : Outcome}
    (rolled : (m.rollback false).result s = (.ok reverted, s')) :
    ∃ down, view s' = (view s).last.foldl Direction.down.noted (view s) ∧
      reverted.batch = (view s).last.head?.map (·.batch) ∧
      reverted.units = (view s).last.map (fun e => { name := e.name, state := .reverted }) ∧
      m.Completed .down (view s).last down ∧
      ∀ earlier, (m.observed.rollback false).result (s, earlier) =
        (.ok reverted, (s', earlier ++ down)) := by
  rw [rollback_eq] at rolled
  obtain ⟨entries, s₁, outcomes, planned, done, rfl⟩ := exists_carryOut_eq_ok rolled
  obtain ⟨rfl, same⟩ := rollbackPlan_eq_ok reads planned
  rw [if_pos there] at done planned ⊢
  obtain ⟨rfl, told⟩ := exists_units_eq_ok writes alone done
  obtain ⟨down, completed, observed⟩ := exists_completed done
  refine ⟨down, told.trans (by rw [same]), rfl, rfl, completed, ?_⟩
  intro earlier
  rw [rollback_eq, DbM.result_bind, m.observes_rollbackPlan.result_silent planned earlier]
  simp only [carryOut, DbM.result_bind, observed]
  rfl

variable {applied reverted : Outcome}

/-- A rollback undoes the run before it, if something was pending then. -/
theorem rollback_undoes_run (reads : m.ledger.Reads view) (writes : m.ledger.Writes view)
    (alone : m.LeavesAlone view) (ordered : m.source.Ordered)
    (pending : ∀ names, m.source.discover = .ok names → pendingNames names (view s) ≠ [])
    (ran : (m.run false).result s = (.ok applied, s₁))
    (rolled : (m.rollback false).result s₁ = (.ok reverted, s₂)) :
    m.Undoes view s s₁ s₂ applied reverted := by
  obtain ⟨names, entries, up, prelude, found, known, next, full, first, units, ups, creations,
    runs⟩ := exists_run_eq_ok reads writes alone ordered ran
  obtain ⟨down, told, last, units', downs, rolls⟩ :=
    exists_rollback_eq_ok reads writes alone (by rw [full]) rolled
  have filled : entries ≠ [] := by
    rw [known, ne_eq, List.map_eq_nil_iff]
    exact pending names found
  have same : ∀ e ∈ entries, e.batch = (view s).lastBatch + 1 := by
    intro e he
    rw [known] at he
    obtain ⟨name, -, rfl⟩ := List.mem_map.1 he
    rfl
  have backwards : (view s₁).last = entries.reverse := by
    rw [full]
    have greater : ∀ e ∈ (view s).entries, e.batch < (view s).lastBatch + 1 :=
      fun e he => MemoryLedger.lt_nextBatch (next (pending names found)) he
    refine MemoryLedger.last_append _ greater same ?_ filled
    rw [known, List.pairwise_map]
    exact (ordered names found).filter _
  have gone : (view s₁).entries.filter
      (fun e => decide (e.name ∉ entries.reverse.map (·.name))) = (view s).entries := by
    rw [full, List.filter_append, known, ← List.map_reverse, map_name_batched,
      List.filter_eq_self.2, List.filter_eq_nil_iff.2, List.append_nil]
    · intro e he
      obtain ⟨name, new, rfl⟩ := List.mem_map.1 he
      simpa using new
    · intro e he
      refine decide_eq_true fun new => ?_
      rw [List.mem_reverse] at new
      exact of_decide_eq_true (List.mem_filter.1 new).2 (List.mem_map_of_mem he)
  rw [backwards] at told last units' downs
  refine ⟨?_, ?_, entries, up, down, ups, downs, units, units', ⟨prelude, creations, runs⟩, rolls⟩
  · rw [told, MemoryLedger.foldl_noted_down, gone, full]
  · rw [last, first, head?_map_batch same filled,
      head?_map_batch (fun e he => same e (List.mem_reverse.1 he)) (by simpa using filled)]

/-- A script by which nothing fails, and a ledger that records users. -/
def usersRecorded : Script × MemoryLedger :=
  ({}, { installed := true, entries := [{ name := "1_users", batch := 3 }] })

/-- The state after a run of what is pending behind users. -/
def tagsApplied : Script × MemoryLedger := ((tagging.run false).result usersRecorded).2

/-- Posts and tags are applied behind users, and reverted from tags on. -/
theorem rollback_undoes_run_tagging :
    ∃ applied reverted s₂,
      (tagging.run false).result usersRecorded = (.ok applied, tagsApplied) ∧
        (tagging.rollback false).result tagsApplied = (.ok reverted, s₂) ∧
        tagging.Undoes Prod.snd usersRecorded tagsApplied s₂ applied reverted ∧
        applied.units.map (·.name) = ["2_posts", "3_tags"] ∧
        reverted.units.map (·.name) = ["3_tags", "2_posts"] := by
  have recorded : tagsApplied.2 =
      { installed := true
        entries :=
          [{ name := "1_users", batch := 3 }] ++
            [{ name := "2_posts", batch := 4 }, { name := "3_tags", batch := 4 }] } := by
    decide +kernel
  have last : tagsApplied.2.last =
      [{ name := "3_tags", batch := 4 }, { name := "2_posts", batch := 4 }] := by
    rw [recorded]
    exact MemoryLedger.last_append 4 (by decide) (by decide) (by decide) (by decide)
  have rolls := result_rollback_of_last (m := tagging) rfl (by rw [recorded]) last
  obtain ⟨applied, ran, names⟩ := Except.exists_of_map_eq_ok
    (by decide +kernel : ((tagging.run false).result usersRecorded).1.map
      (fun o => o.units.map (·.name)) = .ok ["2_posts", "3_tags"])
  obtain ⟨reverted, rolled, names'⟩ := Except.exists_of_map_eq_ok
    (by rw [rolls]; decide +kernel : ((tagging.rollback false).result tagsApplied).1.map
      (fun o => o.units.map (·.name)) = .ok ["3_tags", "2_posts"])
  have ran : (tagging.run false).result usersRecorded = (.ok applied, tagsApplied) :=
    Prod.ext ran rfl
  have undone := rollback_undoes_run (m := tagging) Ledger.reads_memory Ledger.writes_memory
    (leavesAlone_beside _ _ _) ordered_taggingSource (by rintro found ⟨⟩; decide) ran
    (Prod.ext rolled rfl)
  exact ⟨applied, reverted, _, ran, Prod.ext rolled rfl, undone, names, names'⟩

end Migrator

end SchemaShift
