import SchemaShift.Ledger.Database
import SchemaShift.Ledger.Memory
import SchemaShift.Proofs.Session.Actions

/-!
# What ledgers say

A ledger is read as a ledger in memory that it stands for. Its entries come by batch and name, so
the last entry has the greatest batch, and no batch that is recorded has the number of the next one.

Results:
* `pairwise_sorted`: entries come in their order.
* `batch_le_lastBatch`, `lt_nextBatch`: the last batch is the greatest, the next one is greater.
* `mem_last_iff_greatest`, `pairwise_last`: the last batch, greatest name first.
* `reads_memory`, `reads_database`: a ledger in memory says what it stands for, and one in a
  database what its table stores.
-/

namespace SchemaShift

/-! ## The order of entries -/

namespace Entry

theorem le_iff {a b : Entry} :
    a.le b = true ↔ a.batch < b.batch ∨ a.batch = b.batch ∧ a.name ≤ b.name := by
  simp [le]

theorem le_trans (a b c : Entry) (hab : a.le b = true) (hbc : b.le c = true) :
    a.le c = true := by
  rw [le_iff] at hab hbc ⊢
  rcases hab with hab | ⟨hab, names⟩ <;> rcases hbc with hbc | ⟨hbc, names'⟩
  · exact .inl (Int64.lt_trans hab hbc)
  · exact .inl (hbc ▸ hab)
  · exact .inl (hab ▸ hbc)
  · exact .inr ⟨hab.trans hbc, String.le_trans names names'⟩

theorem le_total (a b : Entry) : (a.le b || b.le a) = true := by
  rw [Bool.or_eq_true, le_iff, le_iff]
  by_cases same : a.batch = b.batch
  · rcases String.le_total a.name b.name with names | names
    · exact .inl (.inr ⟨same, names⟩)
    · exact .inr (.inr ⟨same.symm, names⟩)
  · rcases Int64.lt_or_lt_of_ne same with less | less
    · exact .inl (.inl less)
    · exact .inr (.inl less)

theorem batch_le_of_le {a b : Entry} (h : a.le b = true) : a.batch ≤ b.batch := by
  rcases le_iff.1 h with less | ⟨same, -⟩
  · exact Int64.le_of_lt less
  · rw [same]
    exact Int64.le_refl _

end Entry

/-- A number that is not the greatest is less than the one behind it. -/
theorem lt_add_one_of_lt_maxValue {n : Int64} (h : n < Int64.maxValue) : n < n + 1 := by
  rw [Int64.lt_iff_toInt_lt] at h ⊢
  have least := Int64.le_toInt n
  have most : Int64.maxValue.toInt = 2 ^ 63 - 1 := by decide
  have one : (1 : Int64).toInt = 1 := by decide
  rw [Int64.toInt_add, one, Int.bmod_eq_of_le (by omega) (by omega)]
  omega

/-! ## Ledgers in memory -/

namespace MemoryLedger

variable {m : MemoryLedger}

theorem mem_sorted_iff {e : Entry} : e ∈ m.sorted ↔ e ∈ m.entries := List.mem_mergeSort

theorem pairwise_sorted (m : MemoryLedger) : m.sorted.Pairwise fun a b => a.le b = true :=
  List.pairwise_mergeSort Entry.le_trans Entry.le_total m.entries

theorem lastBatch_of_empty (h : m.entries = []) : m.lastBatch = 0 := by
  rw [lastBatch, sorted, h, List.mergeSort_nil]
  rfl

/-- The batch of a ledger with entries is that of the last one. -/
theorem exists_batch_eq_lastBatch (h : m.entries ≠ []) :
    ∃ e ∈ m.entries, e.batch = m.lastBatch := by
  have filled : m.sorted ≠ [] := by
    intro nothing
    obtain ⟨e, he⟩ := List.exists_mem_of_ne_nil _ h
    rw [← mem_sorted_iff, nothing] at he
    cases he
  refine ⟨m.sorted.getLast filled, mem_sorted_iff.1 (List.getLast_mem filled), ?_⟩
  rw [lastBatch, List.getLast?_eq_some_getLast filled]
  rfl

/-- The last batch is the greatest. -/
theorem batch_le_lastBatch {e : Entry} (h : e ∈ m.entries) : e.batch ≤ m.lastBatch := by
  obtain ⟨before, after, split⟩ := List.append_of_mem (mem_sorted_iff.2 h)
  have ordered := m.pairwise_sorted
  rw [split, List.pairwise_append] at ordered
  rw [lastBatch, split, List.getLast?_append,
    List.getLast?_eq_some_getLast (List.cons_ne_nil e after), Option.some_or]
  show e.batch ≤ ((e :: after).getLast (List.cons_ne_nil e after)).batch
  rcases List.mem_cons.1 (List.getLast_mem (List.cons_ne_nil e after)) with same | later
  · rw [same]
    exact Int64.le_refl _
  · exact Entry.batch_le_of_le (List.rel_of_pairwise_cons ordered.2.1 later)

/-- The last batch is not the greatest number if no batch is. -/
theorem lastBatch_lt_maxValue (bounded : ∀ e ∈ m.entries, e.batch < Int64.maxValue) :
    m.lastBatch < Int64.maxValue := by
  by_cases empty : m.entries = []
  · rw [lastBatch_of_empty empty]
    decide
  · obtain ⟨last, hlast, same⟩ := exists_batch_eq_lastBatch empty
    rw [← same]
    exact bounded last hlast

/-- The number behind the last batch is greater than all that are recorded. -/
theorem lt_nextBatch (below : m.lastBatch < Int64.maxValue) {e : Entry} (h : e ∈ m.entries) :
    e.batch < m.lastBatch + 1 :=
  Int64.lt_of_le_of_lt (batch_le_lastBatch h) (lt_add_one_of_lt_maxValue below)

theorem mem_last_iff {e : Entry} : e ∈ m.last ↔ e ∈ m.entries ∧ e.batch = m.lastBatch := by
  rw [last, List.mem_reverse, List.mem_filter, mem_sorted_iff, beq_iff_eq]

/-- The last batch is what is recorded with the greatest number. -/
theorem mem_last_iff_greatest {e : Entry} :
    e ∈ m.last ↔ e ∈ m.entries ∧ ∀ other ∈ m.entries, other.batch ≤ e.batch := by
  rw [mem_last_iff]
  constructor
  · rintro ⟨he, same⟩
    refine ⟨he, ?_⟩
    intro other hother
    rw [same]
    exact batch_le_lastBatch hother
  · rintro ⟨he, greatest⟩
    obtain ⟨last, hlast, same⟩ := exists_batch_eq_lastBatch (List.ne_nil_of_mem he)
    refine ⟨he, Int64.le_antisymm (batch_le_lastBatch he) ?_⟩
    rw [← same]
    exact greatest last hlast

/-- Names in a batch that are recorded once come in strict order, greatest first. -/
theorem pairwise_last (unique : (m.entries.map (·.name)).Nodup) :
    m.last.Pairwise fun a b => b.name < a.name := by
  have once : m.sorted.Pairwise fun a b => a.name ≠ b.name :=
    List.pairwise_map.1 (((List.mergeSort_perm m.entries Entry.le).map _).nodup_iff.2 unique)
  rw [last, List.pairwise_reverse, List.pairwise_filter]
  refine (m.pairwise_sorted.and once).imp ?_
  rintro a b ⟨ordered, apart⟩ first second
  rw [beq_iff_eq] at first second
  rcases Entry.le_iff.1 ordered with less | ⟨-, names⟩
  · rw [first, second] at less
    exact absurd less Int64.lt_irrefl
  · exact Std.lt_of_le_of_ne names apart

end MemoryLedger

/-! ## Reading -/

namespace Ledger

variable {σ : Type}

/-- Asking a ledger says what the ledger in memory says that it stands for, and changes nothing.
A new ledger is as full as it was before. -/
structure Reads (ledger : Ledger σ) (view : σ → MemoryLedger) : Prop where
  installed : ∀ s s' there, ledger.installed.result s = (.ok there, s') →
    there = (view s).installed ∧ view s' = view s
  create : ∀ s s', ledger.create.result s = (.ok (), s') →
    view s' = { view s with installed := true }
  ran : ∀ s s' names, ledger.ran.result s = (.ok names, s') →
    names = (view s).sorted.map (·.name) ∧ view s' = view s
  entries : ∀ s s' es, ledger.entries.result s = (.ok es, s') →
    es = (view s).sorted ∧ view s' = view s
  last : ∀ s s' es, ledger.last.result s = (.ok es, s') → es = (view s).last ∧ view s' = view s
  lastBatch : ∀ s s' n, ledger.lastBatch.result s = (.ok n, s') →
    n = (view s).lastBatch ∧ view s' = view s

/-- A ledger in memory says what it stands for. -/
theorem reads_memory : (memory : Ledger (σ × MemoryLedger)).Reads Prod.snd where
  installed := by
    rintro s s' there ⟨⟩
    exact ⟨rfl, rfl⟩
  create := by
    rintro s s' ⟨⟩
    rfl
  ran := by
    rintro s s' names ⟨⟩
    exact ⟨rfl, rfl⟩
  entries := by
    rintro s s' es ⟨⟩
    exact ⟨rfl, rfl⟩
  last := by
    rintro s s' es ⟨⟩
    exact ⟨rfl, rfl⟩
  lastBatch := by
    rintro s s' n ⟨⟩
    exact ⟨rfl, rfl⟩

/-- A database that answers the queries for a ledger from the table that stores it. -/
structure Stores (session : Session σ) (table : String) (view : σ → MemoryLedger) : Prop where
  tableExists : ∀ s s' rows,
    (session.select (Query.tableExists session.dialect session.database table)).result s =
        (.ok rows, s') →
      rows.isEmpty = !(view s).installed ∧ view s' = view s
  build : ∀ s s', ((blueprint table).build session).result s = (.ok (), s') →
    view s' = { view s with installed := true }
  allEntries : ∀ s s' rows,
    (session.select (Query.allEntries session.dialect table)).result s = (.ok rows, s') →
      rows.map entryOf = (view s).sorted ∧ view s' = view s
  batchEntries : ∀ s s' batch rows,
    (session.select (Query.batchEntries session.dialect table batch)).result s = (.ok rows, s') →
      rows.map entryOf = ((view s).sorted.filter (·.batch == batch)).reverse ∧ view s' = view s
  lastBatch : ∀ s s' rows,
    (session.select (Query.lastBatch session.dialect table)).result s = (.ok rows, s') →
      (rows.head?.bind (·.intAt? 0)).getD 0 = (view s).lastBatch ∧ view s' = view s

/-- A ledger in a database says what its table stores. -/
theorem reads_database {session : Session σ} {table : String} {view : σ → MemoryLedger}
    (stores : Stores session table view) : (database session table).Reads view where
  installed := by
    intro s s' there h
    obtain ⟨rows, s₁, asked, h⟩ := DbM.result_bind_eq_ok_iff.1 h
    obtain ⟨rfl, rfl⟩ := DbM.result_pure_eq_ok_iff.1 h
    obtain ⟨same, kept⟩ := stores.tableExists s s₁ rows asked
    rw [same, Bool.not_not]
    exact ⟨rfl, kept⟩
  create := by
    intro s s' h
    obtain ⟨_, s₁, checked, h⟩ := DbM.result_bind_eq_ok_iff.1 h
    obtain ⟨-, rfl⟩ := DbM.result_ofExcept_eq_ok_iff.1 checked
    exact stores.build s s' h
  ran := by
    intro s s' names h
    obtain ⟨rows, s₁, asked, h⟩ := DbM.result_bind_eq_ok_iff.1 h
    obtain ⟨rfl, rfl⟩ := DbM.result_pure_eq_ok_iff.1 h
    obtain ⟨same, kept⟩ := stores.allEntries s s₁ rows asked
    rw [← same, List.map_map]
    exact ⟨rfl, kept⟩
  entries := by
    intro s s' es h
    obtain ⟨rows, s₁, asked, h⟩ := DbM.result_bind_eq_ok_iff.1 h
    obtain ⟨rfl, rfl⟩ := DbM.result_pure_eq_ok_iff.1 h
    exact stores.allEntries s s₁ rows asked
  last := by
    intro s s' es h
    obtain ⟨batch, s₁, counted, h⟩ := DbM.result_bind_eq_ok_iff.1 h
    obtain ⟨counts, s₂, asked, counted⟩ := DbM.result_bind_eq_ok_iff.1 counted
    obtain ⟨rfl, rfl⟩ := DbM.result_pure_eq_ok_iff.1 counted
    obtain ⟨same, kept⟩ := stores.lastBatch s s₂ counts asked
    obtain ⟨rows, s₃, listed, h⟩ := DbM.result_bind_eq_ok_iff.1 h
    obtain ⟨rfl, rfl⟩ := DbM.result_pure_eq_ok_iff.1 h
    obtain ⟨entries, kept'⟩ := stores.batchEntries s₂ s₃ _ rows listed
    rw [entries, same, kept', kept]
    exact ⟨rfl, rfl⟩
  lastBatch := by
    intro s s' n h
    obtain ⟨rows, s₁, asked, h⟩ := DbM.result_bind_eq_ok_iff.1 h
    obtain ⟨rfl, rfl⟩ := DbM.result_pure_eq_ok_iff.1 h
    exact stores.lastBatch s s₁ rows asked

end Ledger

end SchemaShift
