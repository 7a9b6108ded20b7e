import Mathlib.Data.List.Sort
import SchemaShift.Proofs.Ledger.Keeping
import SchemaShift.Proofs.Ledger.Steady
import SchemaShift.Proofs.Migrator.Discovery
import SchemaShift.Proofs.Migrator.Faithful

/-!
# What is told of migrations

The status of migrations merges the names that are discovered with those that are recorded. What is
pending is found another way: the names that are discovered are filtered by those that are recorded.
Where every name is recorded once, the two agree.

Results:
* `tells_statusOf`: a row tells what is discovered and what is recorded of its name.
* `status_and_pending_agree`: the rows are in order, one for each name, and the pending ones are
  what is pending.
-/

namespace SchemaShift

/-! ## Rows -/

/-- What a row tells of its name, given the names that are discovered and what is recorded: whether
it is applied or still pending, in which batch it is recorded, and whether it is missing. Nothing is
recorded of what is pending, so it has no batch. -/
structure MigrationStatus.Tells (row : MigrationStatus) (discovered : List String)
    (recorded : List Entry) : Prop where
  applied : row.state = .applied ↔ row.name ∈ recorded.map (·.name)
  pending : row.state = .pending ↔
    row.name ∈ discovered ∧ row.name ∉ recorded.map (·.name)
  batch : ∀ batch, row.batch = some batch ↔ { name := row.name, batch } ∈ recorded
  missing : row.missing = true ↔ row.name ∈ recorded.map (·.name) ∧ row.name ∉ discovered

/-- The order of what is recorded does not matter. -/
theorem MigrationStatus.Tells.of_perm {row : MigrationStatus} {discovered : List String}
    {recorded recorded' : List Entry} (h : row.Tells discovered recorded)
    (perm : recorded.Perm recorded') : row.Tells discovered recorded' where
  applied := h.applied.trans (perm.map _).mem_iff
  pending := h.pending.trans (and_congr_right fun _ => not_congr (perm.map _).mem_iff)
  batch batch := (h.batch batch).trans perm.mem_iff
  missing := h.missing.trans (and_congr_left fun _ => (perm.map _).mem_iff)

namespace Migrator

variable {discovered : List String} {recorded : List Entry} {name : String}

@[simp] theorem name_statusOf : (statusOf discovered recorded name).name = name := by
  unfold statusOf
  split <;> rfl

/-- Where every name is recorded once, the search from the end finds the entry of a name. -/
theorem find?_reverse_eq_some_iff (unique : (recorded.map (·.name)).Nodup) {entry : Entry} :
    recorded.reverse.find? (·.name == name) = some entry ↔
      entry ∈ recorded ∧ entry.name = name := by
  constructor
  · intro found
    exact ⟨List.mem_reverse.1 (List.mem_of_find?_eq_some found),
      by simpa using List.find?_some found⟩
  · rintro ⟨mem, rfl⟩
    cases found : recorded.reverse.find? (·.name == entry.name) with
    | none =>
      have apart := List.find?_eq_none.1 found entry (List.mem_reverse.2 mem)
      simp at apart
    | some other =>
      have mem' := List.mem_reverse.1 (List.mem_of_find?_eq_some found)
      have named : other.name = entry.name := by simpa using List.find?_some found
      rw [List.inj_on_of_nodup_map unique mem' mem named]

/-- A row tells what is discovered and what is recorded of its name. -/
theorem tells_statusOf (unique : (recorded.map (·.name)).Nodup)
    (known : name ∈ discovered ∨ name ∈ recorded.map (·.name)) :
    (statusOf discovered recorded name).Tells discovered recorded := by
  unfold statusOf
  split
  · rename_i entry found
    obtain ⟨mem, rfl⟩ := (find?_reverse_eq_some_iff unique).1 found
    have listed : entry.name ∈ recorded.map (·.name) := List.mem_map_of_mem mem
    refine ⟨by simp [listed], by simp [listed], fun batch => ⟨?_, ?_⟩, by simp [listed]⟩
    · intro same
      cases same
      exact mem
    · intro other
      have same := found.symm.trans ((find?_reverse_eq_some_iff unique).2 ⟨other, rfl⟩)
      rw [Option.some_inj.1 same]
  · rename_i absent
    have unlisted : name ∉ recorded.map (·.name) := by
      intro listed
      obtain ⟨entry, mem, named⟩ := List.mem_map.1 listed
      rw [(find?_reverse_eq_some_iff unique).2 ⟨mem, named⟩] at absent
      cases absent
    refine ⟨by simp [unlisted], by simp [unlisted, known.resolve_right unlisted],
      fun batch => ⟨?_, ?_⟩, by simp [unlisted]⟩
    · intro same
      cases same
    · intro mem
      exact absurd (List.mem_map_of_mem mem) unlisted

end Migrator

/-! ## Ledgers -/

namespace Ledger

variable {σ : Type}

/-- In the given states a ledger says whether it is there, and if it is, what it records. -/
structure Lists (ledger : Ledger σ) (states : σ → Prop) (kept : MemoryLedger) : Prop where
  installed : ledger.installed.Always states (.ok kept.installed)
  ran : kept.installed = true → ledger.ran.Always states (.ok (kept.sorted.map (·.name)))
  entries : kept.installed = true → ledger.entries.Always states (.ok kept.sorted)

/-- A ledger that keeps what it is told lists it, be it in memory or in a database. -/
theorem Keeps.lists {ledger : Ledger σ} {states : σ → Prop} {view : σ → MemoryLedger}
    (keeps : ledger.Keeps states view) (kept : MemoryLedger) :
    ledger.Lists (fun s => states s ∧ view s = kept) kept where
  installed := by
    rintro s ⟨hs, rfl⟩
    exact keeps.installed s hs
  ran := by
    rintro - s ⟨hs, rfl⟩
    exact keeps.ran s hs
  entries := by
    rintro - s ⟨hs, rfl⟩
    exact keeps.entries s hs

end Ledger

/-! ## Status -/

namespace Migrator

variable {σ : Type} {m : Migrator σ} {states : σ → Prop} {kept : MemoryLedger}

theorem always_recorded (lists : m.ledger.Lists states kept) (well : kept.WellKept) :
    m.recorded.Always states (.ok kept.sorted) := by
  refine lists.installed.bind ?_
  cases there : kept.installed with
  | true => exact lists.entries there
  | false =>
    rw [MemoryLedger.sorted_eq_nil_iff.2 (well.nowhere there)]
    exact .pure []

theorem always_ran (lists : m.ledger.Lists states kept) (well : kept.WellKept) :
    m.ran.Always states (.ok (kept.sorted.map (·.name))) := by
  refine lists.installed.bind ?_
  cases there : kept.installed with
  | true => exact lists.ran there
  | false =>
    rw [MemoryLedger.sorted_eq_nil_iff.2 (well.nowhere there)]
    exact .pure []

/-- The names of pending rows are those that are discovered and not recorded. -/
theorem map_name_filter_pending {names : List String} {rows : List MigrationStatus}
    {recorded : List Entry} (ordered : names.Pairwise (· < ·))
    (increasing : (rows.map (·.name)).Pairwise (· < ·))
    (covered : ∀ name ∈ names, name ∈ rows.map (·.name))
    (tells : ∀ row ∈ rows, row.Tells names recorded) :
    (rows.filter (·.state == .pending)).map (·.name) =
      names.filter fun name => !(recorded.map (·.name)).contains name := by
  have kept : ((rows.filter (·.state == .pending)).map (·.name)).Pairwise (· < ·) :=
    increasing.sublist (List.filter_sublist.map _)
  refine kept.eq_of_mem_iff (ordered.filter _) fun name => ?_
  rw [List.mem_filter, List.mem_map]
  constructor
  · rintro ⟨row, mem, rfl⟩
    obtain ⟨mem, pending⟩ := List.mem_filter.1 mem
    have told := (tells row mem).pending.1 (beq_iff_eq.1 pending)
    exact ⟨told.1, by simpa using told.2⟩
  · rintro ⟨found, unrecorded⟩
    obtain ⟨row, mem, rfl⟩ := List.mem_map.1 (covered name found)
    have pending := (tells row mem).pending.2 ⟨found, by simpa using unrecorded⟩
    exact ⟨row, List.mem_filter.2 ⟨mem, beq_iff_eq.2 pending⟩, rfl⟩

/-- The status has one row for each name that is discovered or recorded, in order, and each row
tells what is discovered and what is recorded of its name. What is pending is what its pending rows
name. -/
theorem status_and_pending_agree {names : List String} (lists : m.ledger.Lists states kept)
    (well : kept.WellKept) (found : m.source.discover = .ok names)
    (ordered : names.Pairwise (· < ·)) :
    ∃ rows, m.status.Always states (.ok rows) ∧
      m.pending.Always states (.ok ((rows.filter (·.state == .pending)).map (·.name))) ∧
      (rows.map (·.name)).Pairwise (· < ·) ∧
      (∀ name, name ∈ rows.map (·.name) ↔
        name ∈ names ∨ name ∈ kept.entries.map (·.name)) ∧
      ∀ row ∈ rows, row.Tells names kept.entries := by
  have recorded := always_recorded lists well
  have unique := MemoryLedger.nodup_sorted well.unique
  have perm : kept.sorted.Perm kept.entries := List.mergeSort_perm _ _
  let all := sortedNames (names ++ kept.sorted.map (·.name))
  have known : ∀ name, name ∈ all ↔ name ∈ names ∨ name ∈ kept.sorted.map (·.name) := by
    intro name
    rw [mem_sortedNames_iff, List.mem_append]
  have named : (all.map (statusOf names kept.sorted)).map (·.name) = all := by
    simp [Function.comp_def]
  have tells : ∀ row ∈ all.map (statusOf names kept.sorted), row.Tells names kept.sorted := by
    intro row mem
    obtain ⟨name, listed, rfl⟩ := List.mem_map.1 mem
    exact tells_statusOf unique ((known name).1 listed)
  have increasing : all.Pairwise (· < ·) := pairwise_sortedNames _
  refine ⟨all.map (statusOf names kept.sorted), ?_, ?_, ?_, ?_, ?_⟩
  · unfold status
    rw [found]
    exact (DbM.Always.ofExcept _).bind (recorded.bind (.pure _))
  · rw [map_name_filter_pending ordered (by rwa [named]) ?_ tells]
    · unfold pending
      rw [found]
      exact (always_ran lists well).bind ((DbM.Always.ofExcept _).bind (.pure _))
    · intro name mem
      rw [named]
      exact (known name).2 (.inl mem)
  · rwa [named]
  · intro name
    rw [named, known, (perm.map _).mem_iff]
  · exact fun row mem => (tells row mem).of_perm perm

/-- A ledger that records users, and something that is not found any more. -/
def legacyRecorded : MemoryLedger where
  installed := true
  entries := [{ name := "1_users", batch := 2 }, { name := "0_legacy", batch := 1 }]

/-- Users are applied, posts and tags are pending, and what is not found is told of too. -/
theorem status_and_pending_agree_tagging :
    ∃ rows, tagging.status.Always (fun p => True ∧ p.2 = legacyRecorded) (.ok rows) ∧
      tagging.pending.Always (fun p => True ∧ p.2 = legacyRecorded)
        (.ok ((rows.filter (·.state == .pending)).map (·.name))) ∧
      rows.map (·.name) = ["0_legacy", "1_users", "2_posts", "3_tags"] ∧
      ∀ row ∈ rows, row.Tells ["1_users", "2_posts", "3_tags"] legacyRecorded.entries := by
  have keeps : tagging.ledger.Keeps (fun _ => True) Prod.snd :=
    Ledger.keeps_memory fun _ _ _ _ => trivial
  have found : tagging.source.discover = .ok ["1_users", "2_posts", "3_tags"] := rfl
  obtain ⟨rows, status, pending, increasing, known, tells⟩ :=
    status_and_pending_agree (keeps.lists legacyRecorded) ⟨by decide, by decide⟩ found (by decide)
  refine ⟨rows, status, pending, ?_, tells⟩
  refine increasing.eq_of_mem_iff (by decide) fun name => (known name).trans ?_
  simp only [legacyRecorded, List.map_cons, List.map_nil, List.mem_cons, List.not_mem_nil, or_false]
  tauto

end Migrator

end SchemaShift
