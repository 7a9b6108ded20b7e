import SchemaShift.Migration.Source

/-!
# The order of discovered migrations

Migrations are discovered in the order of their names, each once, wherever they come from.

Results:
* `mem_sortedNames_iff`: putting names in order leaves out none.
* `ordered_files`, `ordered_registry`: files and registered migrations are discovered in order.
-/

namespace SchemaShift

/-- The names of migrations are discovered in strict order. -/
def Source.Ordered (source : Source) : Prop :=
  ∀ names, source.discover = .ok names → names.Pairwise (· < ·)

/-! ## Sorting -/

theorem pairwise_le_mergeSort (names : List String) :
    (names.mergeSort fun a b => decide (a ≤ b)).Pairwise (· ≤ ·) := by
  have transitive : ∀ a b c : String, decide (a ≤ b) = true → decide (b ≤ c) = true →
      decide (a ≤ c) = true := by
    intro a b c hab hbc
    exact decide_eq_true (String.le_trans (of_decide_eq_true hab) (of_decide_eq_true hbc))
  have total : ∀ a b : String, (decide (a ≤ b) || decide (b ≤ a)) = true := by
    intro a b
    rcases String.le_total a b with h | h
    · rw [decide_eq_true h, Bool.true_or]
    · rw [decide_eq_true h, Bool.or_true]
  exact (List.pairwise_mergeSort transitive total names).imp of_decide_eq_true

/-- Leaving out repetitions makes an order strict; `before` holds what is kept, last name first. -/
theorem pairwise_eraseReps_loop {a : String} {rest before : List String}
    (sorted : (a :: rest).Pairwise (· ≤ ·)) (kept : (a :: before).Pairwise fun x y => y < x) :
    (List.eraseRepsBy.loop (· == ·) a rest before).Pairwise (· < ·) := by
  induction rest generalizing a before with
  | nil => exact List.pairwise_reverse.2 kept
  | cons b rest ih =>
    rw [List.eraseRepsBy.loop]
    obtain ⟨least, others⟩ := List.pairwise_cons.1 sorted
    obtain ⟨greatest, earlier⟩ := List.pairwise_cons.1 kept
    split
    · refine ih (List.pairwise_cons.2 ⟨?_, (List.pairwise_cons.1 others).2⟩) kept
      intro c hc
      exact least c (List.mem_cons_of_mem b hc)
    · rename_i apart
      have less : a < b := by
        apply Std.lt_of_le_of_ne (least b List.mem_cons_self)
        rintro rfl
        simp at apart
      refine ih others (List.pairwise_cons.2 ⟨?_, kept⟩)
      intro c hc
      rcases List.mem_cons.1 hc with rfl | hc
      · exact less
      · exact String.lt_trans (greatest c hc) less

theorem pairwise_sortedNames (names : List String) : (sortedNames names).Pairwise (· < ·) := by
  have sorted := pairwise_le_mergeSort names
  unfold sortedNames List.eraseReps
  generalize (names.mergeSort fun a b => decide (a ≤ b)) = ordered at sorted
  cases ordered with
  | nil => exact .nil
  | cons a rest => exact pairwise_eraseReps_loop sorted (List.pairwise_singleton _ a)

/-- Leaving out repetitions leaves out no name; `before` holds what is kept. -/
theorem mem_eraseReps_loop {name a : String} {rest before : List String} :
    name ∈ List.eraseRepsBy.loop (· == ·) a rest before ↔
      name = a ∨ name ∈ rest ∨ name ∈ before := by
  induction rest generalizing a before with
  | nil => simp [List.eraseRepsBy.loop, or_comm]
  | cons b rest ih =>
    rw [List.eraseRepsBy.loop, List.mem_cons]
    split
    · rename_i same
      rw [ih, beq_iff_eq.1 same]
      grind
    · rw [ih, List.mem_cons]
      grind

theorem mem_sortedNames_iff {name : String} {names : List String} :
    name ∈ sortedNames names ↔ name ∈ names := by
  have same : name ∈ names.mergeSort (fun a b => decide (a ≤ b)) ↔ name ∈ names :=
    List.mem_mergeSort
  rw [← same]
  unfold sortedNames List.eraseReps
  cases names.mergeSort fun a b => decide (a ≤ b) with
  | nil => rfl
  | cons a rest =>
    refine mem_eraseReps_loop.trans ?_
    rw [List.mem_cons]
    simp

/-! ## Sources -/

namespace MigrationFile

/-- Where no name stands twice in a row, an order is strict. -/
theorem pairwise_of_repeated?_eq_none {names : List String} (sorted : names.Pairwise (· ≤ ·))
    (h : repeated? names = none) : names.Pairwise (· < ·) := by
  induction names with
  | nil => exact .nil
  | cons a rest ih =>
    obtain ⟨least, others⟩ := List.pairwise_cons.1 sorted
    cases rest with
    | nil => exact List.pairwise_singleton _ a
    | cons b rest =>
      rw [repeated?] at h
      split at h
      · cases h
      · rename_i apart
        have strict := ih others h
        have less := Std.lt_of_le_of_ne (least b List.mem_cons_self) apart
        refine List.pairwise_cons.2 ⟨?_, strict⟩
        intro c hc
        rcases List.mem_cons.1 hc with rfl | hc
        · exact less
        · exact String.lt_trans less (List.rel_of_pairwise_cons strict hc)

theorem pairwise_discover {root : FileTree} {path : String} {names : List String}
    (h : discover root path = .ok names) : names.Pairwise (· < ·) := by
  unfold discover at h
  split at h
  · cases h
  · split at h
    · cases h
    · rename_i once
      cases h
      exact pairwise_of_repeated?_eq_none (pairwise_le_mergeSort _) once

end MigrationFile

/-- Migrations are discovered in the order of their files. -/
theorem ordered_files (root : FileTree) (path : String) : (Source.files root path).Ordered :=
  fun _ h => MigrationFile.pairwise_discover h

/-- Registered migrations are discovered in order together with those in files. -/
theorem ordered_registry (r : Registry) (root : FileTree) (path : String) :
    (Source.registry r root path).Ordered := by
  intro names h
  unfold Source.registry at h
  dsimp only at h
  split at h
  · cases found : MigrationFile.discover root path with
    | error e =>
      rw [found] at h
      cases h
    | ok files =>
      rw [found] at h
      cases h
      exact pairwise_sortedNames _
  · cases h
    exact pairwise_sortedNames _

end SchemaShift
