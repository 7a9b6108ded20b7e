import Mathlib.Data.Fintype.Pigeonhole
import Mathlib.Data.List.Forall2
import Mathlib.Data.Set.Finite.List
import Mathlib.Logic.Relation
import Mathlib.Order.Bounds.Basic
import SchemaShift.Dump.Basic

/-!
# The order of creation is greedy

A table depends on another one that it references. The tables from which no cycle of dependencies
can be reached are created first, always the earliest of those whose dependencies are there; what
lies behind a cycle follows in the order of the list. Dropping goes the other way round.

Results:
* `reachesCycle_iff`: a cycle is reached through one of the dependencies.
* `exists_places`: a list is placed greedily, up to where nothing is ready.
* `reachesCycle_of_mem_stuck`: what never becomes ready lies behind a cycle.
* `exists_creationOrder`: the order of creation is the greedy one, and drops follow its reverse.
-/

namespace SchemaShift.Dump

/-! ## Cycles -/

section Cycles

variable {dependsOn : Nat → Nat → Prop} {i j : Nat}

/-- A cycle can be reached by going from dependency to dependency. -/
def ReachesCycle (dependsOn : Nat → Nat → Prop) (i : Nat) : Prop :=
  ∃ j, Relation.ReflTransGen dependsOn i j ∧ Relation.TransGen dependsOn j j

/-- A cycle is reached through one of the dependencies. -/
theorem reachesCycle_iff :
    ReachesCycle dependsOn i ↔ ∃ j, dependsOn i j ∧ ReachesCycle dependsOn j := by
  constructor
  · rintro ⟨k, path, cycle⟩
    rcases path.cases_head with rfl | ⟨j, first, path⟩
    · obtain ⟨j, first, back⟩ := Relation.TransGen.head'_iff.1 cycle
      exact ⟨j, first, i, back, cycle⟩
    · exact ⟨j, first, k, path, cycle⟩
  · rintro ⟨j, first, k, path, cycle⟩
    exact ⟨k, path.head first, cycle⟩

theorem transGen_iterate {α : Type} {r : α → α → Prop} {next : α → α} (h : ∀ a, r a (next a))
    (a : α) (n : Nat) : Relation.TransGen r a (next^[n + 1] a) := by
  induction n generalizing a with
  | zero => exact .single (h a)
  | succ n ih => exact .head (h a) (ih (next a))

/-- Among finitely many items that each depend on one of them, every one leads into a cycle. -/
theorem reachesCycle_of_forall_exists {items : List Nat}
    (h : ∀ k ∈ items, ∃ j ∈ items, dependsOn k j) (hi : i ∈ items) :
    ReachesCycle dependsOn i := by
  choose! next inside follows using h
  let step : {k // k ∈ items} → {k // k ∈ items} := fun k => ⟨next k, inside k k.2⟩
  let along : {k // k ∈ items} → {k // k ∈ items} → Prop := fun a b => dependsOn a b
  have steps : ∀ k, along k (step k) := fun k => follows k k.2
  obtain ⟨m, n, apart, same⟩ :=
    Finite.exists_ne_map_eq_of_infinite fun n => step^[n] ⟨i, hi⟩
  -- the walk comes back to where it was after the smaller number of steps
  wlog less : m < n generalizing m n
  · exact this n m apart.symm same.symm (by omega)
  obtain ⟨d, rfl⟩ : ∃ d, n = (d + 1) + m := ⟨n - m - 1, by omega⟩
  have cycle := transGen_iterate steps (step^[m] ⟨i, hi⟩) d
  rw [← Function.iterate_add_apply, ← same] at cycle
  have path : Relation.ReflTransGen along ⟨i, hi⟩ (step^[m] ⟨i, hi⟩) := by
    cases m with
    | zero => exact .refl
    | succ m => exact (transGen_iterate steps ⟨i, hi⟩ m).to_reflTransGen
  exact ⟨_, path.lift Subtype.val fun _ _ h => h, cycle.lift Subtype.val fun _ _ h => h⟩

end Cycles

/-! ## Placing -/

section Placing

variable {dependencies : Nat → List Nat} {placed rest settled stuck : List Nat} {i : Nat}

/-- How the rest of a list is placed behind what has been placed: what becomes ready, one item after
the other, and what is stuck when nothing is ready any more. -/
inductive Places (dependencies : Nat → List Nat) :
    List Nat → List Nat → List Nat → List Nat → Prop
  | stuck {placed rest : List Nat} (none : ready? dependencies placed rest = none) :
    Places dependencies placed rest [] rest
  | next {placed rest settled stuck : List Nat} {i : Nat}
      (first : ready? dependencies placed rest = some i)
      (others : Places dependencies (i :: placed) (rest.erase i) settled stuck) :
    Places dependencies placed rest (i :: settled) stuck

/-- A list is placed greedily, up to where nothing is ready. -/
theorem exists_places (dependencies : Nat → List Nat) (placed rest : List Nat) :
    ∃ settled stuck, Places dependencies placed rest settled stuck ∧
      placeAll dependencies placed rest = settled ++ stuck := by
  induction placed, rest using placeAll.induct dependencies with
  | case1 placed rest i first ih =>
    obtain ⟨settled, stuck, others, result⟩ := ih
    exact ⟨i :: settled, stuck, .next first others, by rw [placeAll_of_ready first, result]; rfl⟩
  | case2 placed rest none => exact ⟨[], rest, .stuck none, placeAll_of_stuck none⟩

/-- Of the items of an increasing list, the least one is taken whose dependencies are placed. -/
theorem isLeast_of_ready? (increasing : rest.Pairwise (· < ·))
    (h : ready? dependencies placed rest = some i) :
    IsLeast {k | k ∈ rest ∧ ∀ j ∈ dependencies k, j ∈ placed} i := by
  obtain ⟨ready, before, after, split, waiting⟩ := List.find?_eq_some_iff_append.1 h
  subst split
  constructor
  · exact ⟨by simp, by simpa using ready⟩
  · rintro k ⟨hk, all⟩
    rcases List.mem_append.1 hk with earlier | later
    · have := waiting k earlier
      simp only [Bool.not_eq_true', List.all_eq_false] at this
      obtain ⟨j, hj, missing⟩ := this
      simp [all j hj] at missing
    · rcases List.mem_cons.1 later with rfl | later
      · exact Nat.le_refl k
      · exact Nat.le_of_lt (List.rel_of_pairwise_cons (List.pairwise_append.1 increasing).2.1 later)

namespace Places

theorem sublist_stuck (h : Places dependencies placed rest settled stuck) : stuck.Sublist rest := by
  induction h with
  | stuck none => exact .refl _
  | next first others ih => exact ih.trans List.erase_sublist

theorem perm (h : Places dependencies placed rest settled stuck) :
    (settled ++ stuck).Perm rest := by
  induction h with
  | stuck none => exact .refl _
  | next first others ih =>
    exact (ih.cons _).trans (List.perm_cons_erase (mem_of_ready? first)).symm

/-- What is stuck waits for something that is not placed. -/
theorem exists_missing (h : Places dependencies placed rest settled stuck) {k : Nat}
    (hk : k ∈ stuck) : ∃ j ∈ dependencies k, j ∉ placed ∧ j ∉ settled := by
  induction h with
  | stuck none =>
    have waiting := List.find?_eq_none.1 none k hk
    simp only [Bool.not_eq_true, List.all_eq_false] at waiting
    obtain ⟨j, hj, missing⟩ := waiting
    exact ⟨j, hj, by simpa using missing, List.not_mem_nil⟩
  | next first others ih =>
    obtain ⟨j, hj, missing, later⟩ := ih hk
    rw [List.mem_cons, not_or] at missing
    exact ⟨j, hj, missing.2, by simp [missing.1, later]⟩

/-- Every item is the least one that is left and whose dependencies are placed. -/
theorem isLeast (h : Places dependencies placed rest settled stuck)
    (increasing : rest.Pairwise (· < ·)) {before after : List Nat}
    (split : settled = before ++ i :: after) :
    IsLeast {k | (k ∈ rest ∧ k ∉ before) ∧ ∀ j ∈ dependencies k, j ∈ placed ∨ j ∈ before} i := by
  induction h generalizing before with
  | stuck none => simp at split
  | @next placed rest settled stuck i' first others ih =>
    cases before with
    | nil =>
      obtain ⟨rfl, rfl⟩ := List.cons_eq_cons.1 split
      simpa using isLeast_of_ready? increasing first
    | cons i'' before =>
      obtain ⟨rfl, rfl⟩ := List.cons_eq_cons.1 split
      have least := ih (increasing.sublist List.erase_sublist) rfl
      have once : rest.Nodup := increasing.imp Nat.ne_of_lt
      -- placing the item and taking it from the rest describe the same items
      have same : ∀ k, ((k ∈ rest.erase i' ∧ k ∉ before) ∧
            ∀ j ∈ dependencies k, j ∈ i' :: placed ∨ j ∈ before) ↔
          (k ∈ rest ∧ k ∉ i' :: before) ∧
            ∀ j ∈ dependencies k, j ∈ placed ∨ j ∈ i' :: before := by
        intro k
        simp only [once.mem_erase_iff, List.mem_cons, not_or, or_assoc, or_left_comm]
        tauto
      simpa only [same] using least

/-- No cycle can be reached from what is placed. -/
theorem not_reachesCycle (h : Places dependencies placed rest settled stuck)
    (before : ∀ k ∈ placed, ¬ ReachesCycle (fun i j => j ∈ dependencies i) k) :
    ∀ k ∈ settled, ¬ ReachesCycle (fun i j => j ∈ dependencies i) k := by
  induction h with
  | stuck none => simp
  | @next placed rest settled stuck i first others ih =>
    have ready : ∀ j ∈ dependencies i, j ∈ placed := by
      simpa using List.find?_some first
    have acyclic : ¬ ReachesCycle (fun i j => j ∈ dependencies i) i := by
      rw [reachesCycle_iff]
      rintro ⟨j, hj, cycle⟩
      exact before j (ready j hj) cycle
    have others := ih (List.forall_mem_cons.2 ⟨acyclic, before⟩)
    exact List.forall_mem_cons.2 ⟨acyclic, others⟩

/-- What never becomes ready lies behind a cycle, if all dependencies are in the list. -/
theorem reachesCycle_of_mem_stuck (h : Places dependencies [] rest settled stuck)
    (inside : ∀ k ∈ rest, ∀ j ∈ dependencies k, j ∈ rest) :
    ∀ k ∈ stuck, ReachesCycle (fun i j => j ∈ dependencies i) k := by
  intro k hk
  refine reachesCycle_of_forall_exists ?_ hk
  intro k hk
  obtain ⟨j, hj, -, later⟩ := h.exists_missing hk
  have left := h.perm.mem_iff.2 (inside k (h.sublist_stuck.subset hk) j hj)
  exact ⟨j, (List.mem_append.1 left).resolve_left later, hj⟩

end Places

end Placing

/-! ## Tables -/

/-- The last position of a name in a list. -/
def IsLastPosition (names : List String) (name : String) (j : Nat) : Prop :=
  names[j]? = some name ∧ ∀ k, j < k → names[k]? ≠ some name

/-- A table depends on the one at the last position of a name that it references, itself apart. -/
def DependsOn (bs : List Blueprint) (i j : Nat) : Prop :=
  j ≠ i ∧ ∃ b, bs[i]? = some b ∧ ∃ name ∈ references b, IsLastPosition (bs.map (·.table)) name j

theorem lastPosition?_eq_some_iff {names : List String} {name : String} {j : Nat} :
    lastPosition? names name = some j ↔ IsLastPosition names name j := by
  have descending : (List.range names.length).reverse.Pairwise fun a b => b < a :=
    List.pairwise_reverse.2 List.pairwise_lt_range
  unfold lastPosition? IsLastPosition
  rw [List.findRev?_eq_find?_reverse]
  constructor
  · intro h
    obtain ⟨here, before, after, split, later⟩ := List.find?_eq_some_iff_append.1 h
    refine ⟨by simpa using here, ?_⟩
    intro k less found
    have mem : k ∈ (List.range names.length).reverse := by
      simpa using (List.getElem?_eq_some_iff.1 found).1
    rw [split] at mem descending
    rcases List.mem_append.1 mem with earlier | others
    · simpa [found] using later k earlier
    · rcases List.mem_cons.1 others with rfl | others
      · exact Nat.lt_irrefl _ less
      · have greater := List.rel_of_pairwise_cons (List.pairwise_append.1 descending).2.1 others
        exact Nat.lt_asymm less greater
  · rintro ⟨here, later⟩
    have mem : j ∈ (List.range names.length).reverse := by
      simpa using (List.getElem?_eq_some_iff.1 here).1
    obtain ⟨before, after, split⟩ := List.append_of_mem mem
    refine List.find?_eq_some_iff_append.2 ⟨by simpa using here, before, after, split, ?_⟩
    intro k earlier
    rw [split] at descending
    have greater := (List.pairwise_append.1 descending).2.2 k earlier j List.mem_cons_self
    simpa using later k greater

theorem mem_dependencies_iff {bs : List Blueprint} {i j : Nat} :
    j ∈ dependencies bs i ↔ DependsOn bs i j := by
  unfold dependencies DependsOn
  cases bs[i]? with
  | none => simp
  | some b => simp [lastPosition?_eq_some_iff, and_comm]

theorem lt_length_of_dependsOn {bs : List Blueprint} {i j : Nat} (h : DependsOn bs i j) :
    i < bs.length ∧ j < bs.length := by
  obtain ⟨-, b, here, name, -, last⟩ := h
  refine ⟨(List.getElem?_eq_some_iff.1 here).1, ?_⟩
  simpa using (List.getElem?_eq_some_iff.1 last.1).1

/-- The order in which tables are created: first, one after the other, the earliest table that is
left and whose dependencies are there, then what lies behind a cycle, in the order of the list. -/
structure IsCreationOrder (bs : List Blueprint) (settled looped : List Nat) : Prop where
  mem_settled_iff : ∀ i, i ∈ settled ↔ i < bs.length ∧ ¬ ReachesCycle (DependsOn bs) i
  mem_looped_iff : ∀ i, i ∈ looped ↔ i < bs.length ∧ ReachesCycle (DependsOn bs) i
  greedy : ∀ before i after, settled = before ++ i :: after →
    IsLeast {k | (k < bs.length ∧ k ∉ before) ∧ ∀ j, DependsOn bs k j → j ∈ before} i
  increasing : looped.Pairwise (· < ·)

theorem exists_isCreationOrder (bs : List Blueprint) :
    ∃ settled looped, creationOrder bs = settled ++ looped ∧ IsCreationOrder bs settled looped := by
  obtain ⟨settled, looped, places, result⟩ :=
    exists_places (dependencies bs) [] (List.range bs.length)
  have relation : (fun i j => j ∈ dependencies bs i) = DependsOn bs := by
    funext i j
    exact propext mem_dependencies_iff
  have acyclic := places.not_reachesCycle (List.forall_mem_nil _)
  have cyclic := places.reachesCycle_of_mem_stuck fun k _ j hj =>
    List.mem_range.2 (lt_length_of_dependsOn (mem_dependencies_iff.1 hj)).2
  rw [relation] at acyclic cyclic
  have all : ∀ i, i ∈ settled ∨ i ∈ looped ↔ i < bs.length := by
    intro i
    rw [← List.mem_append, places.perm.mem_iff, List.mem_range]
  refine ⟨settled, looped, result, ?_, ?_, ?_, ?_⟩
  · intro i
    rw [← all]
    constructor
    · exact fun h => ⟨.inl h, acyclic i h⟩
    · rintro ⟨h, free⟩
      exact h.resolve_right fun stuck => free (cyclic i stuck)
  · intro i
    rw [← all]
    constructor
    · exact fun h => ⟨.inr h, cyclic i h⟩
    · rintro ⟨h, caught⟩
      exact h.resolve_left fun free => acyclic i free caught
  · intro before i after split
    have least := places.isLeast List.pairwise_lt_range split
    simpa only [List.mem_range, mem_dependencies_iff, List.not_mem_nil, false_or] using least
  · exact List.pairwise_lt_range.sublist places.sublist_stuck

/-! ## Dropping -/

/-- The table at a position is dropped. -/
def DropsAt (bs : List Blueprint) (i : Nat) (step : Step) : Prop :=
  ∃ b, bs[i]? = some b ∧ step = .drop b.table

theorem forall₂_dropsAt {bs : List Blueprint} {order : List Nat}
    (inside : ∀ i ∈ order, i < bs.length) :
    List.Forall₂ (DropsAt bs) order ((order.filterMap (bs[·]?)).map fun b => .drop b.table) := by
  induction order with
  | nil => exact .nil
  | cons i order ih =>
    obtain ⟨bound, inside⟩ := List.forall_mem_cons.1 inside
    rw [List.filterMap_cons, List.getElem?_eq_getElem bound]
    exact .cons ⟨bs[i], List.getElem?_eq_getElem bound, rfl⟩ (ih inside)

theorem forall₂_down (options : Options) (bs : List Blueprint) :
    List.Forall₂ (DropsAt bs) (creationOrder bs).reverse (document options bs).down := by
  have inside : ∀ i ∈ (creationOrder bs).reverse, i < bs.length := by
    intro i hi
    rw [List.mem_reverse, creationOrder, (placeAll_perm ..).mem_iff] at hi
    exact List.mem_range.1 hi
  simpa [document, inOrder, List.filterMap_reverse] using forall₂_dropsAt inside

/-- A table from which no cycle can be reached is created after those it depends on. -/
theorem sublist_of_dependsOn {bs : List Blueprint} {i j : Nat} {settled looped : List Nat}
    (order : IsCreationOrder bs settled looped) (free : ¬ ReachesCycle (DependsOn bs) i)
    (h : DependsOn bs i j) : [j, i].Sublist (settled ++ looped) := by
  have mem := (order.mem_settled_iff i).2 ⟨(lt_length_of_dependsOn h).1, free⟩
  obtain ⟨before, after, split⟩ := List.append_of_mem mem
  have earlier : j ∈ before := (order.greedy before i after split).1.2 j h
  rw [split, List.append_assoc]
  exact (List.singleton_sublist.2 earlier).append
    (List.singleton_sublist.2 List.mem_cons_self |>.trans (List.sublist_append_left ..))

/-- Every table is created once: first those from which no cycle can be reached, always the earliest
whose dependencies are there, then the others in the order of the list. Tables are dropped in the
reverse order, so that a table from which no cycle can be reached goes before those it depends
on. -/
theorem exists_creationOrder (options : Options) (bs : List Blueprint) :
    ∃ settled looped, creationOrder bs = settled ++ looped ∧
      (settled ++ looped).Perm (List.range bs.length) ∧
      IsCreationOrder bs settled looped ∧
      List.Forall₂ (DropsAt bs) (looped.reverse ++ settled.reverse) (document options bs).down ∧
      ∀ i j, ¬ ReachesCycle (DependsOn bs) i → DependsOn bs i j →
        [j, i].Sublist (settled ++ looped) ∧
          [i, j].Sublist (looped.reverse ++ settled.reverse) := by
  obtain ⟨settled, looped, result, order⟩ := exists_isCreationOrder bs
  refine ⟨settled, looped, result, result ▸ placeAll_perm .., order, ?_, ?_⟩
  · rw [← List.reverse_append, ← result]
    exact forall₂_down options bs
  · intro i j free h
    have before := sublist_of_dependsOn order free h
    exact ⟨before, by simpa using before.reverse⟩

end SchemaShift.Dump
