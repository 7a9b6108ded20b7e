import SchemaShift.Blueprint.Basic

/-!
# The order of creation

Tables are created after the tables they reference. Of the tables that are ready the earliest is
taken; when none is ready, what is left lies behind a cycle and keeps its order. References of a
table to itself and to tables that are not in the list are no dependencies.

* `placeAll_perm`: every table is placed exactly once.
* `placeAll_of_ready`, `placeAll_of_stuck`: the two cases of a step.
-/

namespace SchemaShift.Dump

/-! ## Placing by dependencies -/

/-- The first of the remaining items whose dependencies are all placed. -/
def ready? (dependencies : Nat → List Nat) (placed rest : List Nat) : Option Nat :=
  rest.find? fun i => (dependencies i).all placed.contains

theorem mem_of_ready? {dependencies : Nat → List Nat} {placed rest : List Nat} {i : Nat}
    (h : ready? dependencies placed rest = some i) : i ∈ rest :=
  List.mem_of_find?_eq_some h

/-- The remaining items in the order in which they become ready, and then those that never do. -/
def placeAll (dependencies : Nat → List Nat) (placed rest : List Nat) : List Nat :=
  match _h : ready? dependencies placed rest with
  | some i => i :: placeAll dependencies (i :: placed) (rest.erase i)
  | none => rest
termination_by rest.length
decreasing_by
  have mem := mem_of_ready? _h
  have := List.length_pos_of_mem mem
  rw [List.length_erase_of_mem mem]
  omega

theorem placeAll_of_ready {dependencies : Nat → List Nat} {placed rest : List Nat} {i : Nat}
    (h : ready? dependencies placed rest = some i) :
    placeAll dependencies placed rest =
      i :: placeAll dependencies (i :: placed) (rest.erase i) := by
  rw [placeAll]
  split
  · rename_i j hj
    rw [h] at hj
    cases hj
    rfl
  · rename_i hnone
    rw [h] at hnone
    cases hnone

theorem placeAll_of_stuck {dependencies : Nat → List Nat} {placed rest : List Nat}
    (h : ready? dependencies placed rest = none) :
    placeAll dependencies placed rest = rest := by
  rw [placeAll]
  split
  · rename_i j hj
    rw [h] at hj
    cases hj
  · rfl

theorem placeAll_perm (dependencies : Nat → List Nat) (placed rest : List Nat) :
    (placeAll dependencies placed rest).Perm rest := by
  induction h : rest.length generalizing placed rest with
  | zero =>
    have : rest = [] := List.length_eq_zero_iff.1 h
    subst this
    rw [placeAll_of_stuck rfl]
  | succ n ih =>
    cases hr : ready? dependencies placed rest with
    | none => rw [placeAll_of_stuck hr]
    | some i =>
      have mem := mem_of_ready? hr
      rw [placeAll_of_ready hr]
      refine ((ih _ _ ?_).cons i).trans (List.perm_cons_erase mem).symm
      rw [List.length_erase_of_mem mem, h]
      rfl

/-! ## Tables -/

/-- The tables that a blueprint references, by its foreign keys and by the roles of its columns. -/
def references (b : Blueprint) : List String :=
  b.foreignKeys.map (·.table) ++ b.columns.filterMap fun c => c.foreign.map (·.table)

/-- The last position of a name in a list. -/
def lastPosition? (names : List String) (name : String) : Option Nat :=
  (List.range names.length).findRev? fun i => names[i]? == some name

/-- The positions of the tables that have to be created before the one at a position. -/
def dependencies (bs : List Blueprint) (i : Nat) : List Nat :=
  match bs[i]? with
  | some b => ((references b).filterMap (lastPosition? (bs.map (·.table)))).filter (· != i)
  | none => []

/-- The positions of tables in the order of their creation. -/
def creationOrder (bs : List Blueprint) : List Nat :=
  placeAll (dependencies bs) [] (List.range bs.length)

end SchemaShift.Dump
