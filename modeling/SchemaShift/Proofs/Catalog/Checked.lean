import Mathlib.Data.Nat.Init
import SchemaShift.Proofs.Catalog.Valid

/-!
# Columns behind their checks

On PostgreSQL an enum is a text column with a check on its values. The checks of a table are gone
through one by one, and each is matched against the columns that those in front of it have left. A
check that guards a text column makes an enum of it, so that no later one guards the same column.

Results:
* `applyCheck_eq_modify`, `applyCheck_eq_self`: what a check does to the columns.
* `getElem?_applyChecks_of_ne`: no check alters a column that is not a text column.
* `alters_iff`, `Alters.unique`, `Alters.once`: which column a check alters, and how often one is.
* `Alters.exists_enum`: what a column was from the start and is at the end.
* `onlyEnumerates_applyChecks`: what all checks of a table do to its columns.
-/

namespace SchemaShift.Catalog.Postgres

/-! ## One check -/

/-- A row holds the tokens of a check that may list values. -/
def Reads (row : Row) (tokens : List Token) : Prop :=
  ∃ definition, row.textAt? 1 = some definition ∧ mayListValues definition = true ∧
    Token.scan definition = .ok tokens

/-- A check with literals guards the text column at a position: the first one of the first name in
the check that a text column has. -/
def Guards (columns : List Column) (tokens : List Token) (j : Nat) : Prop :=
  tokens.filterMap literal? ≠ [] ∧ ∃ name, guarded? columns tokens = some name ∧
    columns.findIdx? (isGuarded name) = some j

variable {columns : List Column} {row : Row} {tokens tokens' : List Token} {j j' : Nat}

theorem Reads.unique (h : Reads row tokens) (h' : Reads row tokens') : tokens = tokens' := by
  obtain ⟨definition, text, -, scanned⟩ := h
  obtain ⟨definition', text', -, scanned'⟩ := h'
  obtain rfl : definition = definition' := Option.some.inj (text.symm.trans text')
  exact Except.ok.inj (scanned.symm.trans scanned')

theorem Guards.unique (h : Guards columns tokens j) (h' : Guards columns tokens j') : j = j' := by
  obtain ⟨-, name, first, here⟩ := h
  obtain ⟨-, name', first', here'⟩ := h'
  obtain rfl : name = name' := Option.some.inj (first.symm.trans first')
  exact Option.some.inj (here.symm.trans here')

/-- Only text columns are guarded. -/
theorem Guards.exists_string (h : Guards columns tokens j) :
    ∃ c, columns[j]? = some c ∧ c.type = .string := by
  obtain ⟨-, name, -, here⟩ := h
  obtain ⟨within, guarded, -⟩ := List.findIdx?_eq_some_iff_getElem.1 here
  refine ⟨columns[j], List.getElem?_eq_getElem within, ?_⟩
  rw [isGuarded, Bool.and_eq_true] at guarded
  exact eq_of_beq guarded.2

theorem changeFirst_eq_modify {α : Type} {p : α → Bool} {f : α → α} {as : List α}
    (h : as.findIdx? p = some j) : changeFirst p f as = as.modify j f := by
  induction as generalizing j with
  | nil => cases h
  | cons a as ih =>
    rw [List.findIdx?_cons] at h
    rw [changeFirst]
    split at h
    · rename_i first
      cases h
      rw [if_pos first]
      rfl
    · rename_i later
      obtain ⟨k, found, rfl⟩ := Option.map_eq_some_iff.1 h
      rw [if_neg later, ih found]
      rfl

/-- A check makes an enum of the column that it guards. -/
theorem applyCheck_eq_modify (read : Reads row tokens) (h : Guards columns tokens j) :
    applyCheck columns row = columns.modify j (asEnum (tokens.filterMap literal?)) := by
  obtain ⟨definition, text, lists, scanned⟩ := read
  obtain ⟨values, name, first, here⟩ := h
  simp only [applyCheck, text, lists, scanned, first, Bool.not_true, Bool.false_eq_true, if_false,
    List.isEmpty_iff, values]
  exact changeFirst_eq_modify here

/-- A check that guards no column leaves all as they are. -/
theorem applyCheck_eq_self (h : ∀ tokens, Reads row tokens → ∀ j, ¬Guards columns tokens j) :
    applyCheck columns row = columns := by
  unfold applyCheck
  split
  · rfl
  rename_i definition text
  split
  · rfl
  rename_i lists
  split
  · rfl
  rename_i tokens scanned
  dsimp only
  split
  · rename_i name first
    split
    · rfl
    rename_i values
    -- the name is one of a text column, so the check would guard that column
    have found := List.find?_some first
    obtain ⟨j, here⟩ := Option.isSome_iff_exists.1 (List.findIdx?_isSome.trans found)
    have read : Reads row tokens := ⟨definition, text, by simpa using lists, scanned⟩
    exact absurd ⟨by simpa using values, name, first, here⟩ (h tokens read j)
  · rfl

theorem getElem?_applyCheck_of_guards (read : Reads row tokens) (h : Guards columns tokens j) :
    ∃ c, columns[j]? = some c ∧ c.type = .string ∧
      (applyCheck columns row)[j]? = some (asEnum (tokens.filterMap literal?) c) := by
  obtain ⟨c, here, string⟩ := h.exists_string
  refine ⟨c, here, string, ?_⟩
  rw [applyCheck_eq_modify read h, List.getElem?_modify_eq, here]
  rfl

theorem getElem?_applyCheck_of_not (h : ∀ tokens, Reads row tokens → ¬Guards columns tokens j) :
    (applyCheck columns row)[j]? = columns[j]? := by
  by_cases other : ∃ tokens k, Reads row tokens ∧ Guards columns tokens k
  · obtain ⟨tokens, k, read, guards⟩ := other
    have apart : k ≠ j := by
      rintro rfl
      exact h tokens read guards
    rw [applyCheck_eq_modify read guards, List.getElem?_modify_ne _ _ apart]
  · rw [applyCheck_eq_self fun tokens read k guards => other ⟨tokens, k, read, guards⟩]

/-! ## All checks -/

/-- Among checks that are gone through one by one, the one at a position alters a column. -/
def Alters (columns : List Column) (rows : List Row) (i j : Nat) : Prop :=
  (applyChecks columns (rows.take (i + 1)))[j]? ≠ (applyChecks columns (rows.take i))[j]?

variable {rows : List Row} {i i' k l : Nat}

theorem applyChecks_take_succ (h : rows[i]? = some row) :
    applyChecks columns (rows.take (i + 1)) =
      applyCheck (applyChecks columns (rows.take i)) row := by
  rw [List.take_add_one, h, applyChecks, List.foldl_append]
  rfl

/-- A check alters the column that it guards, as those in front of it have left them. -/
theorem alters_iff :
    Alters columns rows i j ↔ ∃ row tokens, rows[i]? = some row ∧ Reads row tokens ∧
      Guards (applyChecks columns (rows.take i)) tokens j := by
  constructor
  · intro altered
    cases here : rows[i]? with
    | none => exact absurd (by rw [List.take_add_one, here]; simp) altered
    | some row =>
      by_contra none
      refine altered ?_
      rw [applyChecks_take_succ here]
      exact getElem?_applyCheck_of_not fun tokens read guards =>
        none ⟨row, tokens, rfl, read, guards⟩
  · rintro ⟨row, tokens, here, read, guards⟩
    obtain ⟨c, before, string, after⟩ := getElem?_applyCheck_of_guards read guards
    rw [Alters, applyChecks_take_succ here, before, after]
    intro same
    have type : (asEnum (tokens.filterMap literal?) c).type = c.type :=
      congrArg Column.type (Option.some.inj same)
    rw [string] at type
    cases type

/-- What is altered is a text column, which becomes an enum of the literals of the check. -/
theorem Alters.exists_step (h : Alters columns rows i j) :
    ∃ c row tokens, (applyChecks columns (rows.take i))[j]? = some c ∧ c.type = .string ∧
      rows[i]? = some row ∧ Reads row tokens ∧ tokens.filterMap literal? ≠ [] ∧
        (applyChecks columns (rows.take (i + 1)))[j]? =
          some (asEnum (tokens.filterMap literal?) c) := by
  obtain ⟨row, tokens, here, read, guards⟩ := alters_iff.1 h
  obtain ⟨c, before, string, after⟩ := getElem?_applyCheck_of_guards read guards
  rw [← applyChecks_take_succ here] at after
  exact ⟨c, row, tokens, before, string, here, read, guards.1, after⟩

/-- What no check alters stays. -/
theorem getElem?_applyChecks_of_unaltered (h : k ≤ l)
    (unaltered : ∀ i, k ≤ i → i < l → ¬Alters columns rows i j) :
    (applyChecks columns (rows.take l))[j]? = (applyChecks columns (rows.take k))[j]? := by
  induction l, h using Nat.le_induction with
  | base => rfl
  | succ l le ih =>
    have same : (applyChecks columns (rows.take (l + 1)))[j]? =
        (applyChecks columns (rows.take l))[j]? :=
      not_not.1 (unaltered l le (Nat.lt_succ_self l))
    rw [same, ih fun i ki il => unaltered i ki (Nat.lt_succ_of_lt il)]

/-- A column that is not a text column is altered by no check. -/
theorem getElem?_applyChecks_of_ne {c : Column} (h : k ≤ l)
    (here : (applyChecks columns (rows.take k))[j]? = some c) (other : c.type ≠ .string) :
    (applyChecks columns (rows.take l))[j]? = some c := by
  induction l, h using Nat.le_induction with
  | base => exact here
  | succ l _ ih =>
    rw [← ih]
    by_contra altered
    obtain ⟨c', _, _, there, string, -⟩ := Alters.exists_step altered
    obtain rfl : c = c' := Option.some.inj (ih.symm.trans there)
    exact other string

theorem Alters.unique (h : Alters columns rows i j) (h' : Alters columns rows i j') : j = j' := by
  obtain ⟨row, tokens, here, read, guards⟩ := alters_iff.1 h
  obtain ⟨row', tokens', here', read', guards'⟩ := alters_iff.1 h'
  obtain rfl : row = row' := Option.some.inj (here.symm.trans here')
  obtain rfl := read.unique read'
  exact guards.unique guards'

/-- An altered column is an enum, which no later check alters. -/
theorem Alters.not_later (h : Alters columns rows i j) (later : i < i') :
    ¬Alters columns rows i' j := by
  intro again
  obtain ⟨_, _, _, -, -, -, -, -, after⟩ := h.exists_step
  obtain ⟨_, _, _, there, string, -⟩ := again.exists_step
  rw [getElem?_applyChecks_of_ne later after (by simp [asEnum])] at there
  cases there
  cases string

theorem Alters.once (h : Alters columns rows i j) (h' : Alters columns rows i' j) : i = i' := by
  rcases Nat.lt_trichotomy i i' with later | same | earlier
  · exact absurd h' (h.not_later later)
  · exact same
  · exact absurd h (h'.not_later earlier)

/-- A column that is altered was a text column from the start, and is an enum of the literals of
its check at the end. -/
theorem Alters.exists_enum (h : Alters columns rows i j) :
    ∃ c row tokens, columns[j]? = some c ∧ c.type = .string ∧ rows[i]? = some row ∧
      Reads row tokens ∧ tokens.filterMap literal? ≠ [] ∧
        (applyChecks columns rows)[j]? = some (asEnum (tokens.filterMap literal?) c) := by
  obtain ⟨c, row, tokens, before, string, here, read, values, after⟩ := h.exists_step
  refine ⟨c, row, tokens, ?_, string, here, read, values, ?_⟩
  · have unaltered : ∀ k, 0 ≤ k → k < i → ¬Alters columns rows k j :=
      fun k _ earlier again => again.not_later earlier h
    have start := getElem?_applyChecks_of_unaltered (Nat.zero_le i) unaltered
    rw [before] at start
    exact start.symm
  · have within : i < rows.length := (List.getElem?_eq_some_iff.1 here).1
    have stays := getElem?_applyChecks_of_ne within after (by simp [asEnum])
    rwa [List.take_length] at stays

/-- A column with all fields of another one but its type, length and values. -/
def KeepsFields (c c' : Column) : Prop :=
  c' = { c with type := c'.type, length := c'.length, allowed := c'.allowed }

/-- The checks of a table make enums of text columns and do nothing else. -/
structure OnlyEnumerates (columns : List Column) (rows : List Row) : Prop where
  kept : List.Forall₂ KeepsFields columns (applyChecks columns rows)
  alters : ∀ i j, Alters columns rows i j ↔ ∃ row tokens, rows[i]? = some row ∧
    Reads row tokens ∧ Guards (applyChecks columns (rows.take i)) tokens j
  unique : ∀ i j j', Alters columns rows i j → Alters columns rows i j' → j = j'
  once : ∀ i i' j, Alters columns rows i j → Alters columns rows i' j → i = i'
  enumerated : ∀ i j, Alters columns rows i j →
    ∃ c row tokens, columns[j]? = some c ∧ c.type = .string ∧ rows[i]? = some row ∧
      Reads row tokens ∧ tokens.filterMap literal? ≠ [] ∧
        (applyChecks columns rows)[j]? = some (asEnum (tokens.filterMap literal?) c)
  untouched : ∀ j, (∀ i, ¬Alters columns rows i j) →
    (applyChecks columns rows)[j]? = columns[j]?

/-- Whatever the columns and the checks are, a check alters at most the one column that it guards,
no column is altered twice, and what is altered is a text column that becomes an enum of the
literals of one check. -/
theorem onlyEnumerates_applyChecks (columns : List Column) (rows : List Row) :
    OnlyEnumerates columns rows where
  kept :=
    forall₂_applyChecks (R := KeepsFields) (fun _ => rfl) (fun _ _ _ _ _ => rfl)
      (fun {a b c} first second => by
        rw [KeepsFields] at first second ⊢
        rw [second, first])
      columns rows
  alters _ _ := alters_iff
  unique _ _ _ := Alters.unique
  once _ _ _ := Alters.once
  enumerated _ _ := Alters.exists_enum
  untouched j unaltered := by
    have never : ∀ i, 0 ≤ i → i < rows.length → ¬Alters columns rows i j :=
      fun i _ _ => unaltered i
    have same := getElem?_applyChecks_of_unaltered (Nat.zero_le rows.length) never
    rwa [List.take_length] at same

/-- A check finds the columns as the check in front of it has left them: `state` is an enum by then,
so that the second check guards `kind`. -/
example :
    (applyChecks [{ name := "state", type := .string, length := some 8 },
        { name := "kind", type := .string }]
      [.ofTuple [.text "state_check", .text "CHECK (state IN ('on', 'off'))"],
        .ofTuple [.text "both_check", .text "CHECK (state IN ('on') OR kind IN ('a'))"]]) =
      [{ name := "state", type := .enum, allowed := ["on", "off"] },
        { name := "kind", type := .enum, allowed := ["on", "a"] }] := by
  decide +kernel

end SchemaShift.Catalog.Postgres
