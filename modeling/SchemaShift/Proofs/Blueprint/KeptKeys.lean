import SchemaShift.Blueprint.Canonical
import SchemaShift.Blueprint.Diff

/-!
# The foreign keys that a rebuild keeps

The description of a live table holds its foreign keys in two ways: as commands, and as roles of
single columns. A diff filters the commands by the columns it removes, but it replaces the columns
it changes as a whole, with their roles. So a key is kept unless one of its columns is removed,
or it is nothing but the role of a column that is redefined.

Results:
* `addForeign_mem_target_iff`: the foreign keys of the new table, explicit and implied.
* `exists_sameLink_target_iff`: when a key of the live table that the diff says nothing about is
  one of the new table.
* `not_forall_kept`: not every such key is kept, since redefining a column takes its role away.
-/

namespace SchemaShift

/-- Two foreign keys link the same columns with the same actions; their names may differ. -/
def ForeignKey.SameLink (a b : ForeignKey) : Prop :=
  a.columns = b.columns ∧ a.table = b.table ∧ a.references = b.references ∧
    a.onDelete = b.onDelete ∧ a.onUpdate = b.onUpdate

instance (a b : ForeignKey) : Decidable (a.SameLink b) := by
  unfold ForeignKey.SameLink; infer_instance

theorem ForeignKey.SameLink.refl (fk : ForeignKey) : fk.SameLink fk := ⟨rfl, rfl, rfl, rfl, rfl⟩

namespace Blueprint

/-! ## Explicit and implied keys -/

theorem addForeign_not_mem_impliedLeading (b : Blueprint) (fk : ForeignKey) :
    .addForeign fk ∉ b.impliedLeading := by
  intro h
  unfold impliedLeading at h
  split at h
  · cases h
  · rw [List.mem_append] at h
    rcases h with change | add
    · split at change
      · cases change
      · cases List.mem_singleton.1 change
    · split at add
      · cases add
      · cases List.mem_singleton.1 add

/-- A foreign key is compiled when a command adds it or a column implies it. -/
theorem addForeign_mem_compiledCommands_iff {b : Blueprint} {fk : ForeignKey} :
    .addForeign fk ∈ b.compiledCommands ↔
      .addForeign fk ∈ b.commands ∨ fk ∈ b.impliedForeignKeys := by
  have leading := b.addForeign_not_mem_impliedLeading fk
  simp [compiledCommands, leading]

/-- The columns imply a foreign key by the role of one that is new. -/
theorem mem_impliedForeignKeys_iff {b : Blueprint} {fk : ForeignKey} :
    fk ∈ b.impliedForeignKeys ↔
      ∃ c ∈ b.columns, c.change = false ∧
        ∃ role, c.foreign = some role ∧ role.toKey c.name = fk := by
  simp only [impliedForeignKeys, addedColumns, List.mem_filterMap, List.mem_filter,
    Option.map_eq_some_iff, Bool.not_eq_true', and_assoc]

end Blueprint

namespace TableDiff

/-! ## The new table -/

variable {d : TableDiff} {current : Blueprint}

theorem addForeign_mem_commands_target_iff {fk : ForeignKey} :
    .addForeign fk ∈ (d.target current).commands ↔
      .addForeign fk ∈ current.commands ∧ ∀ column ∈ fk.columns, column ∉ d.removed := by
  simp [target, keepsCommand]

theorem mem_columns_target_iff {c : Column} :
    c ∈ (d.target current).columns ↔
      ∃ old ∈ current.columns, old.name ∉ d.removed ∧ d.redefined old = c := by
  simp [target, keeps, and_assoc]

/-- A column without a new definition stays as it is. -/
theorem redefined_eq_self {c : Column} (h : ∀ new ∈ d.changed, new.name ≠ c.name) :
    d.redefined c = c := by
  have none : d.changed.find? (·.name == c.name) = none := by
    rw [List.find?_eq_none]
    intro new hnew
    simp [h new hnew]
  rw [redefined, none, Option.getD_none]

/-- A column is itself or has one of the new definitions. -/
theorem redefined_mem_or_eq (d : TableDiff) (c : Column) :
    d.redefined c ∈ d.changed ∨
      d.redefined c = c ∧ ∀ new ∈ d.changed, new.name ≠ c.name := by
  unfold redefined
  cases h : d.changed.find? (·.name == c.name) with
  | some new => exact .inl (List.mem_of_find?_eq_some h)
  | none =>
    rw [List.find?_eq_none] at h
    refine .inr ⟨rfl, ?_⟩
    intro new hnew same
    exact h new hnew (by simp [same])

/-- The foreign keys of the new table are the commands without removed columns, and the roles of
the columns that stay, each as it is defined now. -/
theorem addForeign_mem_target_iff {fk : ForeignKey} :
    .addForeign fk ∈ (d.target current).compiledCommands ↔
      (.addForeign fk ∈ current.commands ∧ ∀ column ∈ fk.columns, column ∉ d.removed) ∨
        ∃ old ∈ current.columns, old.name ∉ d.removed ∧ (d.redefined old).change = false ∧
          ∃ role, (d.redefined old).foreign = some role ∧ role.toKey old.name = fk := by
  rw [Blueprint.addForeign_mem_compiledCommands_iff, addForeign_mem_commands_target_iff,
    Blueprint.mem_impliedForeignKeys_iff]
  constructor
  · rintro (explicit | ⟨c, hc, added, role, hrole, rfl⟩)
    · exact .inl explicit
    · obtain ⟨old, hold, stays, rfl⟩ := mem_columns_target_iff.1 hc
      refine .inr ⟨old, hold, stays, added, role, hrole, ?_⟩
      rw [d.name_redefined]
  · rintro (explicit | ⟨old, hold, stays, added, role, hrole, rfl⟩)
    · exact .inl explicit
    · refine .inr ⟨_, mem_columns_target_iff.2 ⟨old, hold, stays, rfl⟩, added, role, hrole, ?_⟩
      rw [d.name_redefined]

/-! ## What is kept -/

/-- A foreign key of the live table, none of whose columns is removed or redefined with a role of
its own, is one of the new table exactly when a command adds it or none of its columns is
redefined at all. -/
theorem exists_sameLink_target_iff {new : Blueprint} {fk : ForeignKey}
    (applied : d.apply current = .ok new) (key : .addForeign fk ∈ current.compiledCommands)
    (stays : ∀ column ∈ fk.columns, column ∉ d.removed)
    (roleless : ∀ c ∈ d.changed, c.name ∈ fk.columns → c.foreign = none) :
    (∃ kept : ForeignKey, kept.SameLink fk ∧ .addForeign kept ∈ new.compiledCommands) ↔
      (∃ same : ForeignKey, same.SameLink fk ∧ .addForeign same ∈ current.commands) ∨
        ∀ c ∈ d.changed, c.name ∉ fk.columns := by
  obtain ⟨-, rfl⟩ := apply_eq_ok_iff.1 applied
  constructor
  · rintro ⟨kept, link, hkept⟩
    rcases addForeign_mem_target_iff.1 hkept with ⟨explicit, -⟩ | ⟨old, -, -, -, role, hrole, rfl⟩
    · exact .inl ⟨kept, link, explicit⟩
    · have columns : fk.columns = [old.name] := link.1.symm
      rcases d.redefined_mem_or_eq old with defined | ⟨-, others⟩
      · have none := roleless _ defined (by rw [columns, d.name_redefined]; simp)
        rw [none] at hrole
        cases hrole
      · refine .inr ?_
        intro c hc mem
        rw [columns, List.mem_singleton] at mem
        exact others c hc mem
  · rintro (⟨same, link, explicit⟩ | untouched)
    · refine ⟨same, link, addForeign_mem_target_iff.2 (.inl ⟨explicit, ?_⟩)⟩
      rw [link.1]
      exact stays
    · refine ⟨fk, .refl fk, addForeign_mem_target_iff.2 ?_⟩
      rcases Blueprint.addForeign_mem_compiledCommands_iff.1 key with explicit | implied
      · exact .inl ⟨explicit, stays⟩
      · obtain ⟨c, hc, added, role, hrole, rfl⟩ := Blueprint.mem_impliedForeignKeys_iff.1 implied
        have same : d.redefined c = c := by
          apply redefined_eq_self
          intro other hother name
          exact untouched other hother (by simp [ForeignRole.toKey, name])
        refine .inr ⟨c, hc, stays c.name (by simp [ForeignRole.toKey]), ?_, role, ?_, rfl⟩
        · rw [same]
          exact added
        · rw [same]
          exact hrole

/-- Posts that belong to a user, and to a blog by way of two columns. -/
def posts : Blueprint :=
  { table := "posts"
    columns :=
      [{ name := "id", type := .bigInteger, autoIncrement := true },
        { name := "user_id", type := .integer,
          foreign := some { table := "users", column := "id", onDelete := some .cascade } },
        { name := "blog_id", type := .integer }, { name := "host_id", type := .integer }]
    commands :=
      [.create,
        .addForeign
          { columns := ["blog_id", "host_id"], table := "blogs", references := ["id", "host"] }] }

/-- Wider columns for the user and the blog. -/
def widening : TableDiff :=
  { table := "posts"
    changed :=
      [{ name := "user_id", type := .bigInteger }, { name := "blog_id", type := .bigInteger }] }

/-- The key of two columns is a command and stays, although one of its columns is redefined. -/
theorem exists_sameLink_target_iff_posts :
    (∃ kept : ForeignKey, kept.SameLink
        { columns := ["blog_id", "host_id"], table := "blogs", references := ["id", "host"] } ∧
      .addForeign kept ∈ (widening.target posts).compiledCommands) ↔
      (∃ same : ForeignKey, same.SameLink
          { columns := ["blog_id", "host_id"], table := "blogs", references := ["id", "host"] } ∧
        .addForeign same ∈ posts.commands) ∨
      ∀ c ∈ widening.changed, c.name ∉ ["blog_id", "host_id"] :=
  have applied : widening.apply posts = .ok (widening.target posts) := rfl
  exists_sameLink_target_iff applied (by decide) (by decide) (by decide)

/-- Not every foreign key that a diff says nothing about is kept: a column that is redefined
without a role loses the one it had. -/
theorem not_forall_kept :
    ¬ ∀ (d : TableDiff) (current new : Blueprint) (fk : ForeignKey), current.creating = true →
      d.apply current = .ok new → .addForeign fk ∈ current.compiledCommands →
      (∀ column ∈ fk.columns, column ∉ d.removed) →
      (∀ c ∈ d.changed, c.name ∈ fk.columns → c.foreign = none) →
      ∃ kept : ForeignKey, kept.SameLink fk ∧ .addForeign kept ∈ new.compiledCommands := by
  intro all
  obtain ⟨kept, link, mem⟩ := all widening posts (widening.target posts)
    { columns := ["user_id"], table := "users", references := ["id"], onDelete := some .cascade }
    (by decide) rfl (by decide) (by decide) (by decide)
  have compiled : (widening.target posts).compiledCommands = posts.commands := by decide
  rw [compiled] at mem
  have key : kept.columns = ["blog_id", "host_id"] := by
    rcases List.mem_cons.1 mem with h | h
    · cases h
    · cases List.mem_singleton.1 h
      rfl
  rw [link.1] at key
  exact absurd key (by decide)

end TableDiff

end SchemaShift
