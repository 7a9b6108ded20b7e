import Mathlib.Data.List.Forall2
import SchemaShift.Proofs.Blueprint.KeptKeys

/-!
# The canonical form loses no constraint

The canonical form moves descriptors between two representations in one pass: a foreign key on one
column becomes a role of the first column of that name that has none, while the commands behind it
are still to come. So a key that finds every such column taken stays a command, a second key on a
column too, and what a command becomes depends on the columns that the commands ahead of it left.

`IsCanonical` says what is left for a pass to do, namely nothing, without the pass itself.

Results:
* `gains_steps`, `thins_steps`, `keys_steps`: what a pass over commands does to the columns, to the
  commands and to the foreign keys of both.
* `isCanonical_canonical`, `canonical_eq_self`: the canonical form is canonical, and a canonical
  blueprint is its own canonical form.
* `preserves_canonical`: the canonical form loses no constraint, and is its own canonical form.
-/

namespace SchemaShift

/-! ## What may differ -/

/-- A column is as it was, or has a role where it had none. -/
def Column.Gains (old new : Column) : Prop :=
  new = old ∨ old.foreign = none ∧ ∃ role, new = { old with foreign := some role }

/-- Two foreign keys of a table are the same but for the spelling of their name. -/
def ForeignKey.SameKey (table : String) (a b : ForeignKey) : Prop :=
  a.SameLink b ∧ a.resolvedName table = b.resolvedName table

/-- Two indexes of a table are the same but for the spelling of their name, which a primary key
does not use. -/
def Index.SameKey (table : String) (a b : Index) : Prop :=
  a.kind = b.kind ∧ a.columns = b.columns ∧
    (b.kind ≠ .primary → a.resolvedName table = b.resolvedName table)

/-- Two commands on a table are the same but for the spelling of the names of keys. -/
def Command.SameKey (table : String) : Command → Command → Prop
  | addIndex i, addIndex j => i.SameKey table j
  | addForeign f, addForeign g => f.SameKey table g
  | c, c' => c = c'

/-- A foreign key with its name spelled out. -/
def ForeignKey.named (table : String) (fk : ForeignKey) : ForeignKey :=
  { fk with name := some (fk.resolvedName table) }

namespace Column.Gains

variable {a b c : Column}

theorem refl (c : Column) : c.Gains c := .inl rfl

theorem name_eq (h : a.Gains b) : b.name = a.name := by
  rcases h with rfl | ⟨-, role, rfl⟩ <;> rfl

theorem autoIncrement_eq (h : a.Gains b) : b.autoIncrement = a.autoIncrement := by
  rcases h with rfl | ⟨-, role, rfl⟩ <;> rfl

theorem change_eq (h : a.Gains b) : b.change = a.change := by
  rcases h with rfl | ⟨-, role, rfl⟩ <;> rfl

theorem eq_of_foreign_eq_none (h : a.Gains b) (roleless : b.foreign = none) : b = a := by
  rcases h with same | ⟨-, role, rfl⟩
  · exact same
  · cases roleless

/-- A column that has a role stays as it is. -/
theorem eq_of_foreign_ne_none (h : a.Gains b) (taken : a.foreign ≠ none) : b = a := by
  rcases h with same | ⟨roleless, -⟩
  · exact same
  · exact absurd roleless taken

theorem trans (ab : a.Gains b) (bc : b.Gains c) : a.Gains c := by
  by_cases taken : b.foreign = none
  · rwa [← ab.eq_of_foreign_eq_none taken]
  · rwa [bc.eq_of_foreign_ne_none taken]

end Column.Gains

/-- Two lists are related through a third one exactly when their elements are. -/
theorem forall₂_exists_iff {α β γ : Type} {R : α → β → Prop} {S : β → γ → Prop} {xs : List α}
    {zs : List γ} :
    List.Forall₂ (fun x z => ∃ y, R x y ∧ S y z) xs zs ↔
      ∃ ys, List.Forall₂ R xs ys ∧ List.Forall₂ S ys zs := by
  constructor
  · intro h
    induction h with
    | nil => exact ⟨[], .nil, .nil⟩
    | cons related _ ih =>
      obtain ⟨y, first, second⟩ := related
      obtain ⟨ys, firsts, seconds⟩ := ih
      exact ⟨y :: ys, .cons first firsts, .cons second seconds⟩
  · rintro ⟨ys, firsts, seconds⟩
    induction firsts generalizing zs with
    | nil =>
      cases seconds
      exact .nil
    | cons first _ ih =>
      cases seconds with
      | cons second seconds => exact .cons ⟨_, first, second⟩ (ih seconds)

/-- What is transitive between elements is so between lists of them. -/
theorem forall₂_trans {α : Type} {R : α → α → Prop} {xs ys zs : List α}
    (trans : ∀ {a b c : α}, R a b → R b c → R a c) (first : List.Forall₂ R xs ys)
    (second : List.Forall₂ R ys zs) : List.Forall₂ R xs zs :=
  (forall₂_exists_iff.2 ⟨ys, first, second⟩).imp fun _ _ ⟨_, ab, bc⟩ => trans ab bc

theorem ForeignKey.named_eq {table : String} {a b : ForeignKey} (h : a.SameKey table b) :
    a.named table = b.named table := by
  obtain ⟨⟨columns, target, references, onDelete, onUpdate⟩, name⟩ := h
  rw [named, named, name]
  cases a
  cases b
  simp_all

theorem ForeignKey.sameKey_forgetDerived (fk : ForeignKey) (table : String) :
    (fk.forgetDerived table).SameKey table fk := by
  refine ⟨?_, fk.resolvedName_forgetDerived table⟩
  unfold forgetDerived
  split <;> exact .refl fk

theorem Index.sameKey_forgetDerived (i : Index) (table : String) :
    (i.forgetDerived table).SameKey table i :=
  ⟨i.kind_forgetDerived table, i.columns_forgetDerived table, i.resolvedName_forgetDerived table⟩

theorem Index.forgetDerived_forgetDerived (i : Index) (table : String) :
    (i.forgetDerived table).forgetDerived table = i.forgetDerived table := by
  unfold forgetDerived
  split
  · exact ite_self _
  · rfl

theorem ForeignKey.forgetDerived_forgetDerived (fk : ForeignKey) (table : String) :
    (fk.forgetDerived table).forgetDerived table = fk.forgetDerived table := by
  unfold forgetDerived
  split
  · exact ite_self _
  · rfl

namespace Blueprint

/-! ## Giving roles -/

/-- The foreign keys that the roles of columns stand for. -/
def roleKeys (columns : List Column) : List ForeignKey :=
  columns.filterMap fun c => c.foreign.map fun role => role.toKey c.name

/-- A role goes to a column of its name that has none. -/
theorem giveRole_eq_some {name : String} {role : ForeignRole} {columns given : List Column}
    (h : giveRole name role columns = some given) :
    ∃ before c after, columns = before ++ c :: after ∧ c.name = name ∧ c.foreign = none ∧
      given = before ++ { c with foreign := some role } :: after := by
  induction columns generalizing given with
  | nil => cases h
  | cons first columns ih =>
    rw [giveRole] at h
    split at h
    · rename_i free
      cases h
      exact ⟨[], first, columns, rfl, free.1, free.2, rfl⟩
    · obtain ⟨rest, hrest, rfl⟩ := Option.map_eq_some_iff.1 h
      obtain ⟨before, c, after, rfl, named, roleless, rfl⟩ := ih hrest
      exact ⟨first :: before, c, after, rfl, named, roleless, rfl⟩

/-- There is nowhere for a role to go when every column of its name has one. -/
theorem giveRole_eq_none_iff {name : String} {role : ForeignRole} {columns : List Column} :
    giveRole name role columns = none ↔ ∀ c ∈ columns, c.name = name → c.foreign ≠ none := by
  induction columns with
  | nil => simp [giveRole]
  | cons c columns ih =>
    rw [giveRole, List.forall_mem_cons]
    split
    · rename_i free
      simp [free]
    · rename_i taken
      rw [Option.map_eq_none_iff, ih]
      constructor
      · exact fun others => ⟨fun named roleless => taken ⟨named, roleless⟩, others⟩
      · exact fun all => all.2

theorem gains_giveRole {name : String} {role : ForeignRole} {columns given : List Column}
    (h : giveRole name role columns = some given) : List.Forall₂ Column.Gains columns given := by
  obtain ⟨before, c, after, rfl, -, roleless, rfl⟩ := giveRole_eq_some h
  have same : ∀ cs : List Column, List.Forall₂ Column.Gains cs cs :=
    fun cs => List.forall₂_same.2 fun c _ => .refl c
  exact List.rel_append (same before) (.cons (.inr ⟨roleless, role, rfl⟩) (same after))

theorem roleKeys_giveRole {name : String} {role : ForeignRole} {columns given : List Column}
    (h : giveRole name role columns = some given) :
    (roleKeys given).Perm (role.toKey name :: roleKeys columns) := by
  obtain ⟨before, c, after, rfl, rfl, roleless, rfl⟩ := giveRole_eq_some h
  simp only [roleKeys, List.filterMap_append, List.filterMap_cons, roleless, Option.map_some,
    Option.map_none]
  exact List.perm_middle

/-- A key that can be a role is that role's key. -/
theorem toKey_of_role?_eq_some {fk : ForeignKey} {name : String} {role : ForeignRole}
    (h : role? fk = some (name, role)) : role.toKey name = fk := by
  unfold role? at h
  split at h
  · rename_i column reference columns references
    cases h
    cases fk
    simp_all [ForeignRole.toKey]
  · cases h

/-! ## One pass -/

/-- An index that the canonical form of a blueprint leaves out: the primary key on the
auto-incrementing column alone, or a plain index named after a foreign key. -/
def Redundant (b : Blueprint) (i : Index) : Prop :=
  (i.kind = .primary ∧ ∃ c, b.autoIncrement? = some c ∧ i.columns = [c.name]) ∨
    (i.kind = .index ∧ ∃ fk, .addForeign fk ∈ b.commands ∧ i.name = some (fk.resolvedName b.table))

/-- A foreign key of a table has become the role of a column that had none. -/
def Turned (table : String) (old new : List Column) (fk : ForeignKey) : Prop :=
  ∃ (n : Nat) (c : Column) (role : ForeignRole),
    old[n]? = some c ∧ c.foreign = none ∧ new[n]? = some { c with foreign := some role } ∧
      (role.toKey c.name).SameKey table fk

/-- The commands of a blueprint that are left when redundant indexes are left out and foreign keys
become roles of the new columns. -/
inductive Thins (b : Blueprint) (new : List Column) : List Command → List Command → Prop
  | nil : Thins b new [] []
  | keep {c c' : Command} {cs cs' : List Command} (same : c'.SameKey b.table c)
      (needed : ∀ i, c = .addIndex i → ¬ b.Redundant i)
      (others : Thins b new cs cs') : Thins b new (c :: cs) (c' :: cs')
  | omit {i : Index} {cs cs' : List Command} (redundant : b.Redundant i)
      (others : Thins b new cs cs') : Thins b new (.addIndex i :: cs) cs'
  | turn {fk : ForeignKey} {cs cs' : List Command} (turned : Turned b.table b.columns new fk)
      (others : Thins b new cs cs') : Thins b new (.addForeign fk :: cs) cs'

/-- An index is left out exactly when it is redundant. -/
theorem omits_surroundings_iff {b : Blueprint} {i : Index} :
    b.surroundings.omits i = true ↔ b.Redundant i := by
  unfold Redundant Surroundings.omits surroundings
  cases kind : i.kind with
  | primary =>
    cases b.autoIncrement? with
    | none => rcases i.columns with - | ⟨first, - | ⟨second, rest⟩⟩ <;> simp
    | some c => rcases i.columns with - | ⟨first, - | ⟨second, rest⟩⟩ <;> simp
  | unique => simp
  | index =>
    cases named : i.name with
    | none => simp
    | some name => simp [mem_foreignKeys_iff, eq_comm]

namespace Surroundings

variable (s : Surroundings)

theorem steps_cons (columns : List Column) (c : Command) (cs : List Command) :
    s.steps columns (c :: cs) =
      ((s.steps (s.step columns c).1 cs).1,
        (s.step columns c).2 ++ (s.steps (s.step columns c).1 cs).2) := rfl

/-- A foreign key becomes a role, or stays a command if there is no column for it. -/
theorem step_addForeign_cases (columns : List Column) (fk : ForeignKey) :
    (∃ name role given, role? (fk.forgetDerived s.table) = some (name, role) ∧
        giveRole name role columns = some given ∧
        s.step columns (.addForeign fk) = (given, [])) ∨
      (∀ name role, role? (fk.forgetDerived s.table) = some (name, role) →
        giveRole name role columns = none) ∧
        s.step columns (.addForeign fk) = (columns, [.addForeign (fk.forgetDerived s.table)]) := by
  rw [step]
  dsimp only
  split
  · rename_i given h
    obtain ⟨⟨name, role⟩, plain, given⟩ := Option.bind_eq_some_iff.1 h
    exact .inl ⟨name, role, _, plain, given, rfl⟩
  · rename_i h
    rw [Option.bind_eq_none_iff] at h
    exact .inr ⟨fun name role plain => h (name, role) plain, rfl⟩

/-- A command only gives roles to columns that have none. -/
theorem gains_step (columns : List Column) (c : Command) :
    List.Forall₂ Column.Gains columns (s.step columns c).1 := by
  have same : List.Forall₂ Column.Gains columns columns := List.forall₂_same.2 fun c _ => .refl c
  cases c with
  | addForeign fk =>
    rcases s.step_addForeign_cases columns fk with ⟨_, _, _, -, given, step⟩ | ⟨-, step⟩
    · rw [step]
      exact gains_giveRole given
    · rw [step]
      exact same
  | _ => exact same

/-- A pass only gives roles to columns that have none. -/
theorem gains_steps (columns : List Column) (cs : List Command) :
    List.Forall₂ Column.Gains columns (s.steps columns cs).1 := by
  induction cs generalizing columns with
  | nil => exact List.forall₂_same.2 fun c _ => .refl c
  | cons c cs ih =>
    rw [steps_cons]
    exact forall₂_trans .trans (s.gains_step columns c) (ih _)

end Surroundings

/-- What stands at a place is there before and after, if it is there at all. -/
theorem getElem?_of_gains {old new : List Column} (h : List.Forall₂ Column.Gains old new)
    (n : Nat) : Option.Rel Column.Gains old[n]? new[n]? := by
  induction h generalizing n with
  | nil => exact .none
  | cons gain _ ih =>
    cases n with
    | zero => exact .some gain
    | succ n => exact ih n

/-- A column that is there after a pass was there before, perhaps without its role. -/
theorem exists_of_mem_gains {old new : List Column} (h : List.Forall₂ Column.Gains old new)
    {c : Column} (hc : c ∈ new) : ∃ before ∈ old, before.Gains c := by
  induction h with
  | nil => cases hc
  | cons gain _ ih =>
    rcases List.mem_cons.1 hc with rfl | later
    · exact ⟨_, List.mem_cons_self, gain⟩
    · obtain ⟨before, mem, gains⟩ := ih later
      exact ⟨before, List.mem_cons_of_mem _ mem, gains⟩

/-- A role that a pass gives is still there at its end, and it was not there at the start. -/
theorem turned_of_giveRole {table name : String} {role : ForeignRole} {fk : ForeignKey}
    {old columns given new : List Column} (before : List.Forall₂ Column.Gains old columns)
    (h : giveRole name role columns = some given) (after : List.Forall₂ Column.Gains given new)
    (key : (role.toKey name).SameKey table fk) : Turned table old new fk := by
  obtain ⟨front, c, back, rfl, rfl, roleless, rfl⟩ := giveRole_eq_some h
  have started := getElem?_of_gains before front.length
  have ended := getElem?_of_gains after front.length
  rw [List.getElem?_append_right (Nat.le_refl _), Nat.sub_self, List.getElem?_cons_zero] at started
  rw [List.getElem?_append_right (Nat.le_refl _), Nat.sub_self, List.getElem?_cons_zero] at ended
  generalize first : old[front.length]? = a at started
  generalize last : new[front.length]? = z at ended
  cases started with
  | some gain =>
    cases ended with
    | some gain' =>
      rw [← gain.eq_of_foreign_eq_none roleless] at first
      rw [gain'.eq_of_foreign_ne_none (by simp)] at last
      exact ⟨_, c, role, first, roleless, last, key⟩

/-- A pass leaves out redundant indexes and the foreign keys that become roles, and keeps all other
commands in their order. -/
theorem thins_steps (b : Blueprint) {columns : List Column} (cs : List Command)
    (before : List.Forall₂ Column.Gains b.columns columns) :
    b.Thins (b.surroundings.steps columns cs).1 cs (b.surroundings.steps columns cs).2 := by
  induction cs generalizing columns with
  | nil => exact .nil
  | cons c cs ih =>
    have others := ih (forall₂_trans .trans before (b.surroundings.gains_step columns c))
    cases c with
    | addIndex i =>
      rw [Surroundings.steps_cons]
      by_cases omitted : b.surroundings.omits i = true
      · have out : (b.surroundings.step columns (.addIndex i)).2 = [] := if_pos omitted
        rw [out]
        exact .omit (omits_surroundings_iff.1 omitted) others
      · have out : (b.surroundings.step columns (.addIndex i)).2 =
            [.addIndex (i.forgetDerived b.table)] := if_neg omitted
        rw [out]
        refine .keep (i.sameKey_forgetDerived b.table) ?_ others
        rintro _ ⟨⟩ redundant
        exact omitted (omits_surroundings_iff.2 redundant)
    | addForeign fk =>
      rw [Surroundings.steps_cons]
      rcases b.surroundings.step_addForeign_cases columns fk with
        ⟨name, role, given, plain, giving, step⟩ | ⟨-, step⟩
      · rw [step] at others ⊢
        have key : (role.toKey name).SameKey b.table fk := by
          rw [toKey_of_role?_eq_some plain]
          exact fk.sameKey_forgetDerived b.table
        exact .turn (turned_of_giveRole before giving (b.surroundings.gains_steps given cs) key)
          others
      · rw [step] at others ⊢
        exact .keep (fk.sameKey_forgetDerived b.table) nofun others
    | _ => exact .keep rfl nofun others

/-! ## The foreign keys -/

/-- The foreign keys of a blueprint's commands and roles, with their names spelled out. -/
def compiledKeys (b : Blueprint) : List ForeignKey :=
  (b.compiledCommands.filterMap Command.foreignKey?).map (·.named b.table)

/-- The foreign keys that commands and the roles of columns stand for, with their names spelled
out. -/
def namedKeys (table : String) (columns : List Column) (cs : List Command) : List ForeignKey :=
  (cs.filterMap Command.foreignKey? ++ roleKeys columns).map (·.named table)

theorem compiledKeys_eq {b : Blueprint} (new : ∀ c ∈ b.columns, c.change = false) :
    b.compiledKeys = namedKeys b.table b.columns b.commands := by
  have added : b.addedColumns = b.columns := by
    rw [addedColumns, List.filter_eq_self]
    intro c hc
    rw [new c hc]
    rfl
  have leading : b.impliedLeading.filterMap Command.foreignKey? = [] := by
    unfold impliedLeading
    repeat' split
    all_goals rfl
  have implied : (b.impliedForeignKeys.map Command.addForeign).filterMap Command.foreignKey? =
      b.impliedForeignKeys := by
    rw [List.filterMap_map]
    exact List.filterMap_some
  rw [compiledKeys, namedKeys, compiledCommands, List.filterMap_append, List.filterMap_append,
    leading, implied, List.nil_append, impliedForeignKeys, added, roleKeys]

/-- A command turns into foreign keys of the same kind, wherever they stand. -/
theorem keys_step (s : Surroundings) (columns : List Column) (c : Command) :
    (namedKeys s.table (s.step columns c).1 (s.step columns c).2).Perm
      (namedKeys s.table columns [c]) := by
  cases c with
  | addForeign fk =>
    have same := ForeignKey.named_eq (fk.sameKey_forgetDerived s.table)
    rcases s.step_addForeign_cases columns fk with
      ⟨name, role, given, plain, giving, step⟩ | ⟨-, step⟩
    · have keys := (roleKeys_giveRole giving).map (·.named s.table)
      rw [toKey_of_role?_eq_some plain, List.map_cons, same] at keys
      rw [step]
      exact keys
    · rw [step]
      simp [namedKeys, Command.foreignKey?, same]
  | addIndex i =>
    rw [Surroundings.step]
    split <;> exact .refl _
  | _ => exact .refl _

/-- The keys of some commands stand ahead of those of others. -/
theorem namedKeys_append (table : String) (columns : List Column) (xs ys : List Command) :
    namedKeys table columns (xs ++ ys) =
      namedKeys table [] xs ++ namedKeys table columns ys := by
  simp [namedKeys, roleKeys]

/-- The keys of commands may change places. -/
theorem namedKeys_append_perm (table : String) (columns : List Column) (xs ys : List Command) :
    (namedKeys table columns (xs ++ ys)).Perm
      (namedKeys table [] ys ++ namedKeys table columns xs) := by
  rw [← namedKeys_append, namedKeys, namedKeys, List.filterMap_append, List.filterMap_append]
  exact (List.perm_append_comm.append_right _).map _

/-- A pass keeps the foreign keys. -/
theorem keys_steps (s : Surroundings) (columns : List Column) (cs : List Command) :
    (namedKeys s.table (s.steps columns cs).1 (s.steps columns cs).2).Perm
      (namedKeys s.table columns cs) := by
  induction cs generalizing columns with
  | nil => exact .refl _
  | cons c cs ih =>
    have first := keys_step s columns c
    rw [Surroundings.steps_cons]
    generalize s.step columns c = stepped at first ⊢
    obtain ⟨next, out⟩ := stepped
    rw [namedKeys_append]
    refine ((ih next).append_left _).trans ?_
    rw [← namedKeys_append]
    calc
      List.Perm (namedKeys s.table next (out ++ cs))
          (namedKeys s.table [] cs ++ namedKeys s.table next out) := namedKeys_append_perm ..
      List.Perm _ (namedKeys s.table [] cs ++ namedKeys s.table columns [c]) :=
        first.append_left _
      List.Perm _ (namedKeys s.table columns ([c] ++ cs)) := (namedKeys_append_perm ..).symm

/-! ## Canonical blueprints -/

/-- No index is redundant, no key has the derived name, no primary key has a name, and no foreign
key has a column without a role that it could be. -/
structure IsCanonical (b : Blueprint) : Prop where
  needed : ∀ i, .addIndex i ∈ b.commands → ¬ b.Redundant i
  indexes : ∀ i, .addIndex i ∈ b.commands → i.forgetDerived b.table = i
  keys : ∀ fk, .addForeign fk ∈ b.commands → fk.forgetDerived b.table = fk
  roles : ∀ fk column role, .addForeign fk ∈ b.commands → role? fk = some (column, role) →
    ∀ c ∈ b.columns, c.name = column → c.foreign ≠ none

/-- A pass over commands that are in canonical form changes nothing. -/
theorem steps_eq_self {b : Blueprint} (canonical : b.IsCanonical) {cs : List Command}
    (h : ∀ c ∈ cs, c ∈ b.commands) : b.surroundings.steps b.columns cs = (b.columns, cs) := by
  have step : ∀ c ∈ b.commands, b.surroundings.step b.columns c = (b.columns, [c]) := by
    intro c hc
    cases c with
    | addIndex i =>
      have kept : ¬ b.surroundings.omits i = true :=
        fun omitted => canonical.needed i hc (omits_surroundings_iff.1 omitted)
      rw [Surroundings.step, if_neg kept]
      exact congrArg (fun i => (b.columns, [Command.addIndex i])) (canonical.indexes i hc)
    | addForeign fk =>
      have plain : fk.forgetDerived b.surroundings.table = fk := canonical.keys fk hc
      rcases b.surroundings.step_addForeign_cases b.columns fk with
        ⟨name, role, given, roled, giving, -⟩ | ⟨-, step⟩
      · rw [plain] at roled
        rw [giveRole_eq_none_iff.2 (canonical.roles fk name role hc roled)] at giving
        cases giving
      · rw [step, plain]
    | _ => rfl
  induction cs with
  | nil => rfl
  | cons c cs ih =>
    rw [Surroundings.steps_cons, step c (h c List.mem_cons_self),
      ih fun c hc => h c (List.mem_cons_of_mem _ hc)]
    rfl

/-- A canonical blueprint is its own canonical form. -/
theorem canonical_eq_self {b : Blueprint} (canonical : b.IsCanonical) : b.canonical = b := by
  rw [Blueprint.canonical, steps_eq_self canonical fun _ hc => hc]

/-- What a pass makes of commands has lost its derived names, its redundant indexes and the foreign
keys that some column could have taken as a role. -/
theorem mem_steps {s : Surroundings} {columns : List Column} {cs : List Command} {c : Command}
    (h : c ∈ (s.steps columns cs).2) :
    (∃ i, .addIndex i ∈ cs ∧ s.omits i = false ∧ c = .addIndex (i.forgetDerived s.table)) ∨
      (∃ fk, .addForeign fk ∈ cs ∧ c = .addForeign (fk.forgetDerived s.table) ∧
        ∀ name role, role? (fk.forgetDerived s.table) = some (name, role) →
          ∀ d ∈ (s.steps columns cs).1, d.name = name → d.foreign ≠ none) ∨
      c.index? = none ∧ c.foreignKey? = none := by
  induction cs generalizing columns with
  | nil => cases h
  | cons first cs ih =>
    rw [Surroundings.steps_cons] at h ⊢
    rcases List.mem_append.1 h with now | later
    · cases first with
      | addIndex i =>
        rw [Surroundings.step] at now
        split at now
        · cases now
        · rename_i kept
          cases List.mem_singleton.1 now
          exact .inl ⟨i, List.mem_cons_self, by simpa using kept, rfl⟩
      | addForeign fk =>
        rcases s.step_addForeign_cases columns fk with ⟨_, _, _, -, -, step⟩ | ⟨taken, step⟩
        · rw [step] at now
          cases now
        · rw [step] at now
          cases List.mem_singleton.1 now
          refine .inr (.inl ⟨fk, List.mem_cons_self, rfl, ?_⟩)
          intro name role plain d hd named
          -- the columns that had a role then still have it at the end
          obtain ⟨old, hold, gain⟩ := exists_of_mem_gains (s.gains_steps _ cs) hd
          rw [step] at hold
          have was := giveRole_eq_none_iff.1 (taken name role plain) old hold
            (by rw [← gain.name_eq, named])
          rw [gain.eq_of_foreign_ne_none was]
          exact was
      | _ =>
        cases List.mem_singleton.1 now
        exact .inr (.inr ⟨rfl, rfl⟩)
    · rcases ih later with ⟨i, hi, kept⟩ | ⟨fk, hfk, kept⟩ | other
      · exact .inl ⟨i, List.mem_cons_of_mem _ hi, kept⟩
      · exact .inr (.inl ⟨fk, List.mem_cons_of_mem _ hfk, kept⟩)
      · exact .inr (.inr other)

/-- The auto-incrementing column keeps its name when columns gain roles. -/
theorem autoIncrement?_of_gains {old new : List Column} (h : List.Forall₂ Column.Gains old new) :
    (new.find? (·.autoIncrement)).map (·.name) = (old.find? (·.autoIncrement)).map (·.name) := by
  induction h with
  | nil => rfl
  | @cons a b _ _ gain _ ih =>
    rw [List.find?_cons, List.find?_cons, gain.autoIncrement_eq]
    cases a.autoIncrement with
    | true => exact congrArg some gain.name_eq
    | false => exact ih

theorem gains_canonical (b : Blueprint) :
    List.Forall₂ Column.Gains b.columns b.canonical.columns := b.surroundings.gains_steps _ _

/-- A foreign key of the canonical form has the name of one that was there. -/
theorem exists_resolvedName_of_canonical {b : Blueprint} {fk : ForeignKey}
    (h : .addForeign fk ∈ b.canonical.commands) :
    ∃ old, .addForeign old ∈ b.commands ∧ fk.resolvedName b.table = old.resolvedName b.table := by
  rcases mem_steps h with ⟨_, -, -, ⟨⟩⟩ | ⟨old, hold, same, -⟩ | ⟨-, other⟩
  · cases same
    exact ⟨old, hold, old.resolvedName_forgetDerived b.table⟩
  · cases other

/-- What is redundant in the canonical form is so before, also under the name it had there. -/
theorem redundant_of_canonical {b : Blueprint} {i : Index}
    (h : b.canonical.Redundant (i.forgetDerived b.table)) : b.Redundant i := by
  rw [Redundant, i.kind_forgetDerived, i.columns_forgetDerived] at h
  rcases h with ⟨kind, c, found, columns⟩ | ⟨kind, fk, hfk, named⟩
  · have names := autoIncrement?_of_gains b.gains_canonical
    rw [autoIncrement?] at found
    rw [found] at names
    obtain ⟨old, first, same⟩ := Option.map_eq_some_iff.1 names.symm
    exact .inl ⟨kind, old, first, by rw [columns, same]⟩
  · obtain ⟨old, hold, same⟩ := exists_resolvedName_of_canonical hfk
    refine .inr ⟨kind, old, hold, ?_⟩
    rw [← same]
    unfold Index.forgetDerived at named
    split at named
    · cases named
    · exact named

/-- The canonical form is canonical. -/
theorem isCanonical_canonical (b : Blueprint) : b.canonical.IsCanonical where
  needed := by
    intro i hi redundant
    rcases mem_steps hi with ⟨old, -, kept, ⟨⟩⟩ | ⟨_, -, ⟨⟩, -⟩ | ⟨⟨⟩, -⟩
    rw [omits_surroundings_iff.2 (redundant_of_canonical redundant)] at kept
    cases kept
  indexes := by
    intro i hi
    rcases mem_steps hi with ⟨old, -, -, ⟨⟩⟩ | ⟨_, -, ⟨⟩, -⟩ | ⟨⟨⟩, -⟩
    exact old.forgetDerived_forgetDerived b.table
  keys := by
    intro fk hfk
    rcases mem_steps hfk with ⟨_, -, -, ⟨⟩⟩ | ⟨old, -, ⟨⟩, -⟩ | ⟨-, ⟨⟩⟩
    exact old.forgetDerived_forgetDerived b.table
  roles := by
    intro fk column role hfk plain
    rcases mem_steps hfk with ⟨_, -, -, ⟨⟩⟩ | ⟨old, -, ⟨⟩, taken⟩ | ⟨-, ⟨⟩⟩
    exact taken column role plain

/-! ## What the canonical form preserves -/

/-- Nothing that constrains a table is lost between two blueprints of it. -/
structure Preserves (b new : Blueprint) : Prop where
  table : new.table = b.table
  engine : new.engine = b.engine
  /-- Columns stay as they are, but may gain a role. -/
  columns : List.Forall₂ Column.Gains b.columns new.columns
  /-- Commands stay in order, but for redundant indexes and foreign keys that became roles. -/
  commands : b.Thins new.columns b.commands new.commands
  /-- The foreign keys to compile are the same. -/
  keys : new.compiledKeys.Perm b.compiledKeys

/-- The canonical form of a blueprint that redefines no column loses no constraint, and is its own
canonical form. -/
theorem preserves_canonical {b : Blueprint} (new : ∀ c ∈ b.columns, c.change = false) :
    b.Preserves b.canonical ∧ b.canonical.canonical = b.canonical := by
  have unchanged : ∀ c ∈ b.canonical.columns, c.change = false := by
    intro c hc
    obtain ⟨old, hold, gain⟩ := exists_of_mem_gains b.gains_canonical hc
    rw [gain.change_eq]
    exact new old hold
  refine ⟨⟨rfl, rfl, b.gains_canonical, ?_, ?_⟩, canonical_eq_self b.isCanonical_canonical⟩
  · exact thins_steps b b.commands (List.forall₂_same.2 fun c _ => .refl c)
  · rw [compiledKeys_eq unchanged, compiledKeys_eq new]
    exact keys_steps b.surroundings b.columns b.commands

/-- Comments with a primary key on their number, an index named after a foreign key, and two
foreign keys on the author of which the second finds the role of the column taken. -/
def comments : Blueprint :=
  { table := "comments"
    columns :=
      [{ name := "id", type := .bigInteger, autoIncrement := true },
        { name := "author", type := .integer },
        { name := "post", type := .integer,
          foreign := some { table := "posts", column := "id" } }]
    commands :=
      [.create, .addIndex { kind := .primary, columns := ["id"], name := some "comments_pkey" },
        .addIndex { kind := .index, columns := ["author"], name := some "comments_author_foreign" },
        .addIndex
          { kind := .unique, columns := ["post"], name := some "comments_post_unique" },
        .addForeign
          { columns := ["author"], table := "users", references := ["id"],
            onDelete := some .cascade, name := some "comments_author_foreign" },
        .addForeign { columns := ["author"], table := "people", references := ["id"] },
        .addForeign { columns := ["missing"], table := "people", references := ["id"] }] }

theorem preserves_canonical_comments :
    (∀ c ∈ comments.columns, c.change = false) ∧
      comments.canonical.commands =
        [.create, .addIndex { kind := .unique, columns := ["post"] },
          .addForeign { columns := ["author"], table := "people", references := ["id"] },
          .addForeign { columns := ["missing"], table := "people", references := ["id"] }] ∧
      comments.Preserves comments.canonical ∧
      comments.canonical.canonical = comments.canonical :=
  have new : ∀ c ∈ comments.columns, c.change = false := by decide
  ⟨new, by decide +kernel, preserves_canonical new⟩

end Blueprint

end SchemaShift
