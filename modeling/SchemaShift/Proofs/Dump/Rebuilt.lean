import SchemaShift.Dump.Render
import SchemaShift.Migration.Document
import SchemaShift.Proofs.Blueprint.Canonical
import SchemaShift.Proofs.Codec.Migration
import SchemaShift.Proofs.Ddl.Reading
import SchemaShift.Proofs.Session.Actions

/-!
# A dump rebuilds the schema

Catalogs and scripts describe a table by one command that makes it, then its indexes and then its
foreign keys, and canonical form keeps that order. It is the order in which a table plan takes
effect, so that a plan made from such a blueprint gives it back. What a dump adds to this is the
way through plain data and, where it is asked for, another order of the columns.

Results:
* `inPlanOrder_of_described`: what catalogs and scripts describe stands in the order of a plan.
* `prioritized_sortedColumns`: columns by priority keep their order where the priority is the same.
* `perm_inOrder`: a dump creates each table once.
* `exists_rebuilt`: the document of a dump creates the tables it was made from.
-/

namespace SchemaShift

/-! ## What catalogs and scripts describe -/

/-- A blueprint as the catalog of some session or a script describes it. -/
inductive Described (b : Blueprint) : Prop
  | live {σ : Type} {session : Session σ} {name : String} {x x' : σ}
      (read : (Catalog.table session name).result x = (.ok b, x'))
  | script {sql : String} {bs : List Blueprint} (read : Ddl.readTables sql = .ok bs) (mem : b ∈ bs)

namespace Blueprint

/-- The commands make the table, then add its indexes, and then its foreign keys. -/
def InPlanOrder (b : Blueprint) : Prop :=
  b.commands = .create :: b.indexes.map .addIndex ++ b.foreignKeys.map .addForeign

theorem inPlanOrder_of_commands_eq {b : Blueprint} {is : List Index} {fks : List ForeignKey}
    (h : b.commands = .create :: is.map .addIndex ++ fks.map .addForeign) : b.InPlanOrder := by
  have index : Command.index? ∘ Command.addIndex = some := rfl
  have noIndex : Command.index? ∘ Command.addForeign = fun _ => none := rfl
  have key : Command.foreignKey? ∘ Command.addForeign = some := rfl
  have noKey : Command.foreignKey? ∘ Command.addIndex = fun _ => none := rfl
  have indexes : b.indexes = is := by
    rw [Blueprint.indexes, h, List.filterMap_append, List.filterMap_cons_none rfl,
      List.filterMap_map, List.filterMap_map, index, noIndex, List.filterMap_some]
    simp
  have keys : b.foreignKeys = fks := by
    rw [Blueprint.foreignKeys, h, List.filterMap_append, List.filterMap_cons_none rfl,
      List.filterMap_map, List.filterMap_map, key, noKey, List.filterMap_some]
    simp
  rw [InPlanOrder, indexes, keys, h]

/-- A pass over some commands and then over others. -/
theorem Surroundings.steps_append (s : Surroundings) (columns : List Column)
    (xs ys : List Command) :
    s.steps columns (xs ++ ys) =
      ((s.steps (s.steps columns xs).1 ys).1,
        (s.steps columns xs).2 ++ (s.steps (s.steps columns xs).1 ys).2) := by
  induction xs generalizing columns with
  | nil => rfl
  | cons x xs ih =>
    rw [List.cons_append, steps_cons, steps_cons, ih, List.append_assoc]

/-- Of indexes a pass leaves indexes. -/
theorem Surroundings.exists_steps_indexes (s : Surroundings) (columns : List Column)
    (is : List Index) :
    ∃ kept : List Index, (s.steps columns (is.map .addIndex)).2 = kept.map .addIndex := by
  induction is with
  | nil => exact ⟨[], rfl⟩
  | cons i is ih =>
    obtain ⟨kept, others⟩ := ih
    have same : (s.step columns (.addIndex i)).1 = columns := rfl
    rw [List.map_cons, steps_cons, same, others, step]
    split
    · exact ⟨kept, rfl⟩
    · exact ⟨i.forgetDerived s.table :: kept, rfl⟩

/-- Of foreign keys a pass leaves foreign keys. -/
theorem Surroundings.exists_steps_foreignKeys (s : Surroundings) (columns : List Column)
    (fks : List ForeignKey) :
    ∃ kept : List ForeignKey, (s.steps columns (fks.map .addForeign)).2 = kept.map .addForeign := by
  induction fks generalizing columns with
  | nil => exact ⟨[], rfl⟩
  | cons fk fks ih =>
    obtain ⟨kept, others⟩ := ih (s.step columns (.addForeign fk)).1
    rw [List.map_cons, steps_cons, others]
    rcases s.step_addForeign_cases columns fk with ⟨_, _, _, -, -, step⟩ | ⟨-, step⟩
    · exact ⟨kept, by rw [step]; rfl⟩
    · exact ⟨fk.forgetDerived s.table :: kept, by rw [step]; rfl⟩

/-- Canonical form keeps the order of a plan. -/
theorem inPlanOrder_canonical {b : Blueprint} {is : List Index} {fks : List ForeignKey}
    (h : b.commands = .create :: is.map .addIndex ++ fks.map .addForeign) :
    b.canonical.InPlanOrder := by
  obtain ⟨is', indexes⟩ := b.surroundings.exists_steps_indexes b.columns is
  obtain ⟨fks', keys⟩ := b.surroundings.exists_steps_foreignKeys
    (b.surroundings.steps b.columns (is.map .addIndex)).1 fks
  have commands : b.canonical.commands = .create :: is'.map .addIndex ++ fks'.map .addForeign := by
    show (b.surroundings.steps b.columns b.commands).2 = _
    rw [h, List.cons_append, Surroundings.steps_cons]
    show .create :: (b.surroundings.steps b.columns (is.map .addIndex ++ fks.map .addForeign)).2 =
      _
    rw [Surroundings.steps_append, indexes, keys]
    rfl
  exact inPlanOrder_of_commands_eq commands

end Blueprint

open Blueprint

theorem Ddl.inPlanOrder_of_readTable {tokens : List Token} {b : Blueprint}
    (h : readTable tokens = .ok b) : b.InPlanOrder := by
  unfold readTable at h
  obtain ⟨⟨⟨table, inside⟩, rest⟩, -, h⟩ := Except.bind_eq_ok_iff.1 h
  obtain ⟨parts, -, h⟩ := Except.bind_eq_ok_iff.1 h
  cases h
  exact inPlanOrder_canonical rfl

theorem Ddl.inPlanOrder_of_mapM {statements : List (List Token)} {bs : List Blueprint}
    (h : statements.mapM readTable = .ok bs) : ∀ b ∈ bs, b.InPlanOrder :=
  Except.forall_of_mapM_eq_ok (fun _ _ read => inPlanOrder_of_readTable read) h

/-- What catalogs and scripts describe stands in the order of a plan. -/
theorem inPlanOrder_of_described {b : Blueprint} (h : Described b) : b.InPlanOrder := by
  cases h with
  | live read =>
    unfold Catalog.table at read
    obtain ⟨columns, x₁, -, read⟩ := DbM.result_bind_eq_ok_iff.1 read
    split at read
    · cases read
    · obtain ⟨indexes, x₂, -, read⟩ := DbM.result_bind_eq_ok_iff.1 read
      obtain ⟨keys, x₃, -, read⟩ := DbM.result_bind_eq_ok_iff.1 read
      obtain ⟨rfl, -⟩ := DbM.result_pure_eq_ok_iff.1 read
      exact inPlanOrder_canonical rfl
  | script read mem =>
    unfold Ddl.readTables at read
    obtain ⟨tokens, -, read⟩ := Except.bind_eq_ok_iff.1 read
    exact Ddl.inPlanOrder_of_mapM read _ mem

/-- A plan made from a blueprint in this order gives it back. -/
theorem create_ofBlueprint {b : Blueprint} (h : b.InPlanOrder) :
    (TablePlan.ofBlueprint b).create = b := by
  rw [TablePlan.apply_ofBlueprint, ← h]

namespace Dump

/-! ## Columns by priority -/

/-- The classes of columns in the order of their priority: counting columns, those a foreign key
starts from, integers, strings and times. -/
def classes (b : Blueprint) : List (Column → Bool) :=
  [(·.autoIncrement),
    fun c => c.foreign.isSome || b.foreignKeys.any fun fk => fk.columns.contains c.name,
    fun c =>
      [ColumnType.bigInteger, .integer, .mediumInteger, .smallInteger,
        .tinyInteger].contains c.type,
    fun c => [ColumnType.string, .char].contains c.type,
    fun c => [ColumnType.timestamp, .dateTime].contains c.type]

/-- The priority of a column: the place of its first class. All columns without one come last. -/
def priority (b : Blueprint) (c : Column) : Nat := (classes b).findIdx fun holds => holds c

/-- A blueprint that is another one but for the order of its columns, which are sorted by priority
and keep their order where the priority is the same. -/
structure Prioritized (b new : Blueprint) : Prop where
  others : new = { b with columns := new.columns }
  perm : new.columns.Perm b.columns
  sorted : new.columns.Pairwise fun c d => priority b c ≤ priority b d
  stable : ∀ p, (new.columns.filter fun c => priority b c = p) =
    b.columns.filter fun c => priority b c = p

/-- The rank by which a dump sorts is the priority. -/
theorem rank_eq_priority (b : Blueprint) (c : Column) :
    rank (foreignColumns b) c = priority b c := by
  have foreign : (foreignColumns b).contains c.name =
      b.foreignKeys.any fun fk => fk.columns.contains c.name := by
    rw [Bool.eq_iff_iff]
    simp [foreignColumns]
  have integer : c.type.isInteger =
      [ColumnType.bigInteger, .integer, .mediumInteger, .smallInteger, .tinyInteger].contains
        c.type := by
    cases c.type <;> rfl
  have string : c.type.isString = [ColumnType.string, .char].contains c.type := by
    cases c.type <;> rfl
  have temporal : c.type.isTemporal = [ColumnType.timestamp, .dateTime].contains c.type := by
    cases c.type <;> rfl
  rw [rank, foreign, integer, string, temporal, priority, classes]
  simp only [List.findIdx_cons, List.findIdx_nil]
  -- what is left holds of any five flags
  generalize c.autoIncrement = counts
  generalize (c.foreign.isSome || b.foreignKeys.any _) = isForeign
  generalize List.contains _ c.type = isInteger
  generalize List.contains _ c.type = isString
  generalize List.contains _ c.type = isTemporal
  cases counts <;> cases isForeign <;> cases isInteger <;> cases isString <;> cases isTemporal <;>
    rfl

/-- Sorting by a key keeps the order of what has the same key. -/
theorem filter_mergeSort {α : Type} (key : α → Nat) (as : List α) (k : Nat) :
    ((as.mergeSort fun x y => decide (key x ≤ key y)).filter fun x => key x = k) =
      as.filter fun x => key x = k := by
  set le : α → α → Bool := fun x y => decide (key x ≤ key y) with hle
  have trans (x y z : α) (xy : le x y = true) (yz : le y z = true) : le x z = true := by
    simp only [hle, decide_eq_true_eq] at xy yz ⊢
    omega
  have total (x y : α) : (le x y || le y x) = true := by
    simp only [hle, Bool.or_eq_true, decide_eq_true_eq]
    omega
  have level : (as.filter fun x => key x = k).Pairwise fun x y => le x y = true := by
    rw [List.pairwise_filter]
    apply List.pairwise_of_forall
    intro x y hx hy
    simp only [decide_eq_true_eq] at hx hy
    simp [hle, hx, hy]
  have kept := (List.sublist_mergeSort trans total level List.filter_sublist).filter
    fun x => decide (key x = k)
  rw [List.filter_filter] at kept
  simp only [Bool.and_self] at kept
  have lengths := ((List.mergeSort_perm as le).filter fun x => decide (key x = k)).length_eq
  exact (kept.eq_of_length lengths.symm).symm

/-- Columns by priority keep their order where the priority is the same. -/
theorem prioritized_sortedColumns (b : Blueprint) :
    Prioritized b { b with columns := sortedColumns b b.columns } where
  others := rfl
  perm := sortedColumns_perm b b.columns
  sorted := by
    have sorted : (sortedColumns b b.columns).Pairwise fun c d =>
        decide (rank (foreignColumns b) c ≤ rank (foreignColumns b) d) = true :=
      List.pairwise_mergeSort (by simp only [decide_eq_true_eq]; omega)
        (by simp only [Bool.or_eq_true, decide_eq_true_eq]; omega) b.columns
    refine sorted.imp ?_
    intro c d le
    rw [decide_eq_true_eq, rank_eq_priority, rank_eq_priority] at le
    exact le
  stable := by
    intro p
    have stable := filter_mergeSort (rank (foreignColumns b)) b.columns p
    simp only [rank_eq_priority] at stable
    simp only [sortedColumns, rank_eq_priority]
    exact stable

/-! ## Tables -/

theorem filterMap_range_length {α : Type} (as : List α) :
    (List.range as.length).filterMap (as[·]?) = as := by
  induction as with
  | nil => rfl
  | cons a as ih =>
    have rest : ((List.range as.length).map Nat.succ).filterMap ((a :: as)[·]?) = as := by
      rw [List.filterMap_map]
      exact ih
    rw [List.length_cons, List.range_succ_eq_map]
    exact congrArg (a :: ·) rest

/-- A dump creates each table once. -/
theorem perm_inOrder (bs : List Blueprint) : (inOrder bs).Perm bs := by
  have placed := (placeAll_perm (dependencies bs) [] (List.range bs.length)).filterMap (bs[·]?)
  rw [filterMap_range_length] at placed
  exact placed

/-! ## The document -/

/-- What a plan of a dump makes again: the blueprint itself, or the blueprint with its columns by
priority. -/
def Rebuilt (b new : Blueprint) : ColumnOrder → Prop
  | .catalog => new = b
  | .priority => Prioritized b new

/-- The plan that a dump makes of a blueprint makes the blueprint again. -/
theorem rebuilt_plan {b : Blueprint} (h : b.InPlanOrder) (options : Options) :
    Rebuilt b (plan options b).create options.order := by
  have same := create_ofBlueprint h
  unfold plan
  cases options.order with
  | catalog => exact same
  | priority =>
    have columns : ({ TablePlan.ofBlueprint b with
        columns := sortedColumns b (TablePlan.ofBlueprint b).columns } : TablePlan).create =
          { (TablePlan.ofBlueprint b).create with columns := sortedColumns b b.columns } := by
      simp [TablePlan.create, TablePlan.apply, TablePlan.ofBlueprint, TablePlan.commands,
        Blueprint.create]
    show Prioritized b (TablePlan.create _)
    rw [columns, same]
    exact prioritized_sortedColumns b

/-- The document of a dump of described tables is read back, also from its text if that stands for
the same data. Its steps up then create every table once, as it was described but for the order of
columns by priority. -/
theorem exists_rebuilt {options : Options} {bs : List Blueprint}
    (described : ∀ b ∈ bs, Described b) :
    ∃ m : MigrationDocument,
      Node.decode MigrationDocument.ofNode (.native (document options bs).toDatum) = .ok m ∧
      (MigrationDocument.ofYaml (render options bs) =
          (Node.decode MigrationDocument.ofNode
            (.native (document options bs).toDatum)).mapError .yaml →
        MigrationDocument.ofYaml (render options bs) = .ok m) ∧
      (inOrder bs).Perm bs ∧
      List.Forall₂
        (fun b step => ∃ plan, step = .create plan ∧ Rebuilt b plan.create options.order)
        (inOrder bs) m.up := by
  have read := Node.decode_of_eq_pure (document options bs).ofNode_toDatum
  refine ⟨document options bs, read, ?_, perm_inOrder bs, ?_⟩
  · intro transported
    rw [transported, read]
    rfl
  · rw [document, List.forall₂_map_right_iff, List.forall₂_same]
    intro b hb
    have order := inPlanOrder_of_described (described b ((perm_inOrder bs).mem_iff.1 hb))
    exact ⟨_, rfl, rebuilt_plan order options⟩

/-- Posts with an author, which a dump by priority puts first. -/
def postsScript : String :=
  "CREATE TABLE posts (title TEXT, author INTEGER, UNIQUE (title), " ++
    "FOREIGN KEY (author, title) REFERENCES users (id, name))"

theorem exists_rebuilt_postsScript :
    ∃ bs, Ddl.readTables postsScript = .ok bs ∧ bs.length = 1 ∧ (∀ b ∈ bs, Described b) ∧
      ∃ m : MigrationDocument,
        Node.decode MigrationDocument.ofNode (.native (document {} bs).toDatum) = .ok m ∧
        (MigrationDocument.ofYaml (render {} bs) =
            (Node.decode MigrationDocument.ofNode
              (.native (document {} bs).toDatum)).mapError .yaml →
          MigrationDocument.ofYaml (render {} bs) = .ok m) ∧
        (inOrder bs).Perm bs ∧
        List.Forall₂ (fun b step => ∃ plan, step = .create plan ∧ Rebuilt b plan.create .priority)
          (inOrder bs) m.up := by
  have one : (Ddl.readTables postsScript).toOption.map List.length = some 1 := by decide +kernel
  cases read : Ddl.readTables postsScript with
  | error e =>
    rw [read] at one
    cases one
  | ok bs =>
    rw [read] at one
    have described : ∀ b ∈ bs, Described b := fun _ hb => .script read hb
    exact ⟨bs, rfl, Option.some_inj.1 one, described, exists_rebuilt described⟩

end Dump

end SchemaShift
