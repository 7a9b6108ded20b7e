import Mathlib.Data.List.Forall2
import Mathlib.Data.List.SplitBy
import SchemaShift.Catalog.Table
import SchemaShift.Proofs.Session.Actions

/-!
# Keys and indexes of several columns

A catalog reports a key over several columns row by row, and a descriptor is made of each run of
neighbouring rows with the same label: a name, or a number where keys have no names. The columns of
all descriptors, one behind the other, are those of the rows. Where the rows are in order of their
labels, no label comes back behind its run, and each has one descriptor.

Results:
* `map_rowsOf_runs`: the runs are the maximal ones.
* `isChain_runs`, `pairwise_runs`: neighbouring runs have different keys, and all runs do where rows
  are in order.
* `filter_flatMap_rowsOf`: a run then holds all rows with its key.
* `groups_runs`: what descriptors of runs have in common.
* `groups_indexes_foreignKeys`: the indexes and foreign keys that a catalog lists.
-/

namespace SchemaShift.Catalog

section

variable {α κ : Type} [DecidableEq κ] {key : α → κ}

/-! ## Runs -/

theorem ne_nil_of_mem_map_rowsOf {gs : List (α × List α)} : [] ∉ gs.map rowsOf := by
  intro mem
  obtain ⟨g, -, empty⟩ := List.mem_map.1 mem
  cases empty

/-- Neighbouring runs have different keys. -/
theorem isChain_runs (key : α → κ) (rows : List α) :
    (runs key rows).IsChain fun g h => key g.1 ≠ key h.1 := by
  induction rows with
  | nil => exact .nil
  | cons a rest ih =>
    rw [runs]
    split
    · exact .singleton _
    · rename_i b bs others split
      rw [split] at ih
      split
      · rename_i same
        cases ih with
        | singleton => exact .singleton _
        | cons_cons apart chain => exact .cons_cons (same ▸ apart) chain
      · rename_i apart
        exact .cons_cons apart ih

/-- The runs are the maximal ones. -/
theorem map_rowsOf_runs (key : α → κ) (rows : List α) :
    (runs key rows).map rowsOf = rows.splitBy fun a b => key a == key b := by
  symm
  refine List.splitBy_eq_iff.2 ⟨?_, ne_nil_of_mem_map_rowsOf, ?_, ?_⟩
  · rw [← List.flatMap_def, flatten_runs]
  · intro run mem
    obtain ⟨g, hg, rfl⟩ := List.mem_map.1 mem
    refine (List.pairwise_iff_forall_sublist.2 fun {a b} sublist => ?_).isChain
    have ha := key_of_mem_runs key rows hg (sublist.subset (by simp : a ∈ [a, b]))
    have hb := key_of_mem_runs key rows hg (sublist.subset (by simp : b ∈ [a, b]))
    rw [ha, hb, beq_self_eq_true]
  · refine (List.isChain_map rowsOf).2 ?_
    have chain := isChain_runs key rows
    refine List.isChain_iff_forall_rel_of_append_cons_cons.2 ?_
    intro g h before behind split
    have apart := List.isChain_iff_forall_rel_of_append_cons_cons.1 chain split
    have hg : g ∈ runs key rows := by simp [split]
    have last := key_of_mem_runs key rows hg (List.getLast_mem (List.cons_ne_nil g.1 g.2))
    exact ⟨List.cons_ne_nil _ _, List.cons_ne_nil _ _, by simpa [rowsOf, last] using apart⟩

/-! ## Rows in order -/

/-- Where rows are in order of their keys, no two runs have the same key. -/
theorem pairwise_runs {r : κ → κ → Prop} (antisymm : Std.Antisymm r) {rows : List α}
    (ordered : rows.Pairwise fun a b => r (key a) (key b)) :
    (runs key rows).Pairwise fun g h => key g.1 ≠ key h.1 := by
  induction rows with
  | nil => exact .nil
  | cons a rest ih =>
    obtain ⟨first, others⟩ := List.pairwise_cons.1 ordered
    have apart := ih others
    rw [runs]
    split
    · exact List.pairwise_singleton _ _
    · rename_i b bs later split
      rw [split] at apart
      obtain ⟨apartFirst, apartLater⟩ := List.pairwise_cons.1 apart
      split
      · rename_i same
        exact List.pairwise_cons.2 ⟨fun h hh => same ▸ apartFirst h hh, apartLater⟩
      · rename_i other
        refine List.pairwise_cons.2 ⟨fun h hh same => ?_, apart⟩
        -- Such a run would stand behind one with another key, and its rows in between.
        have rows := flatten_runs key rest
        rw [split] at rows
        rcases List.mem_cons.1 hh with rfl | hh
        · exact other same
        · have behind : h.1 ∈ later.flatMap rowsOf :=
            List.mem_flatMap.2 ⟨h, hh, List.mem_cons_self⟩
          have hb : b ∈ rest := by simp [← rows, rowsOf]
          rw [← rows, List.flatMap_cons, rowsOf, List.cons_append, List.pairwise_cons] at others
          have between := others.1 h.1 (List.mem_append_right _ behind)
          exact other (antisymm.antisymm _ _ (first b hb) (same ▸ between))

/-- Of runs with different keys, one holds all rows with its key. -/
theorem filter_flatMap_rowsOf {gs : List (α × List α)}
    (uniform : ∀ g ∈ gs, ∀ a ∈ rowsOf g, key a = key g.1)
    (apart : gs.Pairwise fun g h => key g.1 ≠ key h.1) {g : α × List α} (hg : g ∈ gs) :
    (gs.flatMap rowsOf).filter (fun a => key a == key g.1) = rowsOf g := by
  have whole : (rowsOf g).filter (fun a => key a == key g.1) = rowsOf g :=
    List.filter_eq_self.2 fun a ha => beq_iff_eq.2 (uniform g hg a ha)
  have none : ∀ h ∈ gs, key h.1 ≠ key g.1 →
      (rowsOf h).filter (fun a => key a == key g.1) = [] := fun h hh other =>
    List.filter_eq_nil_iff.2 fun a ha same =>
      other ((uniform h hh a ha).symm.trans (beq_iff_eq.1 same))
  obtain ⟨before, behind, rfl⟩ := List.append_of_mem hg
  obtain ⟨-, apartBehind, apartBefore⟩ := List.pairwise_append.1 apart
  have noneBefore : (before.flatMap rowsOf).filter (fun a => key a == key g.1) = [] := by
    rw [List.filter_flatMap, List.flatMap_eq_nil_iff]
    exact fun h hh => none h (by simp [hh]) (apartBefore h hh g (by simp))
  have noneBehind : (behind.flatMap rowsOf).filter (fun a => key a == key g.1) = [] := by
    rw [List.filter_flatMap, List.flatMap_eq_nil_iff]
    exact fun h hh => none h (by simp [hh]) ((List.pairwise_cons.1 apartBehind).1 h hh).symm
  rw [List.flatMap_append, List.flatMap_cons, List.filter_append, List.filter_append, whole,
    noneBefore, noneBehind, List.nil_append, List.append_nil]

/-- A key that is written differently makes the same runs. -/
theorem runs_comp {μ : Type} [DecidableEq μ] {f : κ → μ} (injective : Function.Injective f)
    (rows : List α) : runs (fun a => f (key a)) rows = runs key rows := by
  induction rows with
  | nil => rfl
  | cons a rest ih =>
    rw [runs, runs, ih]
    split
    · rfl
    · simp only [injective.eq_iff]

end

/-! ## Descriptors -/

/-- Descriptors put the rows of a catalog together, one for each maximal run of rows with the same
label. `part` is what a row says of its column, `parts` what a descriptor says of its columns, and
`tells` the label of a descriptor. -/
structure Groups {κ π δ : Type} [DecidableEq κ] (label : Row → κ) (part : Row → π)
    (tells : δ → κ → Prop) (parts : δ → List π) (rows : List Row) (ds : List δ) : Prop where
  /-- Nothing is lost, added or put elsewhere. -/
  flatten : ds.flatMap parts = rows.map part
  /-- There is one descriptor for each maximal run, and it has the parts of its rows. -/
  runs : List.Forall₂
    (fun run d => (∀ row ∈ run, tells d (label row)) ∧ parts d = run.map part)
    (rows.splitBy fun a b => label a == label b) ds
  /-- Where the rows are in order, there is one descriptor for each label. -/
  ordered : ∀ r : κ → κ → Prop, Std.Antisymm r →
    rows.Pairwise (fun a b => r (label a) (label b)) →
    ∃ labels, labels.Nodup ∧ (∀ l, l ∈ labels ↔ ∃ row ∈ rows, label row = l) ∧
      List.Forall₂
        (fun l d => tells d l ∧ parts d = (rows.filter fun row => label row == l).map part)
        labels ds

/-- Descriptors of runs group the rows if each has the label and the parts of its own rows. -/
theorem groups_runs {κ π δ : Type} [DecidableEq κ] {label : Row → κ} {part : Row → π}
    {tells : δ → κ → Prop} {parts : δ → List π} {describe : Row × List Row → δ} {rows : List Row}
    (told : ∀ run, tells (describe run) (label run.1))
    (kept : ∀ run ∈ Catalog.runs label rows, parts (describe run) = (rowsOf run).map part) :
    Groups label part tells parts rows ((Catalog.runs label rows).map describe) := by
  constructor
  case flatten =>
    calc ((Catalog.runs label rows).map describe).flatMap parts
        = (Catalog.runs label rows).flatMap fun run => (rowsOf run).map part := by
          rw [List.flatMap_map]
          exact List.flatMap_congr kept
      _ = rows.map part := by rw [← List.map_flatMap, flatten_runs]
  case runs =>
    rw [← map_rowsOf_runs, List.forall₂_map_left_iff, List.forall₂_map_right_iff,
      List.forall₂_same]
    intro run mem
    refine ⟨fun row hrow => ?_, kept run mem⟩
    rw [key_of_mem_runs label rows mem hrow]
    exact told run
  case ordered =>
    intro r antisymm ordered
    have apart := pairwise_runs antisymm ordered
    refine ⟨(Catalog.runs label rows).map fun run => label run.1, ?_, ?_, ?_⟩
    · exact List.pairwise_map.2 apart
    · intro l
      constructor
      · intro mem
        obtain ⟨run, hrun, rfl⟩ := List.mem_map.1 mem
        refine ⟨run.1, ?_, rfl⟩
        rw [← flatten_runs label rows]
        exact List.mem_flatMap.2 ⟨run, hrun, List.mem_cons_self⟩
      · rintro ⟨row, hrow, rfl⟩
        rw [← flatten_runs label rows] at hrow
        obtain ⟨run, hrun, inside⟩ := List.mem_flatMap.1 hrow
        exact List.mem_map.2 ⟨run, hrun, (key_of_mem_runs label rows hrun inside).symm⟩
    · rw [List.forall₂_map_left_iff, List.forall₂_map_right_iff, List.forall₂_same]
      intro run mem
      have all := filter_flatMap_rowsOf
        (fun g hg a ha => key_of_mem_runs label rows hg ha) apart mem
      rw [flatten_runs] at all
      exact ⟨told run, by rw [all, kept run mem]⟩

/-! ## Indexes and foreign keys -/

/-- The name of the index that a row is about. -/
def indexName (d : Dialect) (row : Row) : String :=
  match d with
  | .postgres => row.textAt 0
  | _ => row.text "index_name"

/-- The column that a row adds to an index. -/
def indexColumn (d : Dialect) (row : Row) : String :=
  match d with
  | .postgres => row.textAt 1
  | _ => row.text "column_name"

/-- What holds the rows of a foreign key together: the name of the constraint, or a number. -/
inductive KeyLabel where
  | name (s : String)
  | number (i : Int64)
deriving DecidableEq

namespace KeyLabel

/-- The name that a foreign key with a label has. -/
def name? : KeyLabel → Option String
  | name s => some s
  | number _ => none

theorem name_injective : Function.Injective name := fun _ _ h => by cases h; rfl

theorem number_injective : Function.Injective number := fun _ _ h => by cases h; rfl

end KeyLabel

/-- The label of the foreign key that a row is about. -/
def keyLabel (d : Dialect) (row : Row) : KeyLabel :=
  match d with
  | .mySql => .name (row.text "constraint_name")
  | .postgres => .name (row.textAt 0)
  | .sqlite => .number ((row.int? "id").getD 0)

/-- The column that a row adds to a foreign key, and the column that it refers to. -/
def keyColumns (d : Dialect) (row : Row) : String × String :=
  match d with
  | .mySql => (row.text "column_name", row.text "referenced_column")
  | .postgres => (row.textAt 1, row.textAt 3)
  | .sqlite => (row.text "from", row.text "to")

/-- The columns of an index, each with the name of the index. -/
def namedColumns (i : Index) : List (Option String × String) := i.columns.map fun c => (i.name, c)

/-- The columns of a foreign key, each with the column that it refers to. -/
def linkedColumns (fk : ForeignKey) : List (String × String) := fk.columns.zip fk.references

theorem linkedColumns_foreignKeyOf (part : Row → KeyColumn) (table : String)
    (onDelete onUpdate : Option ForeignAction) (name : Option String) (run : Row × List Row) :
    linkedColumns (foreignKeyOf part table onDelete onUpdate name run) =
      (rowsOf run).map fun row => ((part row).column, (part row).reference) := by
  simp only [linkedColumns, foreignKeyOf, List.map_map]
  exact List.zip_map'

theorem length_columns_foreignKeyOf (part : Row → KeyColumn) (table : String)
    (onDelete onUpdate : Option ForeignAction) (name : Option String) (run : Row × List Row) :
    (foreignKeyOf part table onDelete onUpdate name run).columns.length =
      (foreignKeyOf part table onDelete onUpdate name run).references.length := by
  simp [foreignKeyOf]

/-- The foreign keys that rows describe. -/
def foreignKeysOf (d : Dialect) (rows : List Row) : List ForeignKey :=
  match d with
  | .mySql => MySql.foreignKeys rows
  | .postgres => Postgres.foreignKeys rows
  | .sqlite => Sqlite.foreignKeys rows

/-- The indexes that rows describe, where all indexes are described by rows. -/
def indexesOf (d : Dialect) (rows : List Row) : List Index :=
  match d with
  | .postgres => Postgres.indexes rows
  | _ => MySql.indexes rows

/-- Indexes group the rows of their columns by name. -/
theorem groups_indexesOf (d : Dialect) (rows : List Row) :
    Groups (indexName d) (fun row => (some (indexName d row), indexColumn d row))
      (fun i name => i.name = some name) namedColumns rows (indexesOf d rows) := by
  have named : ∀ {label column : Row → String} {describe : Row × List Row → Index},
      (∀ run, (describe run).name = some (label run.1)) →
      (∀ run, (describe run).columns = (rowsOf run).map column) →
      Groups label (fun row => (some (label row), column row)) (fun i name => i.name = some name)
        namedColumns rows ((runs label rows).map describe) := by
    intro label column describe name columns
    refine groups_runs name fun run mem => ?_
    rw [namedColumns, name, columns, List.map_map]
    refine List.map_congr_left fun row hrow => ?_
    rw [key_of_mem_runs label rows mem hrow]
    rfl
  cases d with
  | postgres => exact named (fun _ => rfl) fun _ => rfl
  | mySql | sqlite => exact named (fun _ => rfl) fun _ => rfl

/-- Foreign keys group the rows of their columns by name or number. -/
theorem groups_foreignKeysOf (d : Dialect) (rows : List Row) :
    Groups (keyLabel d) (keyColumns d) (fun fk label => fk.name = label.name?) linkedColumns rows
      (foreignKeysOf d rows) := by
  cases d with
  | mySql =>
    rw [foreignKeysOf, MySql.foreignKeys, ← runs_comp KeyLabel.name_injective]
    exact groups_runs (fun _ => rfl) fun _ _ => linkedColumns_foreignKeyOf ..
  | postgres =>
    rw [foreignKeysOf, Postgres.foreignKeys, ← runs_comp KeyLabel.name_injective]
    exact groups_runs (fun _ => rfl) fun _ _ => linkedColumns_foreignKeyOf ..
  | sqlite =>
    rw [foreignKeysOf, Sqlite.foreignKeys, ← runs_comp KeyLabel.number_injective]
    exact groups_runs (fun _ => rfl) fun _ _ => linkedColumns_foreignKeyOf ..

/-- Neighbouring indexes have different names. -/
theorem isChain_indexesOf (d : Dialect) (rows : List Row) :
    (indexesOf d rows).IsChain fun a b => a.name ≠ b.name := by
  have named : ∀ {label : Row → String} {describe : Row × List Row → Index},
      (∀ run, (describe run).name = some (label run.1)) →
      ((runs label rows).map describe).IsChain fun a b => a.name ≠ b.name := by
    intro label describe name
    refine (List.isChain_map describe).2 ((isChain_runs label rows).imp fun g h apart => ?_)
    rw [name, name]
    exact mt Option.some.inj apart
  cases d with
  | postgres => exact named fun _ => rfl
  | mySql | sqlite => exact named fun _ => rfl

theorem length_columns_of_mem_foreignKeysOf {d : Dialect} {rows : List Row} {fk : ForeignKey}
    (h : fk ∈ foreignKeysOf d rows) : fk.columns.length = fk.references.length := by
  cases d
  all_goals
    obtain ⟨run, -, rfl⟩ := List.mem_map.1 h
    exact length_columns_foreignKeyOf ..

/-! ## The keys of a table -/

/-- The indexes and foreign keys of a table group the rows that the catalog answers, indexes where
all are described by rows. -/
theorem groups_indexes_foreignKeys {σ : Type} {session : Session σ} {table : String} {x x' : σ}
    {rows : List Row} :
    (session.dialect ≠ .sqlite →
      (session.select (Query.indexes session.dialect session.database table)).result x =
        (.ok rows, x') →
      ∃ is, (indexes session table).result x = (.ok is, x') ∧
        Groups (indexName session.dialect)
          (fun row => (some (indexName session.dialect row), indexColumn session.dialect row))
          (fun i name => i.name = some name) namedColumns rows is ∧
        is.IsChain fun a b => a.name ≠ b.name) ∧
    ((session.select (Query.foreignKeys session.dialect session.database table)).result x =
        (.ok rows, x') →
      ∃ fks, (foreignKeys session table).result x = (.ok fks, x') ∧
        Groups (keyLabel session.dialect) (keyColumns session.dialect)
          (fun fk label => fk.name = label.name?) linkedColumns rows fks ∧
        ∀ fk ∈ fks, fk.columns.length = fk.references.length) := by
  constructor
  · intro known answered
    refine ⟨indexesOf session.dialect rows, ?_, groups_indexesOf _ rows, isChain_indexesOf _ rows⟩
    unfold indexes
    cases dialect : session.dialect with
    | sqlite => exact absurd dialect known
    | mySql | postgres =>
      rw [dialect] at answered
      exact DbM.result_bind_eq_ok_iff.2 ⟨rows, x', answered, rfl⟩
  · intro answered
    refine ⟨foreignKeysOf session.dialect rows, ?_, groups_foreignKeysOf _ rows,
      fun _ => length_columns_of_mem_foreignKeysOf⟩
    refine DbM.result_bind_eq_ok_iff.2 ⟨rows, x', answered, ?_⟩
    cases session.dialect <;> rfl

/-- The rows of a primary key over two columns, and of an index over one. -/
def membershipIndexRows : List Row :=
  [.ofPairs [("index_name", .text "PRIMARY"), ("column_name", .text "team")],
    .ofPairs [("index_name", .text "PRIMARY"), ("column_name", .text "person")],
    .ofPairs [("index_name", .text "by_person"), ("column_name", .text "person")]]

/-- The rows of a foreign key over two columns; the second does not say what it refers to. -/
def membershipKeyRows : List Row :=
  [.ofPairs
      [("constraint_name", .text "to_team"), ("column_name", .text "team"),
        ("referenced_table", .text "teams"), ("referenced_column", .text "id")],
    .ofPairs
      [("constraint_name", .text "to_team"), ("column_name", .text "region"),
        ("referenced_table", .text "teams")]]

/-- A session whose catalog answers these rows. -/
def memberships : Session Unit :=
  { Session.answering
      [(Query.indexes .mySql "main" "memberships", membershipIndexRows),
        (Query.foreignKeys .mySql "main" "memberships", membershipKeyRows)] with
    dialect := .mySql }

/-- The rows are in order of the names of their indexes, so that each has one index. -/
theorem groups_indexes_foreignKeys_memberships :
    ∃ is fks labels, (indexes memberships "memberships").result () = (.ok is, ()) ∧
      is.flatMap namedColumns =
        [(some "PRIMARY", "team"), (some "PRIMARY", "person"), (some "by_person", "person")] ∧
      labels.Nodup ∧
      List.Forall₂ (fun l (i : Index) => i.name = some l ∧ namedColumns i =
        (membershipIndexRows.filter fun row => indexName .mySql row == l).map fun row =>
          (some (indexName .mySql row), indexColumn .mySql row)) labels is ∧
      (foreignKeys memberships "memberships").result () = (.ok fks, ()) ∧
      fks.flatMap linkedColumns = [("team", "id"), ("region", "")] := by
  have indexRows : (memberships.select (Query.indexes .mySql "main" "memberships")).result () =
      (.ok membershipIndexRows, ()) := by decide +kernel
  have keyRows : (memberships.select (Query.foreignKeys .mySql "main" "memberships")).result () =
      (.ok membershipKeyRows, ()) := by decide +kernel
  obtain ⟨is, listed, grouped, -⟩ := groups_indexes_foreignKeys.1 (by decide) indexRows
  obtain ⟨fks, linked, joined, -⟩ := groups_indexes_foreignKeys.2 keyRows
  have ordered : membershipIndexRows.Pairwise fun a b =>
      indexName .mySql a ≤ indexName .mySql b := by decide +kernel
  obtain ⟨labels, once, -, each⟩ := grouped.ordered _ ⟨fun _ _ => String.le_antisymm⟩ ordered
  refine ⟨is, fks, labels, listed, grouped.flatten.trans ?_, once, each, linked,
    joined.flatten.trans ?_⟩
  · decide +kernel
  · decide +kernel

end SchemaShift.Catalog
