import SchemaShift.Migration.Document
import SchemaShift.Proofs.Codec.Fields

/-!
# Migrations are read back

What is written to a document as plain data is read back from every value that carries it: defaults,
keys, columns, table plans, steps and migrations. Every reader looks its fields up by name, and what
stands under a name does not depend on the fields that are left out around it.

Results:
* `DefaultValue.ofNode_of_carries`: a default is read back as the kind it was written as.
* `Index.ofNode_of_carries`, `ForeignRole.ofNode_of_carries`, `ForeignKey.ofNode_of_carries`,
  `Column.ofNode_of_carries`: the parts of a table plan.
* `TablePlan.ofNode_of_carries`, `Step.ofNode_of_carries`, `MigrationDocument.ofNode_of_carries`:
  what they make up.
* `MigrationDocument.same_self`: a migration without a default that is not a number is equal to
  itself.
-/

namespace SchemaShift

open Fields
open Node (Carries)

/-- What needs no value is read wherever it stands. -/
theorem Decoder.liftM_ok {α : Type} (a : α) :
    (liftM (Except.ok a : Except DataFault α) : Decoder α) = pure a := rfl

theorem Datum.ofText_ne_null (s : String) : Datum.ofText s ≠ .atom .null := nofun

theorem Datum.ofWord32_ne_null (n : UInt32) : Datum.ofWord32 n ≠ .atom .null := nofun

theorem ForeignAction.toDatum_ne_null (a : ForeignAction) : a.toDatum ≠ .atom .null := nofun

theorem ForeignRole.toDatum_ne_null (role : ForeignRole) : role.toDatum ≠ .atom .null := nofun

theorem DefaultValue.toDatum_ne_null (v : DefaultValue) : v.toDatum ≠ .atom .null := by
  cases v <;> exact nofun

/-- A list of texts is read back. -/
theorem Node.Carries.texts_eq {n : Node} {names : List String}
    (h : n.Carries (.list (names.map .ofText))) : Node.listOf Node.text n = pure names :=
  h.listOf_eq Carries.text_eq

/-! ## Defaults -/

theorem Node.scalarAtom_eq {s : Yaml.Scalar} {a : Atom} (h : s.StandsFor a)
    (fits : ∀ i, a = .integer i → fitsWord i = true) : scalarAtom s = pure a := by
  unfold scalarAtom
  rw [h.value]
  cases a with
  | integer i => exact if_pos (fits i rfl)
  | _ => rfl

/-- A word is in the range of a word. -/
theorem Node.fitsWord_toInt (i : Int64) : fitsWord i.toInt = true := by
  have least := Int64.le_toInt i
  have most := Int64.toInt_lt i
  have half : (Int64.size / 2 : Int) = 2 ^ 63 := by decide
  have whole : (UInt64.size : Int) = 2 ^ 64 := by decide
  rw [fitsWord, half, whole, Bool.and_eq_true, decide_eq_true_iff, decide_eq_true_iff]
  omega

/-- The expression under the name that expressions have. -/
theorem DefaultValue.expression?_raw {name value : Node} {sql : String}
    (named : name.Spells (.ofText "raw")) (spelled : value.Spells (.ofText sql)) :
    expression? (name, value) = pure (some sql) := by
  cases named with
  | @scalar key _ named =>
    cases spelled with
    | scalar spelled =>
      have label : Node.label (.scalar key) = pure (.name "raw") := by
        have fits : ∀ i, (Atom.text "raw") = .integer i → Node.fitsWord i = true := by
          rintro _ ⟨⟩
        simp only [Node.label, Node.resolve, pure_bind, Node.scalarAtom_eq named fits]
      simp only [expression?, label, pure_bind, true_or, if_true, Node.resolve, spelled.value]

theorem DefaultValue.ofNode_of_carries {n : Node} {v : DefaultValue} (h : n.Carries v.toDatum) :
    ofNode n = pure v := by
  have atom : ∀ a, n.Carries (.atom a) → (∀ i, a = .integer i → Node.fitsWord i = true) →
      ofNode n = ofAtom a := by
    intro a carries fits
    rcases carries.eq_or_standsFor with rfl | ⟨s, rfl, stands⟩
    · rfl
    · simp only [ofNode, Node.resolve, pure_bind, Node.scalarAtom_eq stands fits]
  cases v with
  | integer i =>
    have fits : ∀ j, Atom.integer i.toInt = .integer j → Node.fitsWord j = true := by
      rintro _ ⟨⟩
      exact Node.fitsWord_toInt i
    rw [atom _ h fits]
    simp only [ofAtom, ofInt?_toInt]
  | float d => exact atom _ h (by rintro _ ⟨⟩)
  | text s => exact atom _ h (by rintro _ ⟨⟩)
  | bool b => exact atom _ h (by rintro _ ⟨⟩)
  | raw sql =>
    rcases h with rfl | spelled
    · rfl
    · cases spelled with
      | @record nodes _ names values =>
        cases nodes with
        | nil => cases names
        | cons node nodes =>
          obtain ⟨named, names⟩ := List.forall₂_cons.1 names
          obtain ⟨spelled, -⟩ := List.forall₂_cons.1 values
          obtain rfl : nodes = [] := by simpa using names
          have read := expression?_raw named spelled
          simp only [ofNode, Node.resolve, pure_bind, List.mapM_cons, List.mapM_nil, read]
          rfl

/-! ## Keys -/

theorem Index.ofNode_of_carries {n : Node} {i : Index} (h : n.Carries i.toDatum) :
    ofNode n = pure i := by
  obtain ⟨fields, written, kind, columns, name⟩ : ∃ fields, n.Carries (.record fields) ∧
      only "type" fields = [("type", .ofText i.kind.name)] ∧
      only "columns" fields = [("columns", .list (i.columns.map .ofText))] ∧
      only "name" fields = whenSome "name" .ofText i.name :=
    ⟨_, h, by simp, by simp, by simp⟩
  obtain ⟨fs, found, carried⟩ := written.exists_fields
  rw [ofNode, found, pure_bind]
  have known := IndexKind.ofName?_name i.kind
  rw [carried.required_of_only kind (·.choice_eq known), pure_bind]
  rw [carried.required_of_only columns Carries.texts_eq, pure_bind]
  rw [carried.optional_of_only name Datum.ofText_ne_null Carries.text_eq, pure_bind]

theorem ForeignAction.ofNode_of_carries {n : Node} {a : ForeignAction} (h : n.Carries a.toDatum) :
    ofNode n = pure a :=
  h.choice_eq (ofName?_name a)

theorem ForeignRole.ofNode_of_carries {n : Node} {role : ForeignRole}
    (h : n.Carries role.toDatum) : ofNode n = pure role := by
  obtain ⟨fields, written, table, column, onDelete, onUpdate, name⟩ :
      ∃ fields, n.Carries (.record fields) ∧
        only "on" fields = [("on", .ofText role.table)] ∧
        only "references" fields = [("references", .ofText role.column)] ∧
        only "on_delete" fields = whenSome "on_delete" ForeignAction.toDatum role.onDelete ∧
        only "on_update" fields = whenSome "on_update" ForeignAction.toDatum role.onUpdate ∧
        only "name" fields = whenSome "name" .ofText role.name :=
    ⟨_, h, by simp, by simp, by simp, by simp, by simp⟩
  obtain ⟨fs, found, carried⟩ := written.exists_fields
  have action := carried.optional_of_only onDelete ForeignAction.toDatum_ne_null
    ForeignAction.ofNode_of_carries
  have reaction := carried.optional_of_only onUpdate ForeignAction.toDatum_ne_null
    ForeignAction.ofNode_of_carries
  rw [ofNode, found, pure_bind]
  rw [carried.required_of_only table Carries.text_eq, pure_bind]
  rw [carried.required_of_only column Carries.text_eq, pure_bind]
  rw [action, pure_bind, reaction, pure_bind]
  rw [carried.optional_of_only name Datum.ofText_ne_null Carries.text_eq, pure_bind]

theorem ForeignKey.ofNode_of_carries {n : Node} {fk : ForeignKey} (h : n.Carries fk.toDatum) :
    ofNode n = pure fk := by
  obtain ⟨fields, written, columns, table, references, onDelete, onUpdate, name⟩ :
      ∃ fields, n.Carries (.record fields) ∧
        only "columns" fields = [("columns", .list (fk.columns.map .ofText))] ∧
        only "on" fields = [("on", .ofText fk.table)] ∧
        only "references" fields = [("references", .list (fk.references.map .ofText))] ∧
        only "on_delete" fields = whenSome "on_delete" ForeignAction.toDatum fk.onDelete ∧
        only "on_update" fields = whenSome "on_update" ForeignAction.toDatum fk.onUpdate ∧
        only "name" fields = whenSome "name" .ofText fk.name :=
    ⟨_, h, by simp, by simp, by simp, by simp, by simp, by simp⟩
  obtain ⟨fs, found, carried⟩ := written.exists_fields
  have action := carried.optional_of_only onDelete ForeignAction.toDatum_ne_null
    ForeignAction.ofNode_of_carries
  have reaction := carried.optional_of_only onUpdate ForeignAction.toDatum_ne_null
    ForeignAction.ofNode_of_carries
  rw [ofNode, found, pure_bind]
  rw [carried.required_of_only columns Carries.texts_eq, pure_bind]
  rw [carried.required_of_only table Carries.text_eq, pure_bind]
  rw [carried.required_of_only references Carries.texts_eq, pure_bind]
  rw [action, pure_bind, reaction, pure_bind]
  rw [carried.optional_of_only name Datum.ofText_ne_null Carries.text_eq, pure_bind]

/-! ## Columns -/

/-- The type of a column and what its name says of the auto-increment flag. -/
theorem Column.typeOfText_eq_ok (type : ColumnType) (flag : Bool) :
    ∃ counts, typeOfText (typeText type flag).1 = .ok (type, counts) ∧
      ((typeText type flag).2 || counts) = flag := by
  have read := typeOfText_typeText type flag
  cases h : typeOfText (typeText type flag).1 with
  | error e =>
    rw [h] at read
    cases read
  | ok found =>
    obtain ⟨found, counts⟩ := found
    rw [h] at read
    simp only [Except.map, Except.ok.injEq, Prod.mk.injEq] at read
    obtain ⟨rfl, counted⟩ := read
    exact ⟨counts, rfl, counted⟩

theorem Column.ofNode_of_carries {n : Node} {c : Column} (h : n.Carries c.toDatum) :
    ofNode n = pure c := by
  obtain ⟨fields, written, name, type, length, precision, scale, allowed, nullable, unsigned,
    counts, useCurrent, default, change, foreign⟩ :
      ∃ fields, n.Carries (.record fields) ∧
        only "name" fields = [("name", .ofText c.name)] ∧
        only "type" fields = [("type", .ofText (typeText c.type c.autoIncrement).1)] ∧
        only "length" fields = whenSome "length" .ofWord32 c.length ∧
        only "precision" fields = whenSome "precision" .ofWord32 c.precision ∧
        only "scale" fields = whenSome "scale" .ofWord32 c.scale ∧
        only "allowed" fields = whenAny "allowed" .ofText c.allowed ∧
        only "nullable" fields = whenSet "nullable" c.nullable ∧
        only "unsigned" fields = whenSet "unsigned" c.unsigned ∧
        only "auto_increment" fields =
          whenSet "auto_increment" (typeText c.type c.autoIncrement).2 ∧
        only "use_current" fields = whenSet "use_current" c.useCurrent ∧
        only "default" fields = whenSome "default" DefaultValue.toDatum c.default ∧
        only "change" fields = whenSet "change" c.change ∧
        only "foreign" fields = whenSome "foreign" ForeignRole.toDatum c.foreign :=
    ⟨_, h, by simp, by simp [typeText], by simp, by simp, by simp, by simp, by simp, by simp,
      by simp [typeText], by simp, by simp, by simp, by simp⟩
  obtain ⟨counted, read, flag⟩ := typeOfText_eq_ok c.type c.autoIncrement
  obtain ⟨fs, found, carried⟩ := written.exists_fields
  rw [ofNode, found, pure_bind]
  rw [carried.required_of_only type Carries.text_eq, pure_bind, read]
  rw [Decoder.liftM_ok, pure_bind]
  dsimp only
  rw [carried.required_of_only name Carries.text_eq, pure_bind]
  rw [carried.optional_of_only length Datum.ofWord32_ne_null Carries.word32_eq, pure_bind]
  rw [carried.optional_of_only precision Datum.ofWord32_ne_null Carries.word32_eq, pure_bind]
  rw [carried.optional_of_only scale Datum.ofWord32_ne_null Carries.word32_eq, pure_bind]
  rw [carried.listOf_of_only allowed Carries.text_eq, pure_bind]
  rw [carried.flag_of_only nullable, pure_bind, carried.flag_of_only unsigned, pure_bind]
  rw [carried.flag_of_only counts, pure_bind, carried.flag_of_only useCurrent, pure_bind]
  rw [carried.optional_of_only default DefaultValue.toDatum_ne_null
    DefaultValue.ofNode_of_carries, pure_bind]
  rw [carried.flag_of_only change, pure_bind]
  rw [carried.optional_of_only foreign ForeignRole.toDatum_ne_null ForeignRole.ofNode_of_carries,
    pure_bind]
  rw [flag]

/-! ## Table plans -/

theorem Rename.ofNode_of_carries {n : Node} {rename : String × String}
    (h : n.Carries (toDatum rename)) : ofNode n = pure rename := by
  obtain ⟨fields, written, old, new⟩ : ∃ fields, n.Carries (.record fields) ∧
      only "from" fields = [("from", .ofText rename.1)] ∧
      only "to" fields = [("to", .ofText rename.2)] :=
    ⟨_, h, by simp, by simp⟩
  obtain ⟨fs, found, carried⟩ := written.exists_fields
  rw [ofNode, found, pure_bind]
  rw [carried.required_of_only old Carries.text_eq, pure_bind]
  rw [carried.required_of_only new Carries.text_eq, pure_bind]

theorem TablePlan.ofNode_of_carries {n : Node} {p : TablePlan} (h : n.Carries p.toDatum) :
    ofNode n = pure p := by
  obtain ⟨fields, written, table, engine, columns, indexes, foreignKeys, lostForeignKeys,
    lostUniques, lostIndexes, losesPrimary, renames, lostColumns⟩ :
      ∃ fields, n.Carries (.record fields) ∧
        only "name" fields = [("name", .ofText p.table)] ∧
        only "engine" fields = whenSome "engine" .ofText p.engine ∧
        only "columns" fields = whenAny "columns" Column.toDatum p.columns ∧
        only "indexes" fields = whenAny "indexes" Index.toDatum p.indexes ∧
        only "foreign_keys" fields = whenAny "foreign_keys" ForeignKey.toDatum p.foreignKeys ∧
        only "drop_foreign" fields = whenAny "drop_foreign" .ofText p.lostForeignKeys ∧
        only "drop_unique" fields = whenAny "drop_unique" .ofText p.lostUniques ∧
        only "drop_indexes" fields = whenAny "drop_indexes" .ofText p.lostIndexes ∧
        only "drop_primary" fields = whenSet "drop_primary" p.losesPrimary ∧
        only "rename_columns" fields = whenAny "rename_columns" Rename.toDatum p.renames ∧
        only "drop_columns" fields = whenAny "drop_columns" .ofText p.lostColumns :=
    ⟨_, h, by simp, by simp, by simp, by simp, by simp, by simp, by simp, by simp, by simp,
      by simp, by simp⟩
  obtain ⟨fs, found, carried⟩ := written.exists_fields
  rw [ofNode, found, pure_bind]
  rw [carried.required_of_only table Carries.text_eq, pure_bind]
  rw [carried.optional_of_only engine Datum.ofText_ne_null Carries.text_eq, pure_bind]
  rw [carried.listOf_of_only columns Column.ofNode_of_carries, pure_bind]
  rw [carried.listOf_of_only indexes Index.ofNode_of_carries, pure_bind]
  rw [carried.listOf_of_only foreignKeys ForeignKey.ofNode_of_carries, pure_bind]
  rw [carried.listOf_of_only lostForeignKeys Carries.text_eq, pure_bind]
  rw [carried.listOf_of_only lostUniques Carries.text_eq, pure_bind]
  rw [carried.listOf_of_only lostIndexes Carries.text_eq, pure_bind]
  rw [carried.flag_of_only losesPrimary, pure_bind]
  rw [carried.listOf_of_only renames Rename.ofNode_of_carries, pure_bind]
  rw [carried.listOf_of_only lostColumns Carries.text_eq, pure_bind]

/-! ## Migrations -/

/-- A record with one field is a step of its name. -/
theorem Step.ofNode_of_carries_record {n : Node} {name : String} {d : Datum}
    (h : n.Carries (.record [(name, d)])) :
    ∃ value, value.Carries d ∧ ofNode n = ofField name value := by
  rcases h with rfl | spelled
  · exact ⟨.native d, Node.carries_native d, rfl⟩
  · cases spelled with
    | @record nodes _ names values =>
      cases nodes with
      | nil => cases names
      | cons node nodes =>
        obtain ⟨named, names⟩ := List.forall₂_cons.1 names
        obtain ⟨spelled, -⟩ := List.forall₂_cons.1 values
        obtain rfl : nodes = [] := by simpa using names
        refine ⟨node.2, spelled.carries, ?_⟩
        simp only [ofNode, Node.resolve, pure_bind, named.carries.text_eq]

theorem Step.ofNode_of_carries {n : Node} {s : Step} (h : n.Carries s.toDatum) :
    ofNode n = pure s := by
  cases s with
  | create plan =>
    obtain ⟨value, carries, read⟩ := ofNode_of_carries_record h
    rw [read, ofField, TablePlan.ofNode_of_carries carries, map_pure]
  | alter plan =>
    obtain ⟨value, carries, read⟩ := ofNode_of_carries_record h
    rw [read, ofField, TablePlan.ofNode_of_carries carries, map_pure]
  | rename table target =>
    obtain ⟨value, carries, read⟩ := ofNode_of_carries_record h
    rw [read, ofField, Rename.ofNode_of_carries carries, map_pure]
  | drop table =>
    obtain ⟨value, carries, read⟩ := ofNode_of_carries_record h
    rw [read, ofField, carries.text_eq, map_pure]
  | dropIfExists table =>
    obtain ⟨value, carries, read⟩ := ofNode_of_carries_record h
    rw [read, ofField, carries.text_eq, map_pure]
  | sql statement =>
    obtain ⟨value, carries, read⟩ := ofNode_of_carries_record h
    rw [read, ofField, carries.text_eq, map_pure]

theorem MigrationDocument.ofNode_of_carries {n : Node} {m : MigrationDocument}
    (h : n.Carries m.toDatum) : ofNode n = pure m := by
  have up : only "up" m.toFields = [("up", .list (m.up.map Step.toDatum))] := by
    unfold toFields
    split <;> simp
  have down : only "down" m.toFields = [("down", .list (m.down.map Step.toDatum))] := by
    unfold toFields
    split <;> simp
  obtain ⟨fs, found, carried⟩ := h.exists_fields
  have transactional : fs.getD "transactional" Node.flag true = pure m.transactional := by
    cases flag : m.transactional with
    | false =>
      have written : only "transactional" m.toFields = [("transactional", .ofFlag false)] := by
        simp [toFields, flag]
      exact carried.getD_of_only_singleton written Carries.flag_eq
    | true => exact carried.getD_of_only_nil (by simp [toFields, flag])
  have steps : ∀ {n : Node} {steps : List Step}, n.Carries (.list (steps.map Step.toDatum)) →
      n.listOf Step.ofNode = pure steps := fun carries => carries.listOf_eq Step.ofNode_of_carries
  rw [ofNode, found, pure_bind, transactional, pure_bind]
  rw [Node.Fields.listOf, carried.getD_of_only_singleton up steps, pure_bind]
  rw [Node.Fields.listOf, carried.getD_of_only_singleton down steps, pure_bind]

/-- A migration is read back from its own data. -/
theorem MigrationDocument.ofNode_toDatum (m : MigrationDocument) :
    ofNode (.native m.toDatum) = pure m :=
  ofNode_of_carries (Node.carries_native m.toDatum)

/-! ## Equality -/

/-- The columns that a step defines. -/
def Step.columns : Step → List Column
  | create plan | alter plan => plan.columns
  | _ => []

/-- All defaults that are floating-point numbers are finite. -/
def MigrationDocument.HasFiniteDefaults (m : MigrationDocument) : Prop :=
  ∀ s ∈ m.up ++ m.down, ∀ c ∈ s.columns, ∀ d, c.default = some (.float d) → d.isFinite = true

theorem Double.same_self {d : Double} (finite : d.isFinite = true) : d.same d = true := by
  have number : d.isNaN = false := by
    rw [isFinite, bne_iff_ne] at finite
    rw [isNaN, beq_eq_false_iff_ne.2 finite, Bool.false_and]
  simp [same, number]

theorem Column.same_self {c : Column}
    (finite : ∀ d, c.default = some (.float d) → d.isFinite = true) : c.same c = true := by
  unfold same
  rw [beq_self_eq_true, Bool.true_and]
  cases value : c.default with
  | none => rfl
  | some v =>
    cases v with
    | float d => exact Double.same_self (finite d value)
    | _ => exact beq_self_eq_true _

theorem all_zip_self {α : Type} {same : α → α → Bool} {as : List α}
    (h : ∀ a ∈ as, same a a = true) : ((as.zip as).all fun (x, y) => same x y) = true := by
  rw [List.all_eq_true]
  rintro ⟨x, y⟩ mem
  rw [List.zip_eq_zipWith, List.zipWith_self] at mem
  obtain ⟨a, within, ⟨⟩⟩ := List.mem_map.1 mem
  exact h _ within

theorem Step.same_self {s : Step}
    (finite : ∀ c ∈ s.columns, ∀ d, c.default = some (.float d) → d.isFinite = true) :
    s.same s = true := by
  have plan : ∀ p : TablePlan, p.columns = s.columns → p.same p = true := by
    intro p columns
    have each := all_zip_self fun c hc => Column.same_self (finite c (columns ▸ hc))
    rw [TablePlan.same, beq_self_eq_true, beq_self_eq_true, Bool.true_and, Bool.true_and]
    exact each
  cases s with
  | create p => exact plan p rfl
  | alter p => exact plan p rfl
  | _ => exact beq_self_eq_true _

theorem MigrationDocument.same_self {m : MigrationDocument} (finite : m.HasFiniteDefaults) :
    m.same m = true := by
  have steps : ∀ steps : List Step, (∀ s ∈ steps, s ∈ m.up ++ m.down) →
      sameSteps steps steps = true := by
    intro steps among
    have each := all_zip_self fun s hs => Step.same_self (finite s (among s hs))
    rw [sameSteps, beq_self_eq_true, Bool.true_and]
    exact each
  rw [same, beq_self_eq_true, steps m.up fun s hs => List.mem_append_left _ hs,
    steps m.down fun s hs => List.mem_append_right _ hs]
  rfl

/-! ## Documents -/

/-- Migrations, columns and defaults are decoded from every value that carries their data. What is
decoded is the same, and where floating-point defaults are finite also equal as a migration. -/
theorem MigrationDocument.decode_of_carries :
    (∀ (m : MigrationDocument) (n : Node), n.Carries m.toDatum →
      n.decode MigrationDocument.ofNode = .ok m ∧ (m.HasFiniteDefaults → m.same m = true) ∧
      ∀ text, Yaml.read text = .ok n → MigrationDocument.ofYaml text = .ok m) ∧
    (∀ (c : Column) (n : Node), n.Carries c.toDatum → n.decode Column.ofNode = .ok c) ∧
    ∀ (v : DefaultValue) (n : Node), n.Carries v.toDatum →
      n.decode DefaultValue.ofNode = .ok v := by
  refine ⟨fun m n h => ?_, fun c n h => ?_, fun v n h => ?_⟩
  · have decoded := Node.decode_of_eq_pure (ofNode_of_carries h)
    exact ⟨decoded, same_self, fun text read => ofYaml_eq_ok_iff.2 ⟨n, read, decoded⟩⟩
  · exact Node.decode_of_eq_pure (Column.ofNode_of_carries h)
  · exact Node.decode_of_eq_pure (DefaultValue.ofNode_of_carries h)

/-- Accounts that count up, with defaults of several kinds. -/
def accounts : MigrationDocument where
  transactional := false
  up := [.create {
    table := "accounts"
    columns := [{ name := "id", type := .integer, autoIncrement := true },
      { name := "rate", type := .double, default := some (.float ⟨0x3ff8000000000000⟩) },
      { name := "open", type := .text, default := some (.text "true") },
      { name := "since", type := .date, default := some (.raw "CURRENT_DATE") }] }]
  down := [.dropIfExists "accounts"]

/-- A value of a document that is written in quotes or without. -/
def accountsNode : Node :=
  let bare (text : String) : Node := .scalar ⟨text, .plain, none⟩
  let quoted (text : String) : Node := .scalar ⟨text, .quoted, none⟩
  .record [(bare "transactional", bare "false"),
    (bare "up", .list [.record [(bare "create", .record [(bare "name", quoted "accounts"),
      (bare "columns", .list [
        .record [(bare "name", bare "id"), (bare "type", bare "increments")],
        .record [(bare "name", bare "rate"), (bare "type", bare "double"),
          (bare "default", bare "1.5")],
        .record [(bare "name", bare "open"), (quoted "type", bare "text"),
          (bare "default", quoted "true")],
        .record [(bare "name", bare "since"), (bare "type", bare "date"),
          (bare "default", .record [(bare "raw", bare "CURRENT_DATE")])]])])]]),
    (bare "down", .list [.record [(bare "drop_if_exists", bare "accounts")]])]

theorem accountsNode_carries : accountsNode.Carries accounts.toDatum := by
  right
  have bare : ∀ {text : String} {a : Atom}, Yaml.Plain.atom text = a →
      text.toList.head? ≠ some '-' → Node.Spells (.scalar ⟨text, .plain, none⟩) (.atom a) :=
    fun atom sign => .scalar (Yaml.Scalar.standsFor_plain atom fun _ _ => sign)
  have quoted : ∀ text : String, Node.Spells (.scalar ⟨text, .quoted, none⟩) (.atom (.text text)) :=
    fun text => .scalar (Yaml.Scalar.standsFor_quoted text)
  repeat' first
    | exact quoted _
    | exact bare (by decide +kernel) (by decide)
    | exact .nil
    | apply List.Forall₂.cons
    | apply Node.Spells.record
    | apply Node.Spells.list

theorem MigrationDocument.decode_accounts :
    (accountsNode.Carries accounts.toDatum ∧ accounts.HasFiniteDefaults ∧
      accountsNode.decode MigrationDocument.ofNode = .ok accounts ∧ accounts.same accounts = true) ∧
    ∀ c ∈ accounts.up.flatMap Step.columns, Node.decode Column.ofNode (.native c.toDatum) = .ok c ∧
      ∀ v, c.default = some v → Node.decode DefaultValue.ofNode (.native v.toDatum) = .ok v := by
  have finite : accounts.HasFiniteDefaults := by
    unfold HasFiniteDefaults
    simp [accounts, Step.columns, Double.isFinite, Double.exponentField]
  obtain ⟨migrations, columns, defaults⟩ := decode_of_carries
  obtain ⟨decoded, equal, -⟩ := migrations accounts accountsNode accountsNode_carries
  refine ⟨⟨accountsNode_carries, finite, decoded, equal finite⟩, fun c _ => ⟨?_, fun v _ => ?_⟩⟩
  · exact columns c _ (Node.carries_native c.toDatum)
  · exact defaults v _ (Node.carries_native v.toDatum)

end SchemaShift
