import SchemaShift.Proofs.Catalog.Types
import SchemaShift.Proofs.Catalog.Valid
import SchemaShift.Proofs.Ddl.Scripts

/-!
# Columns that may be null

A column of a definition may be null unless its clause says otherwise: by `NOT NULL`, by an inline
`PRIMARY KEY` or by counting up. The clause is read phrase by phrase, each phrase being one option,
and the phrases may stand in any order. A key among the other clauses of the table says nothing
about its columns.

Results:
* `ColumnClause.nullable_described_iff`: what the options of a clause settle.
* `nullable_readTables`: what the phrases of each column clause settle, in every script.
* `not_forall_primary_nullable`: columns of a key of the table may be null.
-/

namespace SchemaShift

namespace Ddl

/-- What holds of one of several things holds of one of those that they are related to. -/
theorem exists_mem_iff_of_forall₂ {α β : Type} {R : α → β → Prop} {p : α → Prop} {q : β → Prop}
    {as : List α} {bs : List β} (h : List.Forall₂ R as bs) (same : ∀ a b, R a b → (p a ↔ q b)) :
    (∃ a ∈ as, p a) ↔ ∃ b ∈ bs, q b := by
  induction h with
  | nil => simp
  | cons first _ ih => simp [same _ _ first, ih]

/-! ## Options -/

namespace ColumnClause

/-- An option that settles nothing leaves what is settled. -/
theorem apply_of_isNeutral (c : Column) {option : ColumnOption} (h : option.IsNeutral) :
    (apply c option).nullable = c.nullable ∧ (apply c option).autoIncrement = c.autoIncrement := by
  obtain ⟨notNull, primaryKey, null, autoIncrement⟩ := h
  cases option with
  | notNull | primaryKey | null | autoIncrement => contradiction
  | origin spec =>
    simp only [apply]
    cases applied : spec.applyLogical? c with
    | none => exact ⟨rfl, rfl⟩
    | some d =>
      obtain ⟨type, -, rfl⟩ := Option.map_eq_some_iff.1 applied
      exact ⟨spec.nullable_give type c, spec.autoIncrement_give type c⟩
  | default value =>
    cases value <;> simp only [apply, applyDefault]
    case now => split <;> trivial
    all_goals trivial
  | _ => exact ⟨rfl, rfl⟩

theorem nullable_apply_eq_false_iff (c : Column) (option : ColumnOption) :
    (apply c option).nullable = false ↔
      c.nullable = false ∨ option = .notNull ∨ option = .primaryKey := by
  cases option with
  | notNull | primaryKey | null | autoIncrement => simp [apply]
  | _ =>
    rw [(apply_of_isNeutral c (by simp [ColumnOption.IsNeutral])).1]
    simp

theorem autoIncrement_apply_iff (c : Column) (option : ColumnOption) :
    (apply c option).autoIncrement = true ↔
      c.autoIncrement = true ∨ option = .autoIncrement := by
  cases option with
  | notNull | primaryKey | null | autoIncrement => simp [apply]
  | _ =>
    rw [(apply_of_isNeutral c (by simp [ColumnOption.IsNeutral])).2]
    simp

theorem nullable_foldl_apply_eq_false_iff (c : Column) (options : List ColumnOption) :
    (options.foldl apply c).nullable = false ↔
      c.nullable = false ∨ .notNull ∈ options ∨ .primaryKey ∈ options := by
  induction options generalizing c with
  | nil => simp
  | cons option options ih =>
    rw [List.foldl_cons, ih, nullable_apply_eq_false_iff, List.mem_cons, List.mem_cons, eq_comm,
      @eq_comm _ option]
    tauto

theorem autoIncrement_foldl_apply_iff (c : Column) (options : List ColumnOption) :
    (options.foldl apply c).autoIncrement = true ↔
      c.autoIncrement = true ∨ .autoIncrement ∈ options := by
  induction options generalizing c with
  | nil => simp
  | cons option options ih =>
    rw [List.foldl_cons, ih, autoIncrement_apply_iff, List.mem_cons, @eq_comm _ option, or_assoc]

/-- What the options of a clause settle: the column may not be null if it counts up, and none of
the others forbids null where the clause allows it. -/
theorem nullable_described_iff {clause : ColumnClause} (h : clause.column.autoIncrement = false) :
    clause.described.nullable = false ↔ .autoIncrement ∈ clause.options ∨
      (.notNull ∈ clause.options ∨ .primaryKey ∈ clause.options) ∧ .null ∉ clause.options := by
  unfold described
  have starts : ({ clause.column with nullable := true } : Column).nullable = true ∧
      ({ clause.column with nullable := true } : Column).autoIncrement = false := ⟨rfl, h⟩
  generalize ({ clause.column with nullable := true } : Column) = c at starts
  have counts := autoIncrement_foldl_apply_iff c clause.options
  have forbidden := nullable_foldl_apply_eq_false_iff c clause.options
  simp only [starts, Bool.false_eq_true, Bool.true_eq_false, false_or] at counts forbidden
  dsimp only
  split
  · rename_i up
    simp [counts.1 up]
  · rename_i still
    rw [counts] at still
    split
    · rename_i null
      simp [still, List.contains_iff_mem.1 null]
    · rename_i noNull
      rw [forbidden]
      simp [still, mt List.contains_iff_mem.2 noNull]

end ColumnClause

/-! ## Columns -/

/-- The phrases of a column clause: what stands behind its name and its type. -/
def PhrasesOf (context : String) (clause : List Token) (phrases : List (List Token)) : Prop :=
  ∃ name ts spec rest options, clause = name :: ts ∧ TypeSpec.read.run ts = .ok (spec, rest) ∧
    Phrases context rest phrases options

/-- What the phrases of a clause settle about null, whatever their order. -/
structure SettledBy (phrases : List (List Token)) (nullable : Bool) : Prop where
  said : nullable = false → ∃ phrase ∈ phrases, ForbidsNull phrase ∨ CountsUp phrase
  forbidden : (∃ phrase ∈ phrases, ForbidsNull phrase) →
    (∀ phrase ∈ phrases, ¬ Spells phrase ["null"]) → nullable = false
  counted : (∃ phrase ∈ phrases, CountsUp phrase) → nullable = false

/-- A clause has phrases, and they settle whether its column may be null. -/
structure Describes (context : String) (clause : List Token) (c : Column) : Prop where
  named : clause.head?.bind Token.name? = some c.name
  phrased : ∃ phrases, PhrasesOf context clause phrases
  settled : ∀ phrases, PhrasesOf context clause phrases → SettledBy phrases c.nullable

theorem autoIncrement_of_readColumn {table context : String} {clause : List Token}
    {parsed : ColumnClause} (h : readColumn table context clause = .ok parsed) :
    parsed.column.autoIncrement = false := by
  obtain ⟨first, tail, spec, rest, -, -, -, given, -⟩ := exists_of_readColumn h
  obtain ⟨type, -, typed⟩ := Option.map_eq_some_iff.1 given
  rw [← typed, TypeSpec.autoIncrement_give]

/-- What is spelled in the phrases of a clause is what its options settle. -/
theorem settledBy_described {phrases : List (List Token)} {clause : ColumnClause}
    (plain : clause.column.autoIncrement = false)
    (all : List.Forall₂ Settles phrases clause.options) :
    SettledBy phrases clause.described.nullable := by
  have settled := ColumnClause.nullable_described_iff plain
  have up : (∃ phrase ∈ phrases, CountsUp phrase) ↔ .autoIncrement ∈ clause.options := by
    rw [exists_mem_iff_of_forall₂ all fun _ _ h => h.countsUp, exists_eq_right]
  have null : (∃ phrase ∈ phrases, Spells phrase ["null"]) ↔ .null ∈ clause.options := by
    rw [exists_mem_iff_of_forall₂ all fun _ _ h => h.null, exists_eq_right]
  have forbidden : (∃ phrase ∈ phrases, ForbidsNull phrase) ↔
      .notNull ∈ clause.options ∨ .primaryKey ∈ clause.options := by
    rw [exists_mem_iff_of_forall₂ all fun _ _ h => h.forbidsNull]
    simp only [and_or_left, exists_or, exists_eq_right]
  constructor
  · intro not
    rcases settled.1 not with counts | ⟨forbids, -⟩
    · obtain ⟨phrase, mem, counts⟩ := up.2 counts
      exact ⟨phrase, mem, .inr counts⟩
    · obtain ⟨phrase, mem, forbids⟩ := forbidden.2 forbids
      exact ⟨phrase, mem, .inl forbids⟩
  · intro forbids silent
    refine settled.2 (.inr ⟨forbidden.1 forbids, fun mem => ?_⟩)
    obtain ⟨phrase, mem, spelled⟩ := null.2 mem
    exact silent phrase mem spelled
  · exact fun counts => settled.2 (.inl (up.1 counts))

theorem describes_of_readColumn {table context : String} {clause : List Token}
    {parsed : ColumnClause} {c : Column} (read : readColumn table context clause = .ok parsed)
    (gains : parsed.described.Gains c) : Describes context clause c := by
  have plain := autoIncrement_of_readColumn read
  obtain ⟨first, tail, spec, rest, rfl, named, readType, -, readRest⟩ := exists_of_readColumn read
  obtain ⟨phrases, cut⟩ := readOptions_eq_ok_iff.1 readRest
  have sameNullable : c.nullable = parsed.described.nullable := by
    rcases gains with rfl | ⟨-, role, rfl⟩ <;> rfl
  refine ⟨?_, ⟨phrases, first, tail, spec, rest, _, rfl, readType, cut⟩, ?_⟩
  · rw [gains.name_eq, ColumnClause.name_described]
    exact named
  · rintro phrases ⟨_, _, _, _, options, same, readAgain, cut⟩
    cases same
    rw [readType] at readAgain
    cases readAgain
    have readOthers := readOptions_eq_ok_iff.2 ⟨phrases, cut⟩
    rw [readRest] at readOthers
    cases readOthers
    rw [sameNullable]
    exact settledBy_described plain cut.settles

/-- In every script that is read, the clauses of each table that define columns describe its
columns, in order. -/
theorem nullable_readTables {sql : String} {bs : List Blueprint} (h : readTables sql = .ok bs) :
    ∃ tokens, Token.scan sql = .ok tokens ∧
      List.Forall₂ (fun statement (b : Blueprint) =>
        List.Forall₂ (Describes ("table " ++ b.table))
          ((clauses statement).filter definesColumn) b.columns) (statements tokens) bs := by
  obtain ⟨tokens, scanned, read⟩ := readTables_eq_ok_iff.1 h
  refine ⟨tokens, scanned, read.imp fun statement b readStatement => ?_⟩
  refine (forall₂_readTable readStatement).imp ?_
  rintro clause c ⟨parsed, -, readClause, gains⟩
  exact describes_of_readColumn readClause gains

/-- A table whose clauses forbid null in two ways, one of them behind a default. -/
def playersScript : String :=
  "CREATE TABLE players (id int PRIMARY KEY, name text DEFAULT '' NOT NULL, age int)"

theorem nullable_readTables_players :
    ∃ bs tokens, readTables playersScript = .ok bs ∧
      (bs.map fun b => b.columns.map (·.nullable)) = [[false, false, true]] ∧
        List.Forall₂ (fun statement (b : Blueprint) =>
          List.Forall₂ (Describes ("table " ++ b.table))
            ((clauses statement).filter definesColumn) b.columns) (statements tokens) bs := by
  have columns : (readTables playersScript).map (fun bs =>
      bs.map fun b => b.columns.map (·.nullable)) = .ok [[false, false, true]] := by
    decide +kernel
  obtain ⟨bs, read, columns⟩ := Except.exists_of_map_eq_ok columns
  obtain ⟨tokens, -, described⟩ := nullable_readTables read
  exact ⟨bs, tokens, read, columns, described⟩

/-- A table with a key among its clauses. -/
def keyedScript : String := "CREATE TABLE teams (id int, PRIMARY KEY (id))"

/-- The columns of a primary key may be null if another clause than theirs declares it. -/
theorem not_forall_primary_nullable :
    ¬ ∀ sql bs, readTables sql = .ok bs → ∀ b ∈ bs, ∀ i, .addIndex i ∈ b.commands →
      i.kind = .primary → ∀ c ∈ b.columns, c.name ∈ i.columns → c.nullable = false := by
  intro forbidden
  have read : readTables keyedScript =
      .ok [{ idTable "teams" with
        commands := [.create, .addIndex { kind := .primary, columns := ["id"] }] }] := by
    decide +kernel
  have never := forbidden _ _ read _ (List.mem_singleton.2 rfl)
    { kind := .primary, columns := ["id"] } (by simp) rfl _ (List.mem_singleton.2 rfl) (by simp)
  exact absurd never (by decide)

end Ddl

end SchemaShift
