import SchemaShift.Compile.Rebuild
import SchemaShift.Ddl.Hints
import SchemaShift.Proofs.Ddl.MySqlColumn
import SchemaShift.Proofs.Ddl.SqliteText

/-!
# The hints of SQLite definitions

The statement that makes a table on SQLite carries the logical type of every column in a comment.
What is read back is what the column records, except that the backslash escapes in the values of
an enum are undone: the statement writes them as standard SQL, and the reader of string literals
takes backslashes for escapes.

Results:
* `ofText_originText`: the text of a comment is read as the type it was written from.
* `foldl_addPart`: what the clauses of a definition add up to.
* `ofClauses_eq`: the hints of clauses with different names are those of the single clauses.
* `ofText_created_iff`: the hints of a new table, and when they are what its columns record.
* `not_forall_recovered`: a backslash in a value is lost.
-/

namespace SchemaShift

open Sql

/-! ## What a column records -/

namespace Column

/-- The arguments of the logical type of a column. A string has a length, a decimal a precision
and a scale; they have values of their own where the column records none. -/
def typeArguments (c : Column) : List String :=
  match c.type with
  | .string | .char => [c.stringLength.toNat.repr]
  | .decimal =>
    [(c.precision.getD defaultPrecision).toNat.repr, (c.scale.getD defaultScale).toNat.repr]
  | .float | .double =>
    match c.precision, c.scale with
    | some p, some s => [p.toNat.repr, s.toNat.repr]
    | some p, none => [p.toNat.repr]
    | none, _ => []
  | .enum => c.allowed
  | _ => []

/-- What the definition of a column is to say of it: the logical type with its arguments, that the
column is an unsigned number that does not count up, and that it counts up. -/
def hint (c : Column) : ColumnHint :=
  { origin := some { name := c.type.name, args := c.typeArguments }
    unsigned := c.unsigned && c.type.isNumeric && c.type != .boolean && !c.autoIncrement
    autoIncrement := c.autoIncrement }

/-- What is read off the definition of a column. -/
def readHint (c : Column) : ColumnHint :=
  { c.hint with
    origin := some { name := c.type.name, args := c.typeArguments.map Text.unescapedText } }

/-- The text that the definition of a column writes as its default. -/
def writtenText? (c : Column) : Option String :=
  if c.autoIncrement || c.useCurrent then none
  else c.default.bind fun
    | .text s => some s
    | _ => none

/-- No value and no written default of a column takes the quote that closes it, and no value ends
the comment around it. -/
def KeepsBounds (c : Column) : Prop :=
  (c.type = .enum → ∀ v ∈ c.allowed,
    Text.ClosesLiteral v.toList ∧ Text.StaysInComment v.toList) ∧
      ∀ s ∈ c.writtenText?, Text.ClosesLiteral s.toList

instance (c : Column) : Decidable c.KeepsBounds := by unfold KeepsBounds; infer_instance

end Column

/-! ## The type in the comment -/

namespace TypeSpec

/-- The text of a comment is read as the type it was written from, with its escapes undone. -/
theorem ofText_originText {t : PhysicalType} (h : t.IsOrigin) :
    ofText t.originText = .ok (ofPhysical t.unescaped false) := by
  have scanned : Token.scan t.originText = .ok t.unescaped.tokens :=
    (PhysicalType.lexes_origin h).scanChars_eq
  have read : TypeSpec.read.run (t.unescaped.tokens ++ []) =
      .ok (ofPhysical t.unescaped false, []) := run_read t.unescaped (by simp) rfl
  rw [List.append_nil] at read
  rw [ofText, scanned]
  simp only
  rw [read]

theorem unescapedText_repr (n : Nat) : Text.unescapedText n.repr = n.repr := by
  have plain : '\\' ∉ n.repr.toList := fun mem =>
    absurd (Number.isDigit_of_mem_repr mem) (by decide)
  rw [Text.unescapedText, Text.unescaped_of_not_mem plain, String.ofList_toList]

theorem argumentText_unescaped (a : TypeArgument) :
    argumentText a.unescaped = Text.unescapedText (argumentText a) := by
  cases a with
  | number n => exact (unescapedText_repr n.toNat).symm
  | text s => rfl

theorem args_originType (c : Column) :
    ((originType c).args.getD []).map argumentText = c.typeArguments := by
  unfold originType Column.typeArguments
  cases c.type with
  | float | double =>
    simp only [floating]
    cases c.precision <;> cases c.scale <;> rfl
  | enum => simp [valued, argumentText, Function.comp_def]
  | _ => rfl

theorem name_originType (c : Column) : (originType c).name = c.type.name := by
  unfold originType
  cases h : c.type with
  | float | double => exact name_floating _ c
  | _ => rfl

theorem ofPhysical_originType (c : Column) :
    ofPhysical (originType c).unescaped false =
      { name := c.type.name, args := c.typeArguments.map Text.unescapedText } := by
  have name : Text.asciiLower c.type.name = c.type.name := by cases c.type <;> decide
  have args : ((originType c).unescaped.args.getD []).map argumentText =
      c.typeArguments.map Text.unescapedText := by
    rw [← args_originType, PhysicalType.unescaped]
    cases (originType c).args with
    | none => rfl
    | some args => simp [argumentText_unescaped]
  rw [ofPhysical, args]
  simp only [PhysicalType.unescaped, name_originType, name]

end TypeSpec

/-! ## The clauses of a definition -/

namespace Column

variable {c : Column}

/-- The comment of a column can carry its logical type. -/
theorem isOrigin_originType (h : c.KeepsBounds) : (originType c).IsOrigin := by
  refine ⟨⟨c.type, TypeSpec.name_originType c⟩, ?_⟩
  have numbers : ∀ (name : String) (sizes : List UInt32), ∀ args ∈ (sized name sizes).args,
      ∀ a ∈ args, a.KeepsBounds := by
    rintro name sizes _ ⟨⟩ a mem
    obtain ⟨n, -, rfl⟩ := List.mem_map.1 mem
    trivial
  unfold originType
  cases kind : c.type with
  | string | char | decimal => exact numbers _ _
  | float | double =>
    simp only [floating]
    split
    · exact numbers _ _
    · exact numbers _ _
    · rintro _ ⟨⟩
  | enum =>
    rintro _ ⟨⟩ a mem
    obtain ⟨v, hv, rfl⟩ := List.mem_map.1 mem
    exact h.1 kind v hv
  | _ => rintro _ ⟨⟩

theorem keepsBounds_typeParts (h : c.KeepsBounds) : ∀ p ∈ typeParts .sqlite c, p.KeepsBounds := by
  intro p mem
  simp only [typeParts, List.cons_append, List.mem_cons, List.mem_append] at mem
  rcases mem with rfl | rfl | check | time
  · exact ⟨c.type, rfl⟩
  · exact isOrigin_originType h
  · unfold valueCheckPart at check
    split at check
    · rename_i enum
      cases List.mem_singleton.1 check
      exact fun v hv => (h.1 enum v hv).1
    · cases check
  · cases eq_of_mem_currentTimePart time
    trivial

theorem keepsBounds_defaultPart (h : c.KeepsBounds) (literal : ∀ sql, c.default ≠ some (.raw sql)) :
    ∀ p ∈ defaultPart c, p.KeepsBounds := by
  intro p mem
  obtain ⟨written, v, hv, rfl⟩ := exists_of_mem_defaultPart mem
  have value : ∀ sql, v ≠ .raw sql := by
    rintro sql rfl
    exact literal sql hv
  obtain ⟨w, hw⟩ := Option.isSome_iff_exists.1 (DefaultValue.sqliteText?_isSome value)
  refine ⟨w, hw, ?_⟩
  by_cases text : ∃ s, v = .text s
  · obtain ⟨s, rfl⟩ := text
    cases hw
    apply h.2
    rw [writtenText?, written, if_neg Bool.false_ne_true, hv]
    rfl
  · have plain := DefaultValue.plain_sqliteText? hw fun s same => text ⟨s, same⟩
    exact Text.closesLiteral_of_not_mem plain.2

theorem keepsBounds_definition (h : c.KeepsBounds)
    (literal : ∀ sql, c.default ≠ some (.raw sql)) :
    ∀ p ∈ (definition .sqlite c).parts, p.KeepsBounds := by
  intro p mem
  simp only [definition, modifiers, List.mem_append, List.mem_singleton, Option.mem_toList] at mem
  rcases mem with type | ((unsigned | rfl) | default) | increment
  · exact keepsBounds_typeParts h p type
  · cases eq_of_mem_unsignedPart unsigned
    trivial
  · trivial
  · exact keepsBounds_defaultPart h literal p default
  · cases eq_of_mem_incrementPart increment
    trivial

end Column

/-! ## The hint of a column clause -/

namespace ColumnHints

/-- A token that is no comment and not the word for counting up adds nothing. -/
theorem addToken_of_silent {t : Token} (comment : t.isComment = false)
    (keyword : t.isKeyword "autoincrement" = false) (hint : ColumnHint) :
    addToken hint t = hint := by
  unfold addToken
  split
  · cases comment
  · rw [if_neg (by simp [keyword])]

theorem foldl_addToken_of_silent {ts : List Token}
    (h : ∀ t ∈ ts, t.isComment = false ∧ t.isKeyword "autoincrement" = false)
    (hint : ColumnHint) : ts.foldl addToken hint = hint := by
  induction ts generalizing hint with
  | nil => rfl
  | cons t ts ih =>
    obtain ⟨comment, keyword⟩ := h t (by simp)
    rw [List.foldl_cons, addToken_of_silent comment keyword, ih fun u hu => h u (by simp [hu])]

/-- What a clause adds to the hint of its column. -/
def addPart (hint : ColumnHint) : ColumnPart → ColumnHint
  | .origin t =>
    if hint.origin.isNone then
      { hint with origin := some (TypeSpec.ofPhysical t.unescaped false) }
    else hint
  | .unsigned => { hint with unsigned := true }
  | .increment => { hint with autoIncrement := true }
  | .type _ | .valueCheck _ _ | .nullability _ | .default _ => hint

theorem addToken_origin {t : PhysicalType} (h : t.IsOrigin) (hint : ColumnHint) :
    addToken hint (.comment t.originText) = addPart hint (.origin t) := by
  have type := h.not_sameWord_unsigned
  rw [addToken, type, TypeSpec.ofText_originText h]
  rfl

/-- The tokens of a clause add to a hint what the clause stands for. -/
theorem foldl_addToken_part {p : ColumnPart} (h : p.KeepsBounds) (hint : ColumnHint) :
    p.sqliteTokens.foldl addToken hint = addPart hint p := by
  cases p with
  | type t =>
    obtain ⟨kind, rfl⟩ := h
    exact foldl_addToken_of_silent (by cases kind <;> decide) hint
  | origin t => exact addToken_origin h hint
  | valueCheck column allowed =>
    apply foldl_addToken_of_silent
    intro t mem
    simp only [ColumnPart.sqliteTokens, List.mem_append, List.mem_cons, List.not_mem_nil, or_false]
      at mem
    rcases mem with (rfl | rfl | rfl | rfl | rfl) | values | rfl | rfl
    · decide
    · exact ⟨rfl, rfl⟩
    · exact ⟨rfl, rfl⟩
    · decide
    · exact ⟨rfl, rfl⟩
    · rcases mem_valueTokens values with rfl | ⟨s, rfl⟩ <;> exact ⟨rfl, rfl⟩
    · exact ⟨rfl, rfl⟩
    · exact ⟨rfl, rfl⟩
  | unsigned => rfl
  | nullability nullable =>
    cases nullable <;> exact foldl_addToken_of_silent (by decide) hint
  | default value =>
    cases value with
    | currentTime => exact foldl_addToken_of_silent (by decide) hint
    | value v =>
      obtain ⟨w, hw, -⟩ := h
      rw [ColumnPart.sqliteTokens, hw]
      apply foldl_addToken_of_silent
      intro t mem
      simp only [Option.map_some, Option.toList_some, List.mem_cons, List.not_mem_nil, or_false]
        at mem
      rcases mem with rfl | rfl
      · decide
      · exact ⟨rfl, rfl⟩
  | increment => rfl

theorem foldl_addToken_parts {parts : List ColumnPart} (h : ∀ p ∈ parts, p.KeepsBounds)
    (hint : ColumnHint) :
    (parts.flatMap ColumnPart.sqliteTokens).foldl addToken hint = parts.foldl addPart hint := by
  induction parts generalizing hint with
  | nil => rfl
  | cons p parts ih =>
    rw [List.flatMap_cons, List.foldl_append, foldl_addToken_part (h p (by simp)),
      ih fun q hq => h q (by simp [hq])]
    rfl

/-- The clauses of a definition add up to the hint of its column. -/
theorem foldl_addPart (c : Column) :
    (definition .sqlite c).parts.foldl addPart {} = c.readHint := by
  have check : ∀ hint, (valueCheckPart c).foldl addPart hint = hint := by
    intro hint
    unfold valueCheckPart
    split <;> rfl
  have time : ∀ hint, (currentTimePart c).foldl addPart hint = hint := by
    intro hint
    unfold currentTimePart
    split <;> rfl
  have default : ∀ hint, (defaultPart c).toList.foldl addPart hint = hint := by
    intro hint
    unfold defaultPart
    split
    · rfl
    · cases c.default <;> rfl
  simp only [definition, typeParts, modifiers, List.foldl_append, List.foldl_cons,
    List.cons_append, List.foldl_nil, check, time, default]
  have unsigned : unsignedPart .sqlite c =
      if c.readHint.unsigned then some .unsigned else none := by
    rw [unsignedPart, Column.readHint, Column.hint, ColumnType.isSignable]
    cases c.unsigned <;> cases c.type.isNumeric <;> cases c.type != .boolean <;>
      cases c.autoIncrement <;> rfl
  have increment : incrementPart c =
      if c.readHint.autoIncrement then some .increment else none := rfl
  rw [unsigned, increment]
  simp only [addPart, nullabilityPart, TypeSpec.ofPhysical_originType]
  have whole : c.readHint =
      { origin := some { name := c.type.name, args := c.typeArguments.map Text.unescapedText }
        unsigned := c.readHint.unsigned
        autoIncrement := c.readHint.autoIncrement } := rfl
  -- What is left depends on the two flags alone.
  generalize c.readHint.unsigned = u at *
  generalize c.readHint.autoIncrement = a at *
  rw [whole]
  cases u <;> cases a <;> rfl

/-- The clause of a column is read as its name and its hint. -/
theorem ofClause?_definition {c : Column} (h : c.KeepsBounds)
    (literal : ∀ sql, c.default ≠ some (.raw sql)) :
    ofClause? (definition .sqlite c).sqliteTokens = some (c.name, c.readHint) := by
  have parts := foldl_addToken_parts (c.keepsBounds_definition h literal) {}
  rw [foldl_addPart] at parts
  rw [ColumnDefinition.sqliteTokens, ofClause?, parts]
  rfl

/-- Constraints are passed over. -/
theorem ofClause?_constraint (c : TableConstraint) : ofClause? c.tokens = none := by
  cases c <;> rfl

/-! ## The hints of a table -/

theorem insert_of_not_mem {name : String} {hint : ColumnHint} {hints : ColumnHints}
    (h : name ∉ hints.map Prod.fst) : insert name hint hints = hints ++ [(name, hint)] := by
  induction hints with
  | nil => rfl
  | cons entry hints ih =>
    rw [List.map_cons, List.mem_cons, not_or] at h
    rw [insert, if_neg (Ne.symm h.1), ih h.2, List.cons_append]

/-- Entries with different names are added one after the other. -/
theorem foldl_insert (entries hints : ColumnHints)
    (named : ((hints ++ entries).map Prod.fst).Nodup) :
    entries.foldl (fun hints entry => insert entry.1 entry.2 hints) hints = hints ++ entries := by
  induction entries generalizing hints with
  | nil => simp
  | cons entry entries ih =>
    have fresh : entry.1 ∉ hints.map Prod.fst := by
      intro mem
      rw [List.map_append, List.map_cons, List.nodup_append] at named
      exact named.2.2 _ mem _ (by simp) rfl
    rw [List.foldl_cons, insert_of_not_mem fresh, ih _ (by simpa using named), List.append_assoc]
    rfl

/-- The hints of clauses with different names are those of the single clauses. -/
theorem ofClauses_eq {clauses : List (List Token)}
    (named : ((clauses.filterMap ofClause?).map Prod.fst).Nodup) :
    ofClauses clauses = clauses.filterMap ofClause? := by
  calc ofClauses clauses
      = (clauses.filterMap ofClause?).foldl (fun hints entry => insert entry.1 entry.2 hints)
          [] := by
        rw [ofClauses, List.foldl_filterMap]
        congr
        funext hints clause
        cases ofClause? clause <;> rfl
    _ = clauses.filterMap ofClause? := foldl_insert _ [] named

/-- The clauses of a table are read as the hints of its columns. -/
theorem filterMap_clauses {cs : List Column} (bounds : ∀ c ∈ cs, c.KeepsBounds)
    (literal : ∀ c ∈ cs, ∀ sql, c.default ≠ some (.raw sql)) (constraints : List TableConstraint) :
    (clauses (cs.map (definition .sqlite)) constraints).filterMap ofClause? =
      cs.map fun c => (c.name, c.readHint) := by
  have none : (constraints.map (·.tokens)).filterMap ofClause? = [] := by
    rw [List.filterMap_eq_nil_iff]
    intro clause mem
    obtain ⟨c, -, rfl⟩ := List.mem_map.1 mem
    exact ofClause?_constraint c
  rw [clauses, List.filterMap_append, none, List.append_nil]
  induction cs with
  | nil => rfl
  | cons c cs ih =>
    have first := ofClause?_definition (bounds c (by simp)) (literal c (by simp))
    rw [List.map_cons, List.map_cons, List.map_cons, List.filterMap_cons_some first,
      ih (fun d hd => bounds d (by simp [hd])) (fun d hd => literal d (by simp [hd]))]

/-- The hints are read off the clauses between the parentheses of a table definition. -/
theorem ofTokens_clauses (table : String) (columns : List ColumnDefinition)
    (constraints : List TableConstraint) :
    ofTokens ([.word "CREATE", .word "TABLE", .ident table, .leftParen] ++
        ([Token.comma].intercalate (clauses columns constraints) ++ [.rightParen])) =
      .ok (ofClauses (clauses columns constraints)) := by
  have inner : Token.Nested (fun _ => True)
      ([Token.comma].intercalate (clauses columns constraints)) :=
    Token.nested_intercalate (by simp) (by simp)
      fun clause mem => (nested_clauses mem).2.imp fun _ _ => trivial
  have opened : ∀ inside : List Token,
      ([Token.word "CREATE", .word "TABLE", .ident table, .leftParen] ++ inside).dropWhile
        (· != .leftParen) = .leftParen :: inside := fun _ => rfl
  have closes := Token.closing?_group inner []
  have split := Token.splitTopLevel_intercalate fun clause (mem : clause ∈ clauses columns
    constraints) => nested_clauses mem
  rw [ofTokens, opened]
  simp only [closes, List.take_left, split]

/-- The hints that are read off a new table. -/
theorem ofText_createTable {cs : List Column} (named : (cs.map (·.name)).Nodup)
    (bounds : ∀ c ∈ cs, c.KeepsBounds) (literal : ∀ c ∈ cs, ∀ sql, c.default ≠ some (.raw sql))
    (table : String) (constraints : List TableConstraint) :
    ofText ((Statement.createTable table (cs.map (definition .sqlite)) constraints none).render
      .sqlite) = .ok (cs.map fun c => (c.name, c.readHint)) := by
  have parts : ∀ d ∈ cs.map (definition .sqlite), ∀ p ∈ d.parts, p.KeepsBounds := by
    intro d mem
    obtain ⟨c, hc, rfl⟩ := List.mem_map.1 mem
    exact c.keepsBounds_definition (bounds c hc) (literal c hc)
  have scanned : Token.scan ((Statement.createTable table (cs.map (definition .sqlite))
      constraints none).render .sqlite) = .ok _ := (lexes_createTable_sqlite parts).scanChars_eq
  have entries := filterMap_clauses bounds literal constraints
  have read : ofClauses (clauses (cs.map (definition .sqlite)) constraints) =
      cs.map fun c => (c.name, c.readHint) := by
    rw [ofClauses_eq, entries]
    rw [entries, List.map_map]
    exact named
  exact Except.bind_eq_ok_iff.2 ⟨_, scanned, by rw [ofTokens_clauses, read]⟩

end ColumnHints

/-! ## When a new table is read as it was recorded -/

namespace Column

/-- The arguments of every type but an enum are numbers. -/
theorem exists_repr_of_mem_typeArguments {c : Column} (other : c.type ≠ .enum) {a : String}
    (h : a ∈ c.typeArguments) : ∃ n : Nat, a = n.repr := by
  unfold typeArguments at h
  split at h
  · exact ⟨_, List.mem_singleton.1 h⟩
  · exact ⟨_, List.mem_singleton.1 h⟩
  · simp only [List.mem_cons, List.not_mem_nil, or_false] at h
    rcases h with rfl | rfl <;> exact ⟨_, rfl⟩
  · split at h
    · simp only [List.mem_cons, List.not_mem_nil, or_false] at h
      rcases h with rfl | rfl <;> exact ⟨_, rfl⟩
    · exact ⟨_, List.mem_singleton.1 h⟩
    · cases h
  · split at h
    · simp only [List.mem_cons, List.not_mem_nil, or_false] at h
      rcases h with rfl | rfl <;> exact ⟨_, rfl⟩
    · exact ⟨_, List.mem_singleton.1 h⟩
    · cases h
  · rename_i enum
    exact absurd enum other
  · cases h

/-- What is read off a column is what it records exactly when its values have no backslash. -/
theorem readHint_eq_hint_iff {c : Column} (h : c.KeepsBounds) :
    c.readHint = c.hint ↔ (c.type = .enum → ∀ v ∈ c.allowed, '\\' ∉ v.toList) := by
  have args : c.readHint = c.hint ↔ ∀ a ∈ c.typeArguments, Text.unescapedText a = a := by
    have same := List.map_inj_left (l := c.typeArguments) (f := Text.unescapedText) (g := id)
    rw [List.map_id] at same
    simpa [readHint, hint] using same
  rw [args]
  by_cases enum : c.type = .enum
  · have values : c.typeArguments = c.allowed := by rw [typeArguments, enum]
    simp only [values, enum, true_imp_iff]
    exact forall₂_congr fun v hv => Text.unescapedText_eq_self_iff (h.1 enum v hv).1
  · refine iff_of_true (fun a mem => ?_) fun same => absurd same enum
    obtain ⟨n, rfl⟩ := exists_repr_of_mem_typeArguments enum mem
    exact TypeSpec.unescapedText_repr n

end Column

namespace ColumnHints

/-- A new table is made and its hints are read, one for each column in order: what the columns
record, with the backslash escapes in the values undone. So they are what the columns record
exactly when no value has a backslash. -/
theorem ofText_created_iff {b : Blueprint} (named : (b.addedColumns.map (·.name)).Nodup)
    (defined : ∀ c ∈ b.addedColumns, ∃ d, define .sqlite c = .ok d)
    (literal : ∀ c ∈ b.addedColumns, ∀ sql, c.default ≠ some (.raw sql))
    (bounds : ∀ c ∈ b.addedColumns, c.KeepsBounds) :
    ∃ created, Compile.Sqlite.create b = .ok created ∧
      ofText (created.render .sqlite) =
        .ok (b.addedColumns.map fun c => (c.name, c.readHint)) ∧
      (ofText (created.render .sqlite) = .ok (b.addedColumns.map fun c => (c.name, c.hint)) ↔
        ∀ c ∈ b.addedColumns, c.type = .enum → ∀ v ∈ c.allowed, '\\' ∉ v.toList) := by
  have read := ofText_createTable named bounds literal b.table
    (b.compiledCommands.filterMap (Compile.Sqlite.constraint? b))
  refine ⟨_, by rw [Compile.Sqlite.create, defineAll_of_forall defined]; rfl, read, ?_⟩
  rw [read, Except.ok.injEq, List.map_inj_left]
  refine forall₂_congr fun c hc => ?_
  rw [Prod.mk.injEq, Column.readHint_eq_hint_iff (bounds c hc)]
  exact and_iff_right rfl

/-- A table whose names, values and defaults hold quotes, parentheses, commas and the openings of
comments. -/
def labelledTable : Blueprint :=
  { table := "la\"bels ("
    columns :=
      [{ name := "id", type := .bigInteger, unsigned := true, autoIncrement := true },
        { name := "ki\"nd */", type := .enum, allowed := ["it's", "a,b)", "/* -- '"],
          default := some (.text "it's"), nullable := true },
        { name := "unsigned", type := .decimal, precision := some 10, unsigned := true,
          default := some (.integer (-7)) },
        { name := "path", type := .string, default := some (.text "C:\\temp\\\\") },
        { name := "owner", type := .integer, default := some (.bool true) },
        { name := "at", type := .timestamp, useCurrent := true }]
    commands :=
      [.create,
        .addForeign
          { columns := ["owner"], table := "us)ers", references := ["id"],
            onDelete := some .setNull }] }

/-- Quotes, parentheses and backslashes that escape no quote leave the hints alone. -/
theorem ofText_created_iff_labelledTable :
    (∀ c ∈ labelledTable.addedColumns, c.KeepsBounds) ∧
      ∃ created, Compile.Sqlite.create labelledTable = .ok created ∧
        ofText (created.render .sqlite) =
          .ok (labelledTable.addedColumns.map fun c => (c.name, c.hint)) := by
  have serial : ∀ c ∈ labelledTable.addedColumns,
      c.autoIncrement = true → c.type ∈ serials .sqlite := by decide
  have plain : ∀ c ∈ labelledTable.addedColumns, c.default.all fun
      | .raw _ => false
      | _ => true := by decide
  have literal : ∀ c ∈ labelledTable.addedColumns, ∀ sql, c.default ≠ some (.raw sql) := by
    intro c hc sql raw
    have := plain c hc
    rw [raw] at this
    cases this
  have bounds : ∀ c ∈ labelledTable.addedColumns, c.KeepsBounds := by decide +kernel
  obtain ⟨created, made, -, recorded⟩ := ofText_created_iff (by decide)
    (fun c hc => ⟨_, define_eq_ok_iff.2 ⟨serial c hc, rfl⟩⟩) literal bounds
  exact ⟨bounds, created, made, recorded.2 (by decide +kernel)⟩

/-- A table whose one value holds a backslash. -/
def slashedTable : Blueprint :=
  { table := "files"
    columns := [{ name := "kind", type := .enum, allowed := ["a\\b"] }]
    commands := [.create] }

/-- A valid table is made with a value that is read without its backslash. -/
theorem not_forall_recovered :
    ¬ ∀ b : Blueprint, b.creating = true → (b.columns.map (·.name)).Nodup →
      (∀ c ∈ b.columns, c.check = .ok ()) → (∀ c ∈ b.columns, ∃ d, define .sqlite c = .ok d) →
        (∀ c ∈ b.columns, ∀ sql, c.default ≠ some (.raw sql)) →
          ∃ created, Compile.Sqlite.create b = .ok created ∧
            ofText (created.render .sqlite) =
              .ok (b.addedColumns.map fun c => (c.name, c.hint)) := by
  intro recovered
  have valid : ∀ c ∈ slashedTable.columns, c.Valid := by decide
  have serial : ∀ c ∈ slashedTable.columns, c.autoIncrement = true → c.type ∈ serials .sqlite := by
    decide
  have literal : ∀ c ∈ slashedTable.columns, ∀ sql, c.default ≠ some (.raw sql) := by
    simp [slashedTable]
  obtain ⟨created, made, hints⟩ := recovered slashedTable (by decide) (by decide)
    (fun c hc => Column.check_eq_ok_iff.2 (valid c hc))
    (fun c hc => ⟨_, define_eq_ok_iff.2 ⟨serial c hc, rfl⟩⟩) literal
  have read : ofText (created.render .sqlite) =
      .ok (slashedTable.columns.map fun c => (c.name, c.readHint)) := by
    cases made
    exact ofText_createTable (by decide) (by decide) literal "files" []
  have same := Except.ok.inj (read.symm.trans hints)
  revert same
  decide

/-- A default that ends in a backslash takes its closing quote with it. -/
example : (ofText
    "CREATE TABLE \"t\" (\"p\" TEXT /*text*/ NOT NULL DEFAULT 'C:\\')").toOption = none := by
  decide +kernel

end ColumnHints

end SchemaShift
