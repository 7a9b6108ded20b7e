import SchemaShift.Proofs.Catalog.TextDefaults
import SchemaShift.Proofs.Ddl.SqliteHints
import SchemaShift.Proofs.Sql.Carried

/-!
# Columns written again

A rebuild on SQLite reads the columns of a table and writes the definition of each once more. Types
share their physical names, a flag is stored as a number and a length that was left out stands in
the comment, so the column that is read is not the one that was made. Its definition is the same
text all the same, for every column whose default is a literal of its type.

Results:
* `originType_recorded`: the comment of a definition holds all that it is written from.
* `render_definition_congr`: what the text of a definition depends on.
* `Sqlite.exists_rewritten`: a column read back from its row and its hint has the same definition.
-/

namespace SchemaShift

open Sql

/-! ## What a comment keeps -/

namespace Column

/-- The type clause in the comment of a definition. -/
def typeSpec (c : Column) : TypeSpec := { name := c.type.name, args := c.typeArguments }

/-- The column that the comment of a definition tells of. -/
def recorded (c : Column) : Column := c.typeSpec.give c.type { name := c.name, type := .text }

theorem type_recorded (c : Column) : c.recorded.type = c.type := TypeSpec.type_give ..

theorem name_recorded (c : Column) : c.recorded.name = c.name := TypeSpec.name_give ..

theorem isFresh_recorded (c : Column) : c.recorded.IsFresh :=
  TypeSpec.isFresh_give ⟨rfl, rfl, rfl⟩ _ _

theorem unsigned_recorded (c : Column) : c.recorded.unsigned = false := by
  unfold recorded TypeSpec.give
  split <;> rfl

variable {c : Column}

theorem allowed_recorded (h : c.type = .enum) : c.recorded.allowed = c.allowed := by
  rw [recorded, TypeSpec.allowed_give, if_pos h, typeSpec, typeArguments, h]

/-- A number in the comment is read back. -/
theorem number?_typeSpec {i : Nat} {n : Option UInt32}
    (h : c.typeArguments[i]? = n.map (·.toNat.repr)) : c.typeSpec.number? i = n := by
  rw [TypeSpec.number?, typeSpec, h]
  cases n with
  | none => rfl
  | some n => rw [Option.map_some, Option.bind_some, Number.trim_repr, Number.readUInt32?_repr]

theorem stringLength_recorded (h : c.type = .string ∨ c.type = .char) :
    c.recorded.stringLength = c.stringLength := by
  have read : c.typeSpec.number? 0 = some c.stringLength :=
    number?_typeSpec (by rcases h with h | h <;> simp [typeArguments, h])
  have length : c.recorded.length = c.typeSpec.number? 0 := by
    rcases h with h | h <;> rw [recorded, h, TypeSpec.give]
  rw [stringLength, length, read, Option.getD_some]

/-- Where a type has a precision and a scale, they are those in the comment. -/
theorem sizes_recorded (h : c.type = .decimal ∨ c.type = .float ∨ c.type = .double) :
    c.recorded.precision = c.typeSpec.number? 0 ∧ c.recorded.scale = c.typeSpec.number? 1 := by
  rcases h with h | h | h <;> (rw [recorded, h, TypeSpec.give]; exact ⟨rfl, rfl⟩)

theorem decimalSizes_recorded (h : c.type = .decimal) :
    decimalSizes c.recorded = decimalSizes c := by
  have precision : c.typeSpec.number? 0 = some (c.precision.getD defaultPrecision) :=
    number?_typeSpec (by simp [typeArguments, h])
  have scale : c.typeSpec.number? 1 = some (c.scale.getD defaultScale) :=
    number?_typeSpec (by simp [typeArguments, h])
  obtain ⟨readPrecision, readScale⟩ := sizes_recorded (.inl h)
  rw [decimalSizes, readPrecision, readScale, precision, scale]
  rfl

/-- A scale without a precision is not written, and is not read back either. -/
theorem floating_recorded (h : c.type = .float ∨ c.type = .double) (name : String) :
    floating name c.recorded = floating name c := by
  obtain ⟨readPrecision, readScale⟩ := sizes_recorded (.inr h)
  have precision : c.typeSpec.number? 0 = c.precision := by
    apply number?_typeSpec
    rcases h with h | h <;> cases p : c.precision <;> cases s : c.scale <;>
      simp [typeArguments, h, p, s]
  have scale : c.typeSpec.number? 1 = if c.precision.isSome then c.scale else none := by
    apply number?_typeSpec
    rcases h with h | h <;> cases p : c.precision <;> cases s : c.scale <;>
      simp [typeArguments, h, p, s]
  rw [floating, readPrecision, readScale, precision, scale, floating]
  cases c.precision <;> rfl

end Column

/-- The comment of a definition holds all that it is written from. -/
theorem originType_recorded (c : Column) : originType c.recorded = originType c := by
  unfold originType
  rw [c.type_recorded]
  cases kind : c.type with
  | string => rw [Column.stringLength_recorded (.inl kind)]
  | char => rw [Column.stringLength_recorded (.inr kind)]
  | decimal => rw [Column.decimalSizes_recorded kind]
  | float => rw [Column.floating_recorded (.inl kind)]
  | double => rw [Column.floating_recorded (.inr kind)]
  | enum => rw [valued, Column.allowed_recorded kind, valued]
  | _ => rfl

/-! ## What a definition depends on -/

/-- What the text of a definition depends on. -/
theorem render_definition_congr {c c' : Column} (name : c'.name = c.name) (type : c'.type = c.type)
    (origin : originType c' = originType c)
    (allowed : c.type = .enum → c'.allowed = c.allowed) (nullable : c'.nullable = c.nullable)
    (counts : c'.autoIncrement = c.autoIncrement)
    (unsigned : unsignedPart .sqlite c' = unsignedPart .sqlite c)
    (time : currentTimePart c' = currentTimePart c)
    (default : (defaultPart c').map (·.render .sqlite) = (defaultPart c).map (·.render .sqlite)) :
    (definition .sqlite c').render .sqlite = (definition .sqlite c).render .sqlite := by
  have check : valueCheckPart c' = valueCheckPart c := by
    unfold valueCheckPart
    rw [type, name]
    split
    · rename_i enum
      rw [allowed enum]
    · rfl
  have increment : incrementPart c' = incrementPart c := by
    rw [incrementPart, counts, incrementPart]
  have texts : (definition .sqlite c').parts.map (fun p => " " ++ p.render .sqlite) =
      (definition .sqlite c).parts.map (fun p => " " ++ p.render .sqlite) := by
    have last : (defaultPart c').toList.map (fun p => " " ++ p.render .sqlite) =
        (defaultPart c).toList.map (fun p => " " ++ p.render .sqlite) := by
      have spaced (o : Option ColumnPart) : o.toList.map (fun p => " " ++ p.render .sqlite) =
          (o.map (·.render .sqlite)).toList.map (" " ++ ·) := by
        cases o <;> rfl
      rw [spaced, spaced, default]
    simp only [definition, typeParts, modifiers, type, origin, check, time, unsigned,
      nullabilityPart, nullable, increment, List.map_append, last]
  rw [ColumnDefinition.render, ColumnDefinition.render, partsText, partsText, texts,
    name_definition, name_definition, name]

/-! ## Defaults -/

/-- A default that is written as a literal and read back as one: an integer, a flag, or a text
where texts are not read as numbers. -/
def DefaultValue.IsLiteralOf (type : ColumnType) : DefaultValue → Prop
  | .integer _ | .bool _ => True
  | .text _ => type.isNumeric = false
  | .float _ | .raw _ => False

theorem DefaultValue.IsLiteralOf.exists_literalText {type : ColumnType} {v : DefaultValue}
    (h : v.IsLiteralOf type) :
    ∃ w, v.literalText? = some w ∧ (ofLiteral w type).literalText? = some w := by
  have text : ∀ s, v = .text s → type.isNumeric = false := by
    rintro s rfl
    exact h
  have written : ∃ w, v.literalText? = some w := by
    cases v <;> first | exact ⟨_, rfl⟩ | cases h
  obtain ⟨w, written⟩ := written
  exact ⟨w, written, literalText?_ofLiteral written text⟩

theorem DefaultValue.defaultLiteral_of_literalText? {v : DefaultValue} {w : String}
    (h : v.literalText? = some w) : Dialect.sqlite.defaultLiteral v = Text.quoteLiteral w := by
  refine defaultLiteral_sqlite ?_
  cases v <;> first | exact h | cases h

/-! ## Columns before their defaults are read -/

namespace Column

/-- The column that its row and its hint tell of, but for its default. -/
def reread (c : Column) : Column :=
  { c.recorded with
    nullable := c.nullable
    unsigned := (definition .sqlite c).parts.contains .unsigned && c.type.isSignable
    autoIncrement := c.autoIncrement }

/-- It has no default yet. -/
theorem reread_eq (c : Column) :
    { c.reread with useCurrent := false, default := none } = c.reread := by
  have current : c.reread.useCurrent = false := c.isFresh_recorded.2.1
  have default : c.reread.default = none := c.isFresh_recorded.1
  rw [← current, ← default]

variable {c : Column}

theorem contains_unsigned_definition (c : Column) :
    (definition .sqlite c).parts.contains .unsigned =
      (c.unsigned && c.type.isSignable && !c.autoIncrement) := by
  rw [Bool.eq_iff_iff, List.contains_iff_mem, unsigned_mem_definition_iff]
  simp [unsignedPart, and_assoc]

/-- What the comment says of an unsigned column is what its definition is written from. -/
theorem unsignedPart_reread (c : Column) :
    unsignedPart .sqlite c.reread = unsignedPart .sqlite c := by
  simp only [unsignedPart, reread, c.type_recorded, contains_unsigned_definition]
  cases c.unsigned <;> cases c.type.isSignable <;> cases c.autoIncrement <;> rfl

/-- With a default that is written in the same way, the definition is the same text. -/
theorem render_definition_reread {current : Bool} {v : Option DefaultValue}
    (time : (c.type.isTemporal && current) = (c.type.isTemporal && c.useCurrent))
    (default : (defaultPart { c.reread with useCurrent := current, default := v }).map
      (·.render .sqlite) = (defaultPart c).map (·.render .sqlite)) :
    (definition .sqlite { c.reread with useCurrent := current, default := v }).render .sqlite =
      (definition .sqlite c).render .sqlite := by
  refine render_definition_congr c.name_recorded c.type_recorded ?_ allowed_recorded rfl rfl ?_ ?_
    default
  · exact originType_recorded c
  · exact unsignedPart_reread c
  · have type : c.reread.type = c.type := c.type_recorded
    simp only [currentTimePart, type, time]

end Column

namespace Catalog.Sqlite

/-! ## Columns read back -/

/-- What SQLite reports about a column that a definition made, and what is read off the text of the
definition. -/
structure Describes (c : Column) (d : ColumnDefinition) (hints : ColumnHints) (row : Row) :
    Prop where
  name : row.text? "name" = some c.name
  type : row.text? "type" = some ((sqliteType c.type).render .sqlite)
  notNull : row.int? "notnull" = some (if c.nullable then 0 else 1)
  default : row.text? "dflt_value" = d.default?.map (·.render .sqlite)
  hint : hints.find? c.name =
    some { origin := some c.typeSpec, unsigned := d.parts.contains .unsigned,
           autoIncrement := c.autoIncrement }

variable {c : Column} {hints : ColumnHints} {row : Row}

/-- The column that is read: its default, if it has one, is read last. -/
theorem column_eq (valid : c.Valid) (described : Describes c (definition .sqlite c) hints row)
    (table : String) :
    column table hints row = .ok (match carriedDefault? c with
      | none => c.reread
      | some v => readDefault c.reread (v.render .sqlite)) := by
  have carried := default?_definition (fun counts => (valid.1 counts).1) .sqlite
  have known : ColumnType.ofName? c.typeSpec.name = some c.type := ColumnType.ofName?_name c.type
  have name : row.text "name" = c.name := by rw [Row.text, described.name, Option.getD_some]
  have typed (physical : String) (hint : ColumnHint) (h : hint.origin = some c.typeSpec) :
      typed? c.name physical hint = some c.recorded := by
    simp only [typed?, h, TypeSpec.applyLogical?, known, Option.map_some]
    rfl
  have nullable : decide (row.int? "notnull" = some 0) = c.nullable := by
    rw [described.notNull]
    cases c.nullable <;> decide
  unfold column
  simp only [name, described.hint, Option.getD_some]
  rw [typed _ _ rfl]
  simp only [nullable, described.default, carried]
  by_cases counts : c.autoIncrement = true
  · rw [if_pos counts, carriedDefault?, if_pos counts]
    have unsigned : ((definition .sqlite c).parts.contains .unsigned && c.type.isSignable) =
        c.recorded.unsigned := by
      rw [Column.contains_unsigned_definition, counts, c.unsigned_recorded, Bool.not_true,
        Bool.and_false, Bool.false_and]
    simp only [Column.reread, unsigned, counts, (valid.1 counts).2]
  · rw [if_neg counts]
    have still : c.recorded.autoIncrement = c.autoIncrement :=
      c.isFresh_recorded.2.2.trans (eq_false_of_ne_true counts).symm
    simp only [Column.reread, still, c.type_recorded]
    cases carriedDefault? c <;> rfl

theorem readDefault_currentTime {c : Column} (h : c.type.isTemporal = true) :
    readDefault c (DefaultPart.currentTime.render .sqlite) = { c with useCurrent := true } := by
  have upper : Text.asciiUpper (DefaultPart.currentTime.render .sqlite) = "CURRENT_TIMESTAMP" := by
    decide
  simp [readDefault, upper, h]

/-- A column is defined by the text that defines another one. -/
def DefinedAs (c c' : Column) : Prop :=
  ∃ d', define .sqlite c' = .ok d' ∧ d'.render .sqlite = (definition .sqlite c).render .sqlite

/-- Whatever its default is read as, a column can be defined again. -/
theorem definedAs_reread {current : Bool} {v : Option DefaultValue}
    (serial : c.autoIncrement = true → c.type ∈ serials .sqlite)
    (time : (c.type.isTemporal && current) = (c.type.isTemporal && c.useCurrent))
    (default : (defaultPart { c.reread with useCurrent := current, default := v }).map
      (·.render .sqlite) = (defaultPart c).map (·.render .sqlite)) :
    DefinedAs c { c.reread with useCurrent := current, default := v } := by
  refine ⟨_, define_eq_ok_iff.2 ⟨fun counts => ?_, rfl⟩,
    Column.render_definition_reread time default⟩
  show c.recorded.type ∈ serials .sqlite
  rw [c.type_recorded]
  exact serial counts

theorem definedAs_of_silent (serial : c.autoIncrement = true → c.type ∈ serials .sqlite)
    (time : (c.type.isTemporal && c.useCurrent) = false) (silent : defaultPart c = none) :
    DefinedAs c c.reread := by
  rw [← c.reread_eq]
  refine definedAs_reread serial (by simp [time]) ?_
  rw [silent]
  simp [defaultPart]

/-- So it can with the default that its definition carries. -/
theorem definedAs_carried (valid : c.Valid)
    (serial : c.autoIncrement = true → c.type ∈ serials .sqlite)
    (literal : ∀ v ∈ c.default, v.IsLiteralOf c.type) :
    DefinedAs c (match carriedDefault? c with
      | none => c.reread
      | some v => readDefault c.reread (v.render .sqlite)) := by
  have type : c.reread.type = c.type := c.type_recorded
  unfold carriedDefault?
  by_cases counts : c.autoIncrement = true
  · have plain := not_isTemporal_of_isInteger (valid.1 counts).1
    rw [if_pos counts]
    exact definedAs_of_silent serial (by simp [plain]) (by simp [defaultPart, counts])
  rw [if_neg counts]
  by_cases current : c.useCurrent = true
  · have silent : defaultPart c = none := by simp [defaultPart, current]
    rw [if_pos current]
    by_cases temporal : c.type.isTemporal = true
    · rw [if_pos temporal]
      dsimp only
      rw [readDefault_currentTime (by rwa [type])]
      refine definedAs_reread serial (by rw [current]) ?_
      rw [silent]
      simp [defaultPart]
    · rw [if_neg temporal]
      exact definedAs_of_silent serial (by simp [temporal]) silent
  rw [if_neg current]
  cases recorded : c.default with
  | none => exact definedAs_of_silent serial (by simp [current]) (by simp [defaultPart, recorded])
  | some v =>
    obtain ⟨w, written, again⟩ := (literal v recorded).exists_literalText
    rw [← type] at again
    have text : Dialect.sqlite.defaultLiteral v = Text.quoteLiteral w :=
      DefaultValue.defaultLiteral_of_literalText? written
    have text' : Dialect.sqlite.defaultLiteral (.ofLiteral w c.reread.type) = Text.quoteLiteral w :=
      DefaultValue.defaultLiteral_of_literalText? again
    have unset : c.reread.useCurrent = c.useCurrent :=
      c.isFresh_recorded.2.1.trans (eq_false_of_ne_true current).symm
    have still : c.reread.autoIncrement = c.autoIncrement := rfl
    rw [Option.map_some]
    dsimp only [DefaultPart.render]
    rw [text, readDefault_quoteLiteral]
    refine definedAs_reread serial (by rw [unset]) ?_
    simp only [defaultPart, still, unset, counts, current, recorded, Option.map_some,
      ColumnPart.render, DefaultPart.render, text, text', Bool.or_self, Bool.false_eq_true,
      if_false]

/-- A column whose default, if any, is a literal of its type has the same definition when it is
read back from its row and its hint. -/
theorem exists_rewritten {d : ColumnDefinition} (valid : c.check = .ok ())
    (defined : define .sqlite c = .ok d)
    (literal : ∀ v ∈ c.default, v.IsLiteralOf c.type) (described : Describes c d hints row)
    (table : String) :
    ∃ c' d', column table hints row = .ok c' ∧ define .sqlite c' = .ok d' ∧
      d'.render .sqlite = d.render .sqlite := by
  have valid := Column.check_eq_ok_iff.1 valid
  obtain ⟨serial, rfl⟩ := define_eq_ok_iff.1 defined
  exact ⟨_, (definedAs_carried valid serial literal).imp fun _ again =>
    ⟨column_eq valid described table, again⟩⟩

/-- A column whose precision, sign and default are told in other words once it is in a table. -/
def priceColumn : Column :=
  { name := "price", type := .decimal, unsigned := true, default := some (.bool true) }

/-- What SQLite reports about it. -/
def priceRow : Row :=
  .ofPairs
    [("name", .text "price"), ("type", .text "NUMERIC"), ("notnull", .integer 1),
      ("dflt_value", .text "'1'"), ("pk", .integer 0)]

def priceHints : ColumnHints :=
  [("price",
    { origin := some { name := "decimal", args := ["8", "2"] }, unsigned := true })]

/-- The flag comes back as a number and the precision as one that was given, and the definition is
the same text. -/
theorem exists_rewritten_price :
    ∃ d c' d', define .sqlite priceColumn = .ok d ∧
      column "orders" priceHints priceRow = .ok c' ∧ define .sqlite c' = .ok d' ∧
        d'.render .sqlite = d.render .sqlite := by
  have described : Describes priceColumn (definition .sqlite priceColumn) priceHints priceRow :=
    { name := by decide +kernel
      type := by decide +kernel
      notNull := by decide +kernel
      default := by decide +kernel
      hint := by decide +kernel }
  have defined : define .sqlite priceColumn = .ok (definition .sqlite priceColumn) := by
    decide +kernel
  obtain ⟨c', d', read, again, text⟩ := exists_rewritten (c := priceColumn) (by decide +kernel)
    defined (by rintro v ⟨⟩; trivial) described "orders"
  exact ⟨_, c', d', defined, read, again, text⟩

end Catalog.Sqlite

end SchemaShift
