import SchemaShift.Proofs.Ddl.MySqlText
import SchemaShift.Proofs.Ddl.Reading
import SchemaShift.Sql.Definition

/-!
# Reading the columns of MySQL definitions

A MySQL definition keeps some of a column only: a length where the type has none, or a default on
a column that counts up, is not written. `Column.mySqlForm` is what is left. Reading the definition
of a column gives that form, and the form has the same definition.

Results:
* `readColumn_tokens`: the definition of a column is read as its form.
* `render_definition_mySqlForm`: the form of a column has the same definition.
-/

namespace SchemaShift

open Sql

/-! ## What a definition keeps -/

namespace Column

/-- The type of a column and those arguments that its physical type has. -/
def physical (c : Column) : Column :=
  match c.type with
  | .string | .char => { name := c.name, type := c.type, length := some c.stringLength }
  | .decimal =>
    { name := c.name, type := c.type, precision := some (c.precision.getD defaultPrecision),
      scale := some (c.scale.getD defaultScale) }
  | .float | .double =>
    { name := c.name, type := c.type, precision := c.precision,
      scale := c.precision.bind fun _ => c.scale }
  | .enum => { name := c.name, type := c.type, allowed := c.allowed }
  | _ => { name := c.name, type := c.type }

/-- A column is written as unsigned. -/
def writesUnsigned (c : Column) : Bool := (unsignedPart .mySql c).isSome

/-- The literal that is written as the default of a column. -/
def writtenDefault (c : Column) : Option String :=
  if c.autoIncrement || c.useCurrent then none else c.default.bind DefaultValue.literalText?

/-- What the MySQL definition of a column keeps of it. -/
def mySqlForm (c : Column) : Column :=
  { c.physical with
    nullable := c.nullable
    unsigned := c.writesUnsigned
    autoIncrement := c.autoIncrement
    useCurrent := c.type.isTemporal && c.useCurrent
    default := c.writtenDefault.map (.ofLiteral · c.type) }

/-- The default of a column is absent, an integer, a flag, or a text on a column that is not
numeric. -/
def HasPlainDefault (c : Column) : Prop :=
  match c.default with
  | none | some (.integer _) | some (.bool _) => True
  | some (.text _) => c.type.isNumeric = false
  | some (.float _) | some (.raw _) => False

instance (c : Column) : Decidable c.HasPlainDefault := by
  unfold HasPlainDefault; split <;> infer_instance

theorem literalText?_isSome {c : Column} (h : c.HasPlainDefault) {v : DefaultValue}
    (hv : c.default = some v) : v.literalText?.isSome = true := by
  rw [HasPlainDefault, hv] at h
  cases v with
  | float _ => exact h.elim
  | raw _ => exact h.elim
  | _ => rfl

theorem isNumeric_of_text {c : Column} (h : c.HasPlainDefault) {s : String}
    (hs : c.default = some (.text s)) : c.type.isNumeric = false := by
  rw [HasPlainDefault, hs] at h
  exact h

theorem name_physical (c : Column) : c.physical.name = c.name := by
  unfold physical; split <;> rfl

theorem type_physical (c : Column) : c.physical.type = c.type := by
  unfold physical; split <;> rfl

theorem name_mySqlForm (c : Column) : c.mySqlForm.name = c.name := c.name_physical

theorem type_mySqlForm (c : Column) : c.mySqlForm.type = c.type := c.type_physical

theorem modifiers_physical (c : Column) :
    c.physical.nullable = false ∧ c.physical.unsigned = false ∧ c.physical.autoIncrement = false ∧
      c.physical.useCurrent = false ∧ c.physical.default = none ∧ c.physical.change = false ∧
      c.physical.foreign = none := by
  unfold physical
  split <;> exact ⟨rfl, rfl, rfl, rfl, rfl, rfl, rfl⟩

end Column

/-! ## Types -/

namespace TypeSpec

/-- The text of an argument. -/
def argumentText : TypeArgument → String
  | .number n => n.toNat.repr
  | .text s => s

/-- The clause of a physical type. -/
def ofPhysical (t : PhysicalType) (unsigned : Bool) : TypeSpec :=
  { name := Text.asciiLower t.name, args := (t.args.getD []).map argumentText, unsigned }

theorem run_arguments_token (type : String) (a : TypeArgument) (ts : List Token) :
    (arguments type).run (a.token :: ts) =
      ((arguments type).run ts).map fun p => (argumentText a :: p.1, p.2) := by
  cases a with
  | number n => exact run_arguments_number ..
  | text s => exact run_arguments_str ..

/-- The arguments of a type are read up to the closing parenthesis. -/
theorem run_arguments (type : String) (args : List TypeArgument) (rest : List Token) :
    (arguments type).run (argumentTokens args ++ .rightParen :: rest) =
      .ok (args.map argumentText, rest) := by
  rw [argumentTokens]
  induction args with
  | nil => exact run_arguments_rightParen ..
  | cons a args ih =>
    cases args with
    | nil =>
      rw [List.map_singleton, List.intercalate_singleton, List.singleton_append,
        run_arguments_token, run_arguments_rightParen]
      rfl
    | cons b args =>
      rw [List.map_cons] at ih
      rw [List.map_cons, List.map_cons, List.intercalate_cons_cons, List.append_assoc,
        List.append_assoc, List.singleton_append, List.singleton_append, run_arguments_token,
        run_arguments_comma, ih]
      rfl

/-- A type is read with its arguments and with the flags that follow. -/
theorem run_read (t : PhysicalType) {tail rest : List Token} {unsigned : Bool}
    (head : tail.head? ≠ some .leftParen) (flagged : flags.run tail = .ok (unsigned, rest)) :
    read.run (t.tokens ++ tail) = .ok (ofPhysical t unsigned, rest) := by
  have name : ∀ ts, typeName.run (.word t.name :: ts) = .ok (Text.asciiLower t.name, ts) :=
    fun _ => rfl
  rw [read, PhysicalType.tokens, ofPhysical, List.cons_append, Reader.run_bind_of (name _)]
  cases t.args with
  | none =>
    rw [List.nil_append, Reader.run_bind_of (Reader.run_peek tail)]
    simp only
    rw [Reader.run_bind_of (Reader.run_pure _ _), Reader.run_bind_of flagged]
    rfl
  | some args =>
    rw [List.cons_append, List.append_assoc, List.singleton_append,
      Reader.run_bind_of (Reader.run_peek _)]
    simp only [List.head?_cons]
    rw [Reader.run_bind_of (Reader.run_next_cons _ _),
      Reader.run_bind_of (run_arguments _ args tail), Reader.run_bind_of flagged]
    rfl

/-! ## The logical type -/

theorem number?_of_arguments {spec : TypeSpec} (sizes : List UInt32)
    (h : spec.args = sizes.map fun n => n.toNat.repr) (i : Nat) : spec.number? i = sizes[i]? := by
  rw [number?, h, List.getElem?_map]
  cases sizes[i]? with
  | none => rfl
  | some n => rw [Option.map_some, Option.bind_some, Number.trim_repr, Number.readUInt32?_repr]

theorem args_sized (name : String) (sizes : List UInt32) (unsigned : Bool) :
    (ofPhysical (sized name sizes) unsigned).args = sizes.map fun n => n.toNat.repr := by
  simp only [ofPhysical, sized, Option.getD_some, List.map_map]
  rfl

theorem number?_sized (name : String) (sizes : List UInt32) (unsigned : Bool) (i : Nat) :
    (ofPhysical (sized name sizes) unsigned).number? i = sizes[i]? :=
  number?_of_arguments sizes (args_sized ..) i

theorem number?_bare (name : String) (unsigned : Bool) (i : Nat) :
    (ofPhysical (bare name) unsigned).number? i = none :=
  number?_of_arguments [] rfl i

/-- The name of the physical type of MySQL. -/
def mySqlName : ColumnType → String
  | .bigInteger => "BIGINT"
  | .integer => "INT"
  | .mediumInteger => "MEDIUMINT"
  | .smallInteger => "SMALLINT"
  | .tinyInteger | .boolean => "TINYINT"
  | .string => "VARCHAR"
  | .char => "CHAR"
  | .text => "TEXT"
  | .mediumText => "MEDIUMTEXT"
  | .longText => "LONGTEXT"
  | .decimal => "DECIMAL"
  | .float => "FLOAT"
  | .double => "DOUBLE"
  | .enum => "ENUM"
  | .json => "JSON"
  | .date => "DATE"
  | .dateTime => "DATETIME"
  | .timestamp => "TIMESTAMP"
  | .time => "TIME"
  | .binary => "BLOB"

theorem isBareWord_mySqlName (t : ColumnType) : Token.isBareWord (mySqlName t) = true := by
  cases t <;> decide

theorem name_floating (name : String) (c : Column) : (floating name c).name = name := by
  unfold floating
  split <;> rfl

theorem name_mySqlType (c : Column) : (mySqlType c).name = mySqlName c.type := by
  unfold mySqlType
  cases c.type with
  | float => exact name_floating "FLOAT" c
  | double => exact name_floating "DOUBLE" c
  | _ => rfl

/-- The logical type that a lowered name stands for. A first argument tells the booleans from the
small integers. -/
theorem mySqlType?_of_name {spec : TypeSpec} {type : ColumnType}
    (name : spec.name = Text.asciiLower (mySqlName type))
    (tiny : type = .tinyInteger → spec.number? 0 ≠ some 1)
    (flag : type = .boolean → spec.number? 0 = some 1) : spec.mySqlType? = some type := by
  obtain ⟨word, args, unsigned⟩ := spec
  cases name
  cases type with
  | tinyInteger => exact if_neg (tiny rfl)
  | boolean => exact if_pos (flag rfl)
  | _ => rfl

/-- The physical type of a column is read as the logical type it comes from. -/
theorem mySqlType?_ofPhysical (c : Column) (unsigned : Bool) :
    (ofPhysical (mySqlType c) unsigned).mySqlType? = some c.type := by
  apply mySqlType?_of_name
  · rw [← name_mySqlType]
    rfl
  · intro h
    have size := number?_bare "TINYINT" unsigned 0
    rw [mySqlType, h, size]
    simp
  · intro h
    rw [mySqlType, h]
    exact number?_sized "TINYINT" [1] unsigned 0

theorem number?_floating (name : String) (c : Column) (unsigned : Bool) :
    (ofPhysical (floating name c) unsigned).number? 0 = c.precision ∧
      (ofPhysical (floating name c) unsigned).number? 1 = c.precision.bind fun _ => c.scale := by
  unfold floating
  split
  · rename_i p s precision scale
    rw [number?_sized, number?_sized, precision, scale]
    exact ⟨rfl, rfl⟩
  · rename_i p precision scale
    rw [number?_sized, number?_sized, precision, scale]
    exact ⟨rfl, rfl⟩
  · rename_i precision
    rw [number?_bare, number?_bare, precision]
    exact ⟨rfl, rfl⟩

theorem args_valued (name : String) (c : Column) (unsigned : Bool) :
    (ofPhysical (valued name c) unsigned).args = c.allowed := by
  simp only [ofPhysical, valued, Option.getD_some, List.map_map]
  exact List.map_id c.allowed

theorem writesUnsigned_eq (c : Column) :
    c.writesUnsigned = (c.unsigned && c.type.isSignable && !c.autoIncrement) := by
  rw [Column.writesUnsigned, unsignedPart]
  cases c.unsigned <;> cases c.type.isSignable <;> cases c.autoIncrement <;> rfl

/-- The physical type of a column gives a new column the logical type, its arguments and the
flag. -/
theorem applyMySql?_ofPhysical (c : Column) :
    (ofPhysical (mySqlType c) c.writesUnsigned).applyMySql? { name := c.name, type := .text } =
      some { c.physical with unsigned := c.writesUnsigned } := by
  have flag : (c.writesUnsigned && c.type.isSignable) = c.writesUnsigned := by
    rw [writesUnsigned_eq]
    cases c.type.isSignable <;> simp
  have unsigned : (ofPhysical (mySqlType c) c.writesUnsigned).unsigned = c.writesUnsigned := rfl
  rw [applyMySql?, mySqlType?_ofPhysical, Option.map_some, unsigned, flag]
  generalize c.writesUnsigned = u
  unfold Column.physical mySqlType
  cases c.type with
  | string | char | decimal =>
    simp only [give, number?_sized]
    rfl
  | float | double =>
    simp only [give, number?_floating]
  | enum =>
    simp only [give, args_valued]
  | _ => rfl

end TypeSpec

/-! ## Options -/

namespace Sql

/-- A clause that is read as options of a column. -/
def ColumnPart.IsOption : ColumnPart → Prop
  | nullability _ | default .currentTime | increment => True
  | default (.value v) => v.literalText?.isSome
  | type _ | origin _ | valueCheck _ _ | unsigned => False

/-- The options that a clause is read as. -/
def ColumnPart.options : ColumnPart → List Ddl.ColumnOption
  | nullability true => [.null]
  | nullability false => [.notNull]
  | default .currentTime => [.default .now]
  | default (.value v) => (v.literalText?.map fun w => .default (.literal w)).toList
  | increment => [.autoIncrement, .primaryKey]
  | type _ | origin _ | valueCheck _ _ | unsigned => []

theorem ColumnPart.IsOption.isPlain {p : ColumnPart} (h : p.IsOption) : p.IsPlain := by
  cases p with
  | nullability _ => trivial
  | default value =>
    cases value with
    | currentTime => trivial
    | value v => exact h
  | increment => trivial
  | _ => cases h

theorem ColumnPart.IsOption.exists_tokens {p : ColumnPart} (h : p.IsOption) :
    ∃ w ts, p.tokens = .word w :: ts := by
  cases p with
  | nullability nullable => cases nullable <;> exact ⟨_, _, rfl⟩
  | default value => cases value <;> exact ⟨_, _, rfl⟩
  | increment => exact ⟨_, _, rfl⟩
  | _ => cases h

theorem head?_partsTokens {parts : List ColumnPart} (h : ∀ p ∈ parts, p.IsOption) :
    (partsTokens parts).head? ≠ some .leftParen := by
  cases parts with
  | nil => simp [partsTokens]
  | cons p parts =>
    obtain ⟨w, ts, tokens⟩ := (h p (by simp)).exists_tokens
    rw [partsTokens_cons, tokens]
    simp

end Sql

namespace Ddl

/-- A clause is read as its options. -/
theorem readOptions_part {context : String} {p : ColumnPart} (h : p.IsOption) {ts : List Token}
    (head : ts.head? ≠ some .leftParen) :
    readOptions context (p.tokens ++ ts) = (readOptions context ts).map (p.options ++ ·) := by
  cases p with
  | nullability nullable =>
    cases nullable with
    | true =>
      have read : (readOption context (.word "NULL")).run ts = .ok (.null, ts) := by
        rw [readOption_null, Reader.run_pure]
      exact readOptions_cons read
    | false =>
      have read : (readOption context (.word "NOT")).run (.word "NULL" :: ts) =
          .ok (.notNull, ts) := by
        rw [readOption_not, Reader.run_bind_of (Reader.run_expectKeyword (by decide) ts)]
        rfl
      exact readOptions_cons read
  | default value =>
    cases value with
    | currentTime =>
      have read : (readOption context (.word "DEFAULT")).run (.word "CURRENT_TIMESTAMP" :: ts) =
          .ok (.default .now, ts) := by
        rw [readOption_default, Reader.run_bind_of (run_readDefault_now head)]
        rfl
      exact readOptions_cons read
    | value v =>
      obtain ⟨w, hw⟩ := Option.isSome_iff_exists.1 (show v.literalText?.isSome from h)
      have read : (readOption context (.word "DEFAULT")).run (.str w :: ts) =
          .ok (.default (.literal w), ts) := by
        rw [readOption_default, Reader.run_bind_of (run_readDefault_str context w ts)]
        rfl
      rw [ColumnPart.tokens, ColumnPart.options, hw]
      exact readOptions_cons read
  | increment =>
    have first : (readOption context (.word "AUTO_INCREMENT")).run
        (.word "PRIMARY" :: .word "KEY" :: ts) =
          .ok (.autoIncrement, .word "PRIMARY" :: .word "KEY" :: ts) := by
      rw [readOption_autoIncrement, Reader.run_pure]
    have second : (readOption context (.word "PRIMARY")).run (.word "KEY" :: ts) =
        .ok (.primaryKey, ts) := by
      rw [readOption_primary, Reader.run_bind_of (Reader.run_expectKeyword (by decide) ts)]
      rfl
    show readOptions context (.word "AUTO_INCREMENT" :: .word "PRIMARY" :: .word "KEY" :: ts) = _
    rw [readOptions_cons first, readOptions_cons second]
    cases readOptions context ts <;> rfl
  | _ => cases h

/-- A run of clauses is read as their options. -/
theorem readOptions_parts (context : String) {parts : List ColumnPart}
    (h : ∀ p ∈ parts, p.IsOption) :
    readOptions context (partsTokens parts) = .ok (parts.flatMap ColumnPart.options) := by
  induction parts with
  | nil => exact readOptions_nil context
  | cons p parts ih =>
    have others := fun q hq => h q (List.mem_cons_of_mem p hq)
    rw [partsTokens_cons, readOptions_part (h p (by simp)) (head?_partsTokens others), ih others]
    rfl

end Ddl

/-! ## Definitions -/

section Parts

variable {d : Dialect} {c : Column} {p : ColumnPart}

theorem eq_of_mem_currentTimePart (h : p ∈ currentTimePart c) : p = .default .currentTime := by
  unfold currentTimePart at h
  split at h
  · exact List.mem_singleton.1 h
  · cases h

theorem eq_of_mem_unsignedPart (h : p ∈ unsignedPart d c) : p = .unsigned := by
  unfold unsignedPart at h
  split at h <;> cases h
  rfl

theorem eq_of_mem_incrementPart (h : p ∈ incrementPart c) : p = .increment := by
  unfold incrementPart at h
  split at h <;> cases h
  rfl

/-- A default is written for a column that neither counts up nor uses the current time. -/
theorem exists_of_mem_defaultPart (h : p ∈ defaultPart c) :
    (c.autoIncrement || c.useCurrent) = false ∧
      ∃ v, c.default = some v ∧ p = .default (.value v) := by
  unfold defaultPart at h
  split at h
  · cases h
  · rename_i written
    obtain ⟨v, hv, rfl⟩ := Option.map_eq_some_iff.1 h
    exact ⟨Bool.eq_false_iff.2 written, v, hv, rfl⟩

end Parts

/-- Columns that can be defined one by one can be defined together. -/
theorem Sql.defineAll_of_forall {d : Dialect} {cs : List Column}
    (h : ∀ c ∈ cs, ∃ r, define d c = .ok r) : defineAll d cs = .ok (cs.map (definition d)) := by
  induction cs with
  | nil => rfl
  | cons c cs ih =>
    obtain ⟨r, hr⟩ := h c (by simp)
    obtain ⟨-, rfl⟩ := define_eq_ok_iff.1 hr
    rw [defineAll, hr]
    simp only
    rw [ih fun d hd => h d (by simp [hd])]
    rfl

namespace Column

/-- The clauses of the definition of a column that are read as options. -/
def optionParts (c : Column) : List ColumnPart :=
  currentTimePart c ++ [nullabilityPart c] ++ (defaultPart c).toList ++ (incrementPart c).toList

/-- Types that default to the current time are never unsigned, so that the flag stands right
after the type. -/
theorem parts_definition (c : Column) :
    (definition .mySql c).parts =
      .type (mySqlType c) :: ((unsignedPart .mySql c).toList ++ c.optionParts) := by
  have apart : currentTimePart c ++ (unsignedPart .mySql c).toList =
      (unsignedPart .mySql c).toList ++ currentTimePart c := by
    unfold currentTimePart
    cases temporal : c.type.isTemporal with
    | false => simp
    | true =>
      have unsigned : unsignedPart .mySql c = none := by
        have signable : c.type.isSignable = false := by
          cases h : c.type <;> simp [h, ColumnType.isTemporal] at temporal <;> rfl
        rw [unsignedPart, signable]
        simp
      rw [unsigned]
      simp
  show typeParts .mySql c ++ modifiers .mySql c = _
  simp only [typeParts, modifiers, optionParts, List.cons_append, ← List.append_assoc, apart]

theorem isOption_optionParts {c : Column} (h : c.HasPlainDefault) :
    ∀ p ∈ c.optionParts, p.IsOption := by
  intro p hp
  simp only [optionParts, List.mem_append, List.mem_singleton, Option.mem_toList] at hp
  rcases hp with ((time | rfl) | default) | increment
  · cases eq_of_mem_currentTimePart time
    trivial
  · trivial
  · obtain ⟨-, v, hv, rfl⟩ := exists_of_mem_defaultPart default
    exact literalText?_isSome h hv
  · cases eq_of_mem_incrementPart increment
    trivial

theorem isPlain_definition {c : Column} (h : c.HasPlainDefault) :
    ∀ p ∈ (definition .mySql c).parts, p.IsPlain := by
  rw [parts_definition]
  intro p hp
  simp only [List.mem_cons, List.mem_append] at hp
  rcases hp with rfl | unsigned | option
  · show Token.isBareWord (mySqlType c).name = true
    rw [TypeSpec.name_mySqlType]
    exact TypeSpec.isBareWord_mySqlName c.type
  · cases eq_of_mem_unsignedPart (Option.mem_toList.1 unsigned)
    trivial
  · exact (isOption_optionParts h p option).isPlain

/-- What follows the type and its flag starts with a keyword that is no flag. -/
theorem exists_partsTokens_optionParts (c : Column) :
    ∃ w ts, partsTokens c.optionParts = .word w :: ts ∧ TypeSpec.endsFlags (.word w) := by
  rw [optionParts, List.append_assoc, List.append_assoc, partsTokens_append, currentTimePart]
  split
  · exact ⟨"DEFAULT", _, rfl, by decide, by decide⟩
  · rw [partsTokens_append, nullabilityPart]
    generalize partsTokens ((defaultPart c).toList ++ (incrementPart c).toList) = others
    cases c.nullable with
    | true => exact ⟨"NULL", others, rfl, by decide, by decide⟩
    | false => exact ⟨"NOT", .word "NULL" :: others, rfl, by decide, by decide⟩

theorem run_flags_definition (c : Column) :
    TypeSpec.flags.run (partsTokens ((unsignedPart .mySql c).toList ++ c.optionParts)) =
      .ok (c.writesUnsigned, partsTokens c.optionParts) := by
  obtain ⟨w, ts, tokens, ends⟩ := c.exists_partsTokens_optionParts
  rw [partsTokens_append, tokens, writesUnsigned]
  cases h : unsignedPart .mySql c with
  | none => exact TypeSpec.run_flags_of_not ends ts
  | some p =>
    cases eq_of_mem_unsignedPart h
    show TypeSpec.flags.run (.word "UNSIGNED" :: .word w :: ts) = _
    rw [TypeSpec.run_flags_unsigned, TypeSpec.run_flags_of_not ends]
    rfl

/-- The clause that the definition of a column is read as. -/
def mySqlClause (c : Column) : Ddl.ColumnClause :=
  { column := { c.physical with unsigned := c.writesUnsigned }
    options := c.optionParts.flatMap ColumnPart.options }

theorem options_optionParts (c : Column) :
    c.mySqlClause.options =
      (if c.type.isTemporal && c.useCurrent then [.default .now] else []) ++
        [if c.nullable then .null else .notNull] ++
          (c.writtenDefault.map fun w => .default (.literal w)).toList ++
            (if c.autoIncrement then [.autoIncrement, .primaryKey] else []) := by
  have time : (currentTimePart c).flatMap ColumnPart.options =
      if c.type.isTemporal && c.useCurrent then [.default .now] else [] := by
    unfold currentTimePart
    split <;> rfl
  have null : [nullabilityPart c].flatMap ColumnPart.options =
      [if c.nullable then .null else .notNull] := by
    unfold nullabilityPart
    cases c.nullable <;> rfl
  have default : (defaultPart c).toList.flatMap ColumnPart.options =
      (c.writtenDefault.map fun w => .default (.literal w)).toList := by
    unfold defaultPart writtenDefault
    split
    · rfl
    · cases c.default with
      | none => rfl
      | some v => simp [ColumnPart.options]
  have increment : (incrementPart c).toList.flatMap ColumnPart.options =
      if c.autoIncrement then [.autoIncrement, .primaryKey] else [] := by
    unfold incrementPart
    split <;> rfl
  rw [mySqlClause, optionParts]
  simp only [List.flatMap_append, time, null, default, increment]

/-- The options of a definition turn the type and its arguments into the form of the column. -/
theorem described_mySqlClause {c : Column} (h : c.Valid) :
    c.mySqlClause.described = c.mySqlForm := by
  have counts : c.autoIncrement = true → c.nullable = false := fun on => (h.1 on).2
  have time : (c.type.isTemporal && c.useCurrent) = true → c.physical.type.isTemporal = true := by
    rw [c.type_physical, Bool.and_eq_true]
    exact And.left
  obtain ⟨-, -, autoIncrement, useCurrent, default, -, -⟩ := c.modifiers_physical
  rw [Ddl.ColumnClause.described, options_optionParts, mySqlForm, mySqlClause]
  generalize (c.type.isTemporal && c.useCurrent) = now at *
  generalize c.writtenDefault = literal
  generalize c.writesUnsigned = unsigned
  rw [← c.type_physical]
  -- What is left depends on the physical column, the flags and the literal alone.
  generalize c.physical = p at *
  generalize c.nullable = nullable at *
  generalize c.autoIncrement = counting at *
  cases p
  cases autoIncrement
  cases useCurrent
  cases default
  cases nullable <;> cases now <;> cases literal <;> cases counting <;>
    simp_all [Ddl.ColumnClause.apply, Ddl.ColumnClause.applyDefault]

/-! ## The definition of the form -/

theorem change_mySqlForm (c : Column) : c.mySqlForm.change = false :=
  c.modifiers_physical.2.2.2.2.2.1

theorem allowed_mySqlForm {c : Column} (h : c.type = .enum) : c.mySqlForm.allowed = c.allowed := by
  show c.physical.allowed = c.allowed
  rw [physical, h]

theorem valid_mySqlForm {c : Column} (h : c.Valid) : c.mySqlForm.Valid := by
  constructor
  · intro counts
    rw [type_mySqlForm]
    exact h.1 counts
  · intro enum
    rw [type_mySqlForm] at enum
    rw [allowed_mySqlForm enum]
    exact h.2 enum

theorem mySqlType_mySqlForm (c : Column) : mySqlType c.mySqlForm = mySqlType c := by
  have same : mySqlType c.mySqlForm = mySqlType c.physical := rfl
  rw [same]
  unfold mySqlType physical
  cases h : c.type with
  | float | double =>
    simp only [floating]
    cases c.precision <;> rfl
  | _ => rfl

theorem unsignedPart_mySqlForm (c : Column) :
    unsignedPart .mySql c.mySqlForm = unsignedPart .mySql c := by
  have unsigned : c.mySqlForm.unsigned = c.writesUnsigned := rfl
  have increment : c.mySqlForm.autoIncrement = c.autoIncrement := rfl
  rw [unsignedPart, unsignedPart, c.type_mySqlForm, unsigned, increment,
    TypeSpec.writesUnsigned_eq]
  cases c.unsigned <;> cases c.type.isSignable <;> cases c.autoIncrement <;> rfl

theorem currentTimePart_mySqlForm (c : Column) :
    currentTimePart c.mySqlForm = currentTimePart c := by
  have current : c.mySqlForm.useCurrent = (c.type.isTemporal && c.useCurrent) := rfl
  rw [currentTimePart, currentTimePart, c.type_mySqlForm, current]
  cases c.type.isTemporal <;> rfl

/-- The default of the form is another value, but with the same literal. -/
theorem render_defaultPart_mySqlForm {c : Column} (h : c.HasPlainDefault) :
    (defaultPart c.mySqlForm).map (·.render .mySql) = (defaultPart c).map (·.render .mySql) := by
  have current : c.mySqlForm.useCurrent = (c.type.isTemporal && c.useCurrent) := rfl
  have increment : c.mySqlForm.autoIncrement = c.autoIncrement := rfl
  have default : c.mySqlForm.default = c.writtenDefault.map (.ofLiteral · c.type) := rfl
  rw [defaultPart, defaultPart, current, increment, default, writtenDefault]
  cases written : c.autoIncrement || c.useCurrent with
  | true => simp
  | false =>
    rw [Bool.or_eq_false_iff] at written
    simp only [written.1, written.2, Bool.and_false, Bool.or_self, Bool.false_eq_true, if_false]
    cases hv : c.default with
    | none => rfl
    | some v =>
      obtain ⟨w, hw⟩ := Option.isSome_iff_exists.1 (literalText?_isSome h hv)
      have text : ∀ s, v = .text s → c.type.isNumeric = false := by
        rintro s rfl
        exact isNumeric_of_text h hv
      have same := DefaultValue.literalText?_ofLiteral hw text
      simp only [Option.bind_some, hw, Option.map_some, ColumnPart.render, DefaultPart.render,
        DefaultValue.defaultLiteral_mySql hw, DefaultValue.defaultLiteral_mySql same]

/-- The form of a column has the same definition. -/
theorem render_definition_mySqlForm {c : Column} (h : c.HasPlainDefault) :
    (definition .mySql c.mySqlForm).render .mySql = (definition .mySql c).render .mySql := by
  have default := congrArg Option.toList (render_defaultPart_mySqlForm h)
  have null : nullabilityPart c.mySqlForm = nullabilityPart c := rfl
  have increment : incrementPart c.mySqlForm = incrementPart c := rfl
  have parts : (definition .mySql c.mySqlForm).parts.map (·.render .mySql) =
      (definition .mySql c).parts.map (·.render .mySql) := by
    rw [Option.toList_map, Option.toList_map] at default
    simp only [parts_definition, optionParts, List.map_cons, List.map_append, default,
      mySqlType_mySqlForm, unsignedPart_mySqlForm, currentTimePart_mySqlForm, null, increment]
  have name : (definition .mySql c.mySqlForm).name = (definition .mySql c).name :=
    c.name_mySqlForm
  have texts : ∀ ps : List ColumnPart, partsText .mySql ps =
      String.join ((ps.map (·.render .mySql)).map (" " ++ ·)) := by
    intro ps
    rw [List.map_map]
    rfl
  rw [ColumnDefinition.render, ColumnDefinition.render, name, texts, parts, ← texts]

end Column

namespace Ddl

/-- The definition of a column is read as its type and its options. -/
theorem readColumn_tokens {c : Column} (h : c.HasPlainDefault) (table context : String) :
    readColumn table context (definition .mySql c).tokens = .ok c.mySqlClause := by
  have head : (partsTokens ((unsignedPart .mySql c).toList ++ c.optionParts)).head? ≠
      some .leftParen := by
    unfold unsignedPart
    split
    · simp [partsTokens, ColumnPart.tokens]
    · exact head?_partsTokens (Column.isOption_optionParts h)
  have name : (Reader.name context).run (.ident c.name :: partsTokens (definition .mySql c).parts) =
      .ok (c.name, partsTokens (definition .mySql c).parts) := Reader.run_name_cons rfl _
  have type := TypeSpec.run_read (mySqlType c) head c.run_flags_definition
  have options := readOptions_parts context (Column.isOption_optionParts h)
  rw [readColumn, ColumnDefinition.tokens]
  show ((Reader.name context).run (.ident c.name :: partsTokens _)).bind _ = _
  rw [name]
  simp only [Except.bind]
  rw [Column.parts_definition, partsTokens_cons]
  show ((TypeSpec.read.run ((mySqlType c).tokens ++ _)).bind _) = _
  rw [type]
  simp only [Except.bind]
  rw [TypeSpec.applyMySql?_ofPhysical]
  simp only
  rw [options]
  rfl

end Ddl

end SchemaShift
