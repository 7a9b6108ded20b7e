import SchemaShift.Proofs.Ddl.Literals
import SchemaShift.Proofs.Ddl.MySqlText
import SchemaShift.Sql.Definition

/-!
# The tokens of SQLite definitions

What a column definition and a table definition of SQLite are read as, token by token. The values
and the text default of a column stand between standard quotes, and the values once more in the
comment that carries the logical type. Where they neither take a closing quote nor end the comment
(`KeepsBounds`), the text of a definition lexes to its tokens, whatever the names in it are.

Results:
* `PhysicalType.lexes_origin`: the text in a comment is that of a type with its escapes undone.
* `ColumnPart.lexes_sqlite`, `ColumnDefinition.lexes_sqlite`, `TableConstraint.lexes_sqlite`: the
  text of a clause, of a definition and of a constraint lexes to its tokens.
* `lexes_createTable_sqlite`: so does the statement that makes a table.
-/

namespace SchemaShift.Sql

open Text (ClosesLiteral StaysInComment unescapedText)
open Token (Lexes Nested lexes_words lexes_word lexes_literal follows_cons)

/-! ## Types in comments -/

/-- An argument as it is read back. -/
def TypeArgument.unescaped : TypeArgument → TypeArgument
  | number n => number n
  | text s => text (unescapedText s)

/-- A type as it is read back. -/
def PhysicalType.unescaped (t : PhysicalType) : PhysicalType :=
  { t with args := t.args.map (·.map TypeArgument.unescaped) }

/-- An argument ends neither its literal nor the comment around it. -/
def TypeArgument.KeepsBounds : TypeArgument → Prop
  | number _ => True
  | text s => ClosesLiteral s.toList ∧ StaysInComment s.toList

/-- A type that a comment can carry: it has the name of a logical type. -/
structure PhysicalType.IsOrigin (t : PhysicalType) : Prop where
  named : ∃ type : ColumnType, t.name = type.name
  bounds : ∀ args ∈ t.args, ∀ a ∈ args, a.KeepsBounds

theorem isBareWord_name (type : ColumnType) : Token.isBareWord type.name = true := by
  cases type <;> decide

/-- The text that a comment carries. -/
def PhysicalType.originText (t : PhysicalType) : String := t.renderWith "," .sqlite

theorem TypeArgument.lexes_sqlite {a : TypeArgument} (h : a.KeepsBounds) :
    Lexes (a.render .sqlite).toList [a.unescaped.token] := by
  cases a with
  | number n => exact Token.lexes_number (Number.isDigits_repr n.toNat)
  | text s => exact lexes_literal h.1

theorem toList_originText_of_args {t : PhysicalType} {args : List TypeArgument}
    (h : t.args = some args) :
    t.originText.toList = t.name.toList ++
      '(' :: ((",".intercalate (args.map (·.render .sqlite))).toList ++ [')']) := by
  rw [PhysicalType.originText, PhysicalType.renderWith, h]
  simp

/-- The text in a comment is that of a type with its escapes undone. -/
theorem PhysicalType.lexes_origin {t : PhysicalType} (h : t.IsOrigin) :
    Lexes t.originText.toList t.unescaped.tokens := by
  obtain ⟨⟨type, named⟩, bounds⟩ := h
  have name : Lexes t.name.toList [.word t.name] := lexes_word (by rw [named, isBareWord_name])
  rw [tokens, unescaped]
  cases ha : t.args with
  | none =>
    rw [originText, renderWith, ha]
    exact name
  | some args =>
    have inside : Lexes (",".intercalate (args.map (·.render .sqlite))).toList
        (argumentTokens (args.map TypeArgument.unescaped)) := by
      rw [argumentTokens, List.map_map]
      exact Token.lexes_intercalate_of "," (fun others => others.punctuation rfl)
        (fun _ => follows_cons rfl _) fun a mem => TypeArgument.lexes_sqlite (bounds args ha a mem)
    have close : Lexes [')'] [.rightParen] := Token.lexes_nil.punctuation rfl
    have group := (inside.append close (follows_cons rfl _)).punctuation (c := '(') rfl
    rw [toList_originText_of_args ha]
    exact name.append group (follows_cons rfl _)

/-! ## Comments -/

theorem staysInComment_intercalate {texts : List String}
    (h : ∀ t ∈ texts, StaysInComment t.toList) :
    StaysInComment (",".intercalate texts).toList := by
  rw [String.toList_intercalate]
  induction texts with
  | nil => exact Text.staysInComment_of_not_mem (by simp)
  | cons t texts ih =>
    have first := h t (by simp)
    have others := ih fun u hu => h u (by simp [hu])
    by_cases last : texts = []
    · subst last
      simpa using first
    · rw [List.map_cons, List.intercalate_cons_of_ne_nil (by simpa using last), List.append_assoc]
      exact first.append (others.cons_of_ne (c := ',') (by decide)) (by simp)

theorem staysInComment_quoteLiteral {s : String} (h : StaysInComment s.toList) :
    StaysInComment (Text.quoteLiteral s).toList := by
  rw [Text.quoteLiteral, Token.toList_quoted, Text.singleQuote]
  have close : StaysInComment ['\''] := Text.staysInComment_of_not_mem (by simp)
  exact ((Text.staysInComment_doubled h).append close (by simp)).cons_of_ne (by decide)

theorem TypeArgument.staysInComment {a : TypeArgument} (h : a.KeepsBounds) :
    StaysInComment (a.render .sqlite).toList := by
  cases a with
  | number n =>
    exact Text.staysInComment_of_not_mem fun mem => by
      have digit : '*'.isDigit = true := Number.isDigit_of_mem_repr (n := n.toNat) mem
      cases digit
  | text s => exact staysInComment_quoteLiteral h.2

/-- The name of a logical type opens with none of these characters, and nothing is trimmed off
it. -/
theorem name_bounds (type : ColumnType) :
    '*' ∉ type.name.toList ∧
      (∀ c ∈ type.name.toList.head?, Text.isBlank c = false ∧ c.toLower ≠ 'u') ∧
      (∀ c ∈ type.name.toList.getLast?, Text.isBlank c = false) := by
  have first : (type.name.toList.head?.all fun c => !Text.isBlank c && c.toLower != 'u') =
      true := by cases type <;> decide
  have last : (type.name.toList.getLast?.all fun c => !Text.isBlank c) = true := by
    cases type <;> decide
  refine ⟨by cases type <;> decide, ?_, ?_⟩
  · simpa [Option.all_eq_true] using first
  · simpa [Option.all_eq_true] using last

namespace PhysicalType.IsOrigin

variable {t : PhysicalType}

/-- The text in a comment holds no end of the comment. -/
theorem staysInComment (h : t.IsOrigin) : StaysInComment t.originText.toList := by
  obtain ⟨⟨type, named⟩, bounds⟩ := h
  have name : StaysInComment t.name.toList := by
    rw [named]
    exact Text.staysInComment_of_not_mem (name_bounds type).1
  cases ha : t.args with
  | none =>
    rw [originText, renderWith, ha]
    exact name
  | some args =>
    have inside : StaysInComment (",".intercalate (args.map (·.render .sqlite))).toList := by
      apply staysInComment_intercalate
      intro text mem
      obtain ⟨a, given, rfl⟩ := List.mem_map.1 mem
      exact TypeArgument.staysInComment (bounds args ha a given)
    have close : StaysInComment [')'] := Text.staysInComment_of_not_mem (by simp)
    rw [toList_originText_of_args ha]
    exact name.append ((inside.append close (by simp)).cons_of_ne (by decide)) (by simp)

theorem head?_originText (h : t.IsOrigin) : ∃ type : ColumnType,
    t.originText.toList.head? = type.name.toList.head? := by
  obtain ⟨⟨type, named⟩, -⟩ := h
  refine ⟨type, ?_⟩
  cases ha : t.args with
  | none => rw [originText, renderWith, ha, named]
  | some args =>
    rw [toList_originText_of_args ha, named]
    cases type <;> rfl

/-- Nothing is trimmed off the text in a comment. -/
theorem trimChars_originText (h : t.IsOrigin) :
    Text.trimChars t.originText.toList = t.originText.toList := by
  apply Text.trimChars_of_ends
  · obtain ⟨type, head⟩ := h.head?_originText
    intro c mem
    rw [head] at mem
    exact ((name_bounds type).2.1 c mem).1
  · obtain ⟨⟨type, named⟩, -⟩ := h
    cases ha : t.args with
    | none =>
      rw [originText, renderWith, ha, named]
      exact (name_bounds type).2.2
    | some args =>
      rw [toList_originText_of_args ha, ← List.cons_append, ← List.append_assoc,
        List.getLast?_concat]
      rintro _ ⟨⟩
      decide

/-- No logical type is called `unsigned`. -/
theorem not_sameWord_unsigned (h : t.IsOrigin) :
    Text.sameWord t.originText "unsigned" = false := by
  obtain ⟨type, head⟩ := h.head?_originText
  rw [Bool.eq_false_iff]
  intro same
  have letters := congrArg (fun s => s.toList.head?) (Text.sameWord_iff.1 same)
  simp only [Text.asciiLower_toList, List.head?_map, head] at letters
  obtain ⟨c, mem, lower⟩ := Option.map_eq_some_iff.1 letters
  exact ((name_bounds type).2.1 c mem).2 lower

end PhysicalType.IsOrigin

/-! ## Clauses -/

/-- The tokens of values between the parentheses of a check. -/
def valueTokens (values : List String) : List Token :=
  [Token.comma].intercalate (values.map fun v => [.str (unescapedText v)])

/-- A clause of SQLite definitions whose texts end where they were written to end. -/
def ColumnPart.KeepsBounds : ColumnPart → Prop
  | type t => ∃ kind, t = sqliteType kind
  | origin t => t.IsOrigin
  | valueCheck _ allowed => ∀ v ∈ allowed, ClosesLiteral v.toList
  | default (.value v) => ∃ w, v.sqliteText? = some w ∧ ClosesLiteral w.toList
  | unsigned | nullability _ | default .currentTime | increment => True

/-- The tokens of a clause of SQLite definitions. -/
def ColumnPart.sqliteTokens : ColumnPart → List Token
  | type t => [.word t.name]
  | origin t => [.comment t.originText]
  | valueCheck column allowed =>
    [.word "CHECK", .leftParen, .ident column, .word "IN", .leftParen] ++
      (valueTokens allowed ++ [.rightParen, .rightParen])
  | unsigned => [.comment "unsigned"]
  | nullability true => [.word "NULL"]
  | nullability false => [.word "NOT", .word "NULL"]
  | default .currentTime => [.word "DEFAULT", .word "CURRENT_TIMESTAMP"]
  | default (.value v) =>
    .word "DEFAULT" :: (v.sqliteText?.map fun w => Token.str (unescapedText w)).toList
  | increment => [.word "PRIMARY", .word "KEY", .word "AUTOINCREMENT"]

/-- The logical type travels in a comment. -/
theorem lexes_origin_comment {t : PhysicalType} (h : t.IsOrigin) :
    Lexes ((ColumnPart.origin t).render .sqlite).toList [.comment t.originText] := by
  have text : ((ColumnPart.origin t).render .sqlite).toList =
      '/' :: '*' :: (t.originText.toList ++ ['*', '/']) := by
    rw [ColumnPart.render, String.toList_append, String.toList_append]
    rfl
  have token := Token.lexes_comment _ h.staysInComment
  rw [h.trimChars_originText, String.ofList_toList] at token
  rw [text]
  exact token

/-- The check on values names its column and holds the values as literals. -/
theorem lexes_valueCheck {column : String} {allowed : List String}
    (h : ∀ v ∈ allowed, ClosesLiteral v.toList) :
    Lexes ((ColumnPart.valueCheck column allowed).render .sqlite).toList
      (ColumnPart.valueCheck column allowed).sqliteTokens := by
  have values : Lexes _ (valueTokens allowed) :=
    Token.lexes_intercalate fun v mem => lexes_literal (h v mem)
  have close : Lexes [')', ')'] [.rightParen, .rightParen] :=
    (Token.lexes_nil.punctuation rfl).punctuation rfl
  have group := (values.append close (follows_cons rfl _)).punctuation (c := '(') rfl
  have word := ((lexes_word (w := "IN") (by decide)).append group.blank (follows_cons rfl _)).blank
  have name := ((lexes_wrap .sqlite column).append word (follows_cons rfl _)).punctuation
    (c := '(') rfl
  have whole := (lexes_word (w := "CHECK") (by decide)).append name.blank (follows_cons rfl _)
  have head : "CHECK (".toList = "CHECK".toList ++ [' ', '('] := rfl
  have middle : " IN (".toList = ' ' :: ("IN".toList ++ [' ', '(']) := rfl
  have right : "))".toList = [')', ')'] := rfl
  rw [ColumnPart.render, valueCheckText]
  simp only [String.toList_append, head, middle, right, List.append_assoc, List.cons_append,
    List.nil_append]
  exact whole

theorem ColumnPart.lexes_sqlite {p : ColumnPart} (h : p.KeepsBounds) :
    Lexes (p.render .sqlite).toList p.sqliteTokens := by
  cases p with
  | type t =>
    obtain ⟨kind, rfl⟩ := h
    have bare : (type (sqliteType kind)).render .sqlite = (sqliteType kind).name := by
      cases kind <;> rfl
    rw [bare]
    exact lexes_word (by cases kind <;> decide)
  | origin t => exact lexes_origin_comment h
  | valueCheck column allowed => exact lexes_valueCheck h
  | unsigned =>
    exact Token.lexes_comment "unsigned".toList (Text.staysInComment_of_not_mem (by decide))
  | nullability nullable =>
    cases nullable with
    | true => exact lexes_words ["NULL"] (by decide)
    | false => exact lexes_words ["NOT", "NULL"] (by decide)
  | default value =>
    cases value with
    | currentTime => exact lexes_words ["DEFAULT", "CURRENT_TIMESTAMP"] (by decide)
    | value v =>
      obtain ⟨w, hw, closes⟩ := h
      have keyword := lexes_word (w := "DEFAULT") (by decide)
      have both := keyword.append (lexes_literal closes).blank (follows_cons rfl _)
      have text : ((default (.value v)).render .sqlite).toList =
          "DEFAULT".toList ++ ' ' :: (Text.quoteLiteral w).toList := by
        rw [render, DefaultPart.render, DefaultValue.defaultLiteral_sqlite hw,
          String.toList_append]
        rfl
      rw [text, sqliteTokens, hw]
      exact both
  | increment => exact lexes_words ["PRIMARY", "KEY", "AUTOINCREMENT"] (by decide)

/-- Values are commas and literals. -/
theorem mem_valueTokens {t : Token} {values : List String} (h : t ∈ valueTokens values) :
    t = .comma ∨ ∃ s, t = .str s := by
  induction values with
  | nil => cases h
  | cons v values ih =>
    cases values with
    | nil => exact .inr ⟨_, List.mem_singleton.1 h⟩
    | cons w values =>
      rw [valueTokens, List.map_cons, List.map_cons, List.intercalate_cons_cons] at h
      simp only [List.mem_append, List.mem_singleton] at h
      rcases h with (literal | comma) | others
      · exact .inr ⟨_, literal⟩
      · exact .inl comma
      · exact ih others

theorem nested_valueTokens (values : List String) :
    Nested (fun _ => True) (valueTokens values) := by
  apply Token.nested_intercalate (by simp) (by simp)
  intro run hrun
  obtain ⟨v, -, rfl⟩ := List.mem_map.1 hrun
  exact .cons (by simp) (by simp) trivial .nil

theorem ColumnPart.nested_sqliteTokens (p : ColumnPart) : Nested (· ≠ .comma) p.sqliteTokens := by
  cases p with
  | valueCheck column allowed =>
    have values := Nested.group (nested_valueTokens allowed) (.nil (p := fun _ => True))
    have inside : Nested (fun _ => True)
        ([.ident column, .word "IN"] ++ (.leftParen :: (valueTokens allowed ++ [.rightParen]))) :=
      (Token.nested_of_forall (by simp)).append values
    have group := Nested.group inside (.nil (p := (· ≠ Token.comma)))
    refine .cons (by simp) (by simp) (by simp) ?_
    simpa using group
  | nullability nullable =>
    cases nullable <;> exact Token.nested_of_forall (by simp [sqliteTokens])
  | default value =>
    cases value with
    | currentTime => exact Token.nested_of_forall (by simp [sqliteTokens])
    | value v =>
      refine .cons (by simp) (by simp) (by simp) ?_
      cases v.sqliteText? with
      | none => exact .nil
      | some w => exact .cons (by simp) (by simp) (by simp) .nil
  | _ => exact Token.nested_of_forall (by simp [sqliteTokens])

/-! ## Definitions and constraints -/

/-- The tokens of a column definition of SQLite. -/
def ColumnDefinition.sqliteTokens (d : ColumnDefinition) : List Token :=
  .ident d.name :: d.parts.flatMap ColumnPart.sqliteTokens

theorem ColumnDefinition.lexes_sqlite {d : ColumnDefinition}
    (h : ∀ p ∈ d.parts, p.KeepsBounds) : Lexes (d.render .sqlite).toList d.sqliteTokens := by
  obtain ⟨parts, follows⟩ := lexes_partsText fun p hp => ColumnPart.lexes_sqlite (h p hp)
  rw [render, String.toList_append, sqliteTokens]
  exact (lexes_wrap .sqlite d.name).append parts follows

theorem ColumnDefinition.nested_sqliteTokens (d : ColumnDefinition) :
    Nested (· ≠ .comma) d.sqliteTokens :=
  .cons (by simp) (by simp) (by simp) (Token.nested_flatMap fun p _ => p.nested_sqliteTokens)

/-- The tokens of names between parentheses. -/
def nameTokens (names : List String) : List Token :=
  .leftParen :: ([Token.comma].intercalate (names.map fun n => [.ident n]) ++ [.rightParen])

/-- The words of an action. -/
def actionWords : ForeignAction → List String
  | .noAction => ["NO", "ACTION"]
  | .restrict => ["RESTRICT"]
  | .cascade => ["CASCADE"]
  | .setNull => ["SET", "NULL"]
  | .setDefault => ["SET", "DEFAULT"]

/-- The tokens of an action on an event, if there is one. -/
def actionTokens (event : String) : Option ForeignAction → List Token
  | some action => .word "ON" :: .word event :: (actionWords action).map .word
  | none => []

/-- The tokens of a table constraint. -/
def TableConstraint.tokens : TableConstraint → List Token
  | primaryKey columns => .word "PRIMARY" :: .word "KEY" :: nameTokens columns
  | foreignKey fk =>
    .word "FOREIGN" :: .word "KEY" :: (nameTokens fk.columns ++ .word "REFERENCES" ::
      .ident fk.table :: (nameTokens fk.references ++ (actionTokens "DELETE" fk.onDelete ++
        actionTokens "UPDATE" fk.onUpdate)))

theorem lexes_names (names : List String) :
    Lexes ('(' :: ((Dialect.sqlite.columnize names).toList ++ [')'])) (nameTokens names) := by
  have inside : Lexes (Dialect.sqlite.columnize names).toList _ :=
    Token.lexes_intercalate fun n _ => lexes_wrap .sqlite n
  have close : Lexes [')'] [.rightParen] := Token.lexes_nil.punctuation rfl
  exact (inside.append close (follows_cons rfl _)).punctuation rfl

/-- An action on an event as text. -/
def actionText (event : String) : Option ForeignAction → String
  | some action => " ON " ++ event ++ " " ++ action.sql
  | none => ""

theorem lexes_actionText (event : String) (word : Token.isBareWord event = true)
    (action : Option ForeignAction) :
    Lexes (actionText event action).toList (actionTokens event action) ∧
      Token.Follows (actionText event action).toList := by
  cases action with
  | none => exact ⟨Token.lexes_nil, Token.follows_nil⟩
  | some action =>
    have sql : action.sql = " ".intercalate (actionWords action) := by cases action <;> rfl
    have words : Lexes action.sql.toList ((actionWords action).map .word) := by
      rw [sql]
      exact lexes_words _ (by cases action <;> decide)
    have both := (lexes_word word).append words.blank (follows_cons rfl _)
    have whole := (lexes_word (w := "ON") (by decide)).append both.blank (follows_cons rfl _)
    have text : (actionText event (some action)).toList =
        ' ' :: ("ON".toList ++ ' ' :: (event.toList ++ ' ' :: action.sql.toList)) := by
      simp [actionText]
    rw [text]
    exact ⟨whole.blank, follows_cons rfl _⟩

theorem foreignKeyText_eq (d : Dialect) (fk : ForeignKey) :
    foreignKeyText d fk = "FOREIGN KEY (" ++ d.columnize fk.columns ++ ") REFERENCES " ++
      d.wrap fk.table ++ " (" ++ d.columnize fk.references ++ ")" ++
        actionText "DELETE" fk.onDelete ++ actionText "UPDATE" fk.onUpdate := by
  unfold foreignKeyText
  cases fk.onDelete <;> cases fk.onUpdate <;> rfl

theorem TableConstraint.lexes_sqlite (c : TableConstraint) :
    Lexes (c.render .sqlite).toList c.tokens := by
  cases c with
  | primaryKey columns =>
    have whole := (lexes_words ["PRIMARY", "KEY"] (by decide)).append (lexes_names columns).blank
      (follows_cons rfl _)
    have head : "PRIMARY KEY (".toList =
        (" ".intercalate ["PRIMARY", "KEY"]).toList ++ [' ', '('] := rfl
    have right : ")".toList = [')'] := rfl
    rw [render]
    simp only [String.toList_append, head, right, List.append_assoc, List.cons_append,
      List.nil_append]
    exact whole
  | foreignKey fk =>
    obtain ⟨onDelete, followsDelete⟩ := lexes_actionText "DELETE" (by decide) fk.onDelete
    obtain ⟨onUpdate, followsUpdate⟩ := lexes_actionText "UPDATE" (by decide) fk.onUpdate
    have actions := onDelete.append onUpdate followsUpdate
    have references := (lexes_names fk.references).append actions
      (followsDelete.append followsUpdate)
    have target := (lexes_wrap .sqlite fk.table).append references.blank (follows_cons rfl _)
    have word := (lexes_word (w := "REFERENCES") (by decide)).append target.blank
      (follows_cons rfl _)
    have columns := (lexes_names fk.columns).append word.blank (follows_cons rfl _)
    have whole := (lexes_words ["FOREIGN", "KEY"] (by decide)).append columns.blank
      (follows_cons rfl _)
    have head : "FOREIGN KEY (".toList =
        (" ".intercalate ["FOREIGN", "KEY"]).toList ++ [' ', '('] := rfl
    have middle : ") REFERENCES ".toList = ')' :: ' ' :: ("REFERENCES".toList ++ [' ']) := rfl
    have left : " (".toList = [' ', '('] := rfl
    have right : ")".toList = [')'] := rfl
    rw [render, foreignKeyText_eq]
    simp only [String.toList_append, head, middle, left, right, List.append_assoc,
      List.cons_append, List.nil_append] at whole ⊢
    exact whole

theorem nested_nameTokens (names : List String) : Nested (· ≠ .comma) (nameTokens names) := by
  refine .group (Token.nested_intercalate (by simp) (by simp) ?_) .nil
  intro run hrun
  obtain ⟨n, -, rfl⟩ := List.mem_map.1 hrun
  exact .cons (by simp) (by simp) trivial .nil

theorem nested_actionTokens (event : String) (action : Option ForeignAction) :
    Nested (· ≠ .comma) (actionTokens event action) := by
  cases action with
  | none => exact .nil
  | some action =>
    exact Token.nested_of_forall (by cases action <;> simp [actionTokens, actionWords])

theorem TableConstraint.nested_tokens (c : TableConstraint) : Nested (· ≠ .comma) c.tokens := by
  cases c with
  | primaryKey columns =>
    exact .cons (by simp) (by simp) (by simp) (.cons (by simp) (by simp) (by simp)
      (nested_nameTokens columns))
  | foreignKey fk =>
    have actions := (nested_actionTokens "DELETE" fk.onDelete).append
      (nested_actionTokens "UPDATE" fk.onUpdate)
    have target := (nested_nameTokens fk.references).append actions
    exact .cons (by simp) (by simp) (by simp) (.cons (by simp) (by simp) (by simp)
      ((nested_nameTokens fk.columns).append (.cons (by simp) (by simp) (by simp)
        (.cons (by simp) (by simp) (by simp) target))))

/-! ## Tables -/

/-- The runs of tokens between the parentheses of a table definition. -/
def clauses (columns : List ColumnDefinition) (constraints : List TableConstraint) :
    List (List Token) :=
  columns.map (·.sqliteTokens) ++ constraints.map (·.tokens)

theorem nested_clauses {columns : List ColumnDefinition} {constraints : List TableConstraint}
    {clause : List Token} (h : clause ∈ clauses columns constraints) :
    clause ≠ [] ∧ Nested (· ≠ .comma) clause := by
  rcases List.mem_append.1 h with column | constraint
  · obtain ⟨d, -, rfl⟩ := List.mem_map.1 column
    exact ⟨List.cons_ne_nil _ _, d.nested_sqliteTokens⟩
  · obtain ⟨c, -, rfl⟩ := List.mem_map.1 constraint
    exact ⟨by cases c <;> exact List.cons_ne_nil _ _, c.nested_tokens⟩

/-- The statement that makes a table on SQLite lexes to the tokens of its clauses. -/
theorem lexes_createTable_sqlite {table : String} {columns : List ColumnDefinition}
    {constraints : List TableConstraint}
    (bounds : ∀ d ∈ columns, ∀ p ∈ d.parts, p.KeepsBounds) :
    Lexes ((Statement.createTable table columns constraints none).render .sqlite).toList
      ([.word "CREATE", .word "TABLE", .ident table, .leftParen] ++
        ([Token.comma].intercalate (clauses columns constraints) ++ [.rightParen])) := by
  have inside : Lexes (", ".intercalate ((columns.map Sum.inl ++ constraints.map Sum.inr).map
      (Sum.elim (ColumnDefinition.render .sqlite) (TableConstraint.render .sqlite)))).toList
        ([Token.comma].intercalate ((columns.map Sum.inl ++ constraints.map Sum.inr).map
          (Sum.elim ColumnDefinition.sqliteTokens TableConstraint.tokens))) := by
    apply Token.lexes_intercalate
    rintro (d | c) mem
    · exact ColumnDefinition.lexes_sqlite (bounds d (by simpa using mem))
    · exact c.lexes_sqlite
  simp only [List.map_append, List.map_map, Sum.elim_comp_inl, Sum.elim_comp_inr] at inside
  exact lexes_createTable_of inside (by simp)

end SchemaShift.Sql
