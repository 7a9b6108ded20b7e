import SchemaShift.Proofs.Column.Literal
import SchemaShift.Proofs.Ddl.Grouping
import SchemaShift.Proofs.Ddl.Lexing

/-!
# The tokens of MySQL definitions

What a column definition and a table definition of MySQL are read as, token by token. How clauses
are put together to a table is the same on every engine and said for all of them.

Results:
* `PhysicalType.lexes_render`, `ColumnPart.lexes_render`, `ColumnDefinition.lexes_render`: the
  text of a type, of a clause and of a definition lexes to its tokens.
* `lexes_createTable_of`, `lexes_createTable`: so does the statement that makes a table.
* `ColumnDefinition.nested_tokens`: a definition holds no comma outside its parentheses.
-/

namespace SchemaShift.Sql

open Token (Lexes Nested lexes_words lexes_word follows_cons)

/-! ## Types -/

/-- The token of an argument of a type. -/
def TypeArgument.token : TypeArgument → Token
  | number n => .number n.toNat.repr
  | text s => .str s

/-- The tokens between the parentheses of a type. -/
def argumentTokens (args : List TypeArgument) : List Token :=
  [Token.comma].intercalate (args.map fun a => [a.token])

/-- The tokens of a type whose name is a bare word. -/
def PhysicalType.tokens (t : PhysicalType) : List Token :=
  .word t.name :: match t.args with
    | none => []
    | some args => .leftParen :: (argumentTokens args ++ [.rightParen])

theorem TypeArgument.lexes_render (a : TypeArgument) :
    Lexes (a.render .mySql).toList [a.token] := by
  cases a with
  | number n => exact Token.lexes_number (Number.isDigits_repr n.toNat)
  | text s => exact Token.lexes_mySqlLiteral s

theorem PhysicalType.lexes_render {t : PhysicalType} (h : Token.isBareWord t.name = true) :
    Lexes (t.render .mySql).toList t.tokens := by
  have name := lexes_word h
  rw [render, renderWith, tokens]
  cases t.args with
  | none => exact name
  | some args =>
    have inside : Lexes _ (argumentTokens args) :=
      Token.lexes_intercalate fun a _ => a.lexes_render
    have close : Lexes [')'] [.rightParen] := Token.lexes_nil.punctuation rfl
    have group := (inside.append close (follows_cons rfl _)).punctuation (c := '(') rfl
    rw [String.toList_append, String.toList_append, String.toList_append, List.append_assoc,
      List.append_assoc]
    exact name.append group (follows_cons rfl _)

theorem nested_argumentTokens (args : List TypeArgument) :
    Nested (fun _ => True) (argumentTokens args) := by
  apply Token.nested_intercalate (by simp) (by simp)
  intro run hrun
  obtain ⟨a, -, rfl⟩ := List.mem_map.1 hrun
  cases a <;> exact .cons (by simp [TypeArgument.token]) (by simp [TypeArgument.token]) trivial .nil

theorem PhysicalType.nested_tokens (t : PhysicalType) : Nested (· ≠ .comma) t.tokens := by
  rw [tokens]
  refine .cons (by simp) (by simp) (by simp) ?_
  cases t.args with
  | none => exact .nil
  | some args => exact .group (nested_argumentTokens args) .nil

/-! ## Clauses -/

/-- A clause of MySQL definitions with a literal as its default, if it is a default. -/
def ColumnPart.IsPlain : ColumnPart → Prop
  | type t => Token.isBareWord t.name = true
  | origin _ | valueCheck _ _ => False
  | default (.value v) => v.literalText?.isSome
  | unsigned | nullability _ | default .currentTime | increment => True

/-- The tokens of a plain clause. -/
def ColumnPart.tokens : ColumnPart → List Token
  | type t => t.tokens
  | unsigned => [.word "UNSIGNED"]
  | nullability true => [.word "NULL"]
  | nullability false => [.word "NOT", .word "NULL"]
  | default .currentTime => [.word "DEFAULT", .word "CURRENT_TIMESTAMP"]
  | default (.value v) => .word "DEFAULT" :: (v.literalText?.map Token.str).toList
  | increment => [.word "AUTO_INCREMENT", .word "PRIMARY", .word "KEY"]
  | origin _ | valueCheck _ _ => []

theorem ColumnPart.lexes_render {p : ColumnPart} (h : p.IsPlain) :
    Lexes (p.render .mySql).toList p.tokens := by
  cases p with
  | type t => exact PhysicalType.lexes_render h
  | origin _ => cases h
  | valueCheck _ _ => cases h
  | unsigned => exact lexes_words ["UNSIGNED"] (by decide)
  | nullability nullable =>
    cases nullable with
    | true => exact lexes_words ["NULL"] (by decide)
    | false => exact lexes_words ["NOT", "NULL"] (by decide)
  | default value =>
    cases value with
    | currentTime => exact lexes_words ["DEFAULT", "CURRENT_TIMESTAMP"] (by decide)
    | value v =>
      obtain ⟨w, hw⟩ := Option.isSome_iff_exists.1 (show v.literalText?.isSome from h)
      have literal := (Token.lexes_mySqlLiteral w).blank
      have keyword := lexes_word (w := "DEFAULT") (by decide)
      have both := keyword.append literal (follows_cons rfl _)
      have text : ((default (.value v)).render .mySql).toList =
          "DEFAULT".toList ++ ' ' :: (Text.quoteMySqlLiteral w).toList := by
        rw [render, DefaultPart.render, DefaultValue.defaultLiteral_mySql hw,
          String.toList_append]
        rfl
      rw [text, tokens, hw]
      exact both
  | increment => exact lexes_words ["AUTO_INCREMENT", "PRIMARY", "KEY"] (by decide)

theorem ColumnPart.nested_tokens (p : ColumnPart) : Nested (· ≠ .comma) p.tokens := by
  cases p with
  | type t => exact t.nested_tokens
  | nullability nullable =>
    cases nullable <;> exact Token.nested_of_forall (by simp [tokens])
  | default value =>
    cases value with
    | currentTime => exact Token.nested_of_forall (by simp [tokens])
    | value v =>
      refine .cons (by simp) (by simp) (by simp) ?_
      cases v.literalText? with
      | none => exact .nil
      | some w => exact .cons (by simp) (by simp) (by simp) .nil
  | _ => exact Token.nested_of_forall (by simp [tokens])

/-! ## Definitions -/

/-- The tokens of a run of clauses. -/
def partsTokens (parts : List ColumnPart) : List Token := parts.flatMap ColumnPart.tokens

theorem partsTokens_cons (p : ColumnPart) (parts : List ColumnPart) :
    partsTokens (p :: parts) = p.tokens ++ partsTokens parts := List.flatMap_cons

theorem partsTokens_append (xs ys : List ColumnPart) :
    partsTokens (xs ++ ys) = partsTokens xs ++ partsTokens ys := List.flatMap_append

/-- The tokens of a column definition. -/
def ColumnDefinition.tokens (d : ColumnDefinition) : List Token :=
  .ident d.name :: partsTokens d.parts

/-- Clauses lex one by one. -/
theorem lexes_partsText {d : Dialect} {tokens : ColumnPart → List Token}
    {parts : List ColumnPart} (h : ∀ p ∈ parts, Lexes (p.render d).toList (tokens p)) :
    Lexes (partsText d parts).toList (parts.flatMap tokens) ∧
      Token.Follows (partsText d parts).toList := by
  rw [partsText, String.toList_join, List.flatMap_map]
  induction parts with
  | nil => exact ⟨Token.lexes_nil, Token.follows_nil⟩
  | cons p parts ih =>
    obtain ⟨others, follows⟩ := ih fun q hq => h q (by simp [hq])
    have first := (h p (by simp)).blank
    have text : (" " ++ p.render d).toList = ' ' :: (p.render d).toList := by
      rw [String.toList_append]
      rfl
    rw [List.flatMap_cons, List.flatMap_cons, text]
    exact ⟨first.append others follows, follows_cons rfl _⟩

theorem ColumnDefinition.lexes_render {d : ColumnDefinition} (h : ∀ p ∈ d.parts, p.IsPlain) :
    Lexes (d.render .mySql).toList d.tokens := by
  obtain ⟨parts, follows⟩ := lexes_partsText fun p hp => ColumnPart.lexes_render (h p hp)
  rw [render, String.toList_append, tokens]
  exact (Token.lexes_ident (.inl rfl) d.name).append parts follows

theorem nested_partsTokens (parts : List ColumnPart) :
    Nested (· ≠ .comma) (partsTokens parts) :=
  Token.nested_flatMap fun p _ => p.nested_tokens

theorem ColumnDefinition.nested_tokens (d : ColumnDefinition) : Nested (· ≠ .comma) d.tokens :=
  .cons (by simp) (by simp) (by simp) (nested_partsTokens d.parts)

/-! ## Tables -/

/-- The tokens of the table options. -/
def engineTokens : Option String → List Token
  | some name => [.word "ENGINE", .symbol '=', .word name]
  | none => []

/-- The tokens between the parentheses of a table definition. -/
def clauseTokens (columns : List ColumnDefinition) : List Token :=
  [Token.comma].intercalate (columns.map (·.tokens))

theorem nested_clauseTokens (columns : List ColumnDefinition) :
    Nested (fun _ => True) (clauseTokens columns) := by
  apply Token.nested_intercalate (by simp) (by simp)
  intro run hrun
  obtain ⟨d, -, rfl⟩ := List.mem_map.1 hrun
  exact d.nested_tokens.imp fun _ _ => trivial

/-- The tokens of the statement that makes a table without constraints. -/
def tableTokens (table : String) (columns : List ColumnDefinition) (engine : Option String) :
    List Token :=
  [.word "CREATE", .word "TABLE", .ident table, .leftParen] ++
    (clauseTokens columns ++ .rightParen :: engineTokens engine)

/-- The table options as text. -/
def engineText : Option String → String
  | some name => " ENGINE = " ++ name
  | none => ""

theorem render_createTable (d : Dialect) (table : String) (columns : List ColumnDefinition)
    (constraints : List TableConstraint) (engine : Option String) :
    (Statement.createTable table columns constraints engine).render d =
      "CREATE TABLE " ++ d.wrap table ++ " (" ++
        ", ".intercalate (columns.map (·.render d) ++ constraints.map (·.render d)) ++ ")" ++
          engineText engine := by
  unfold Statement.render
  cases engine <;> rfl

theorem lexes_engineText {engine : Option String} (h : ∀ e ∈ engine, Token.isBareWord e = true) :
    Lexes (engineText engine).toList (engineTokens engine) ∧
      Token.Follows (engineText engine).toList := by
  cases engine with
  | none => exact ⟨Token.lexes_nil, Token.follows_nil⟩
  | some name =>
    have value := (lexes_word (h name rfl)).blank.equals.blank
    have both := ((lexes_word (w := "ENGINE") (by decide)).append value (follows_cons rfl _)).blank
    have text : (engineText (some name)).toList =
        ' ' :: ("ENGINE".toList ++ ' ' :: '=' :: ' ' :: name.toList) := by
      rw [engineText, String.toList_append]
      rfl
    rw [text]
    exact ⟨both, follows_cons rfl _⟩

theorem lexes_wrap (d : Dialect) (name : String) : Lexes (d.wrap name).toList [.ident name] := by
  cases d with
  | mySql => exact Token.lexes_ident (.inl rfl) name
  | postgres | sqlite => exact Token.lexes_ident (.inr rfl) name

/-- On every engine the statement that makes a table lexes to the tokens of what stands in its
parentheses, with its name in front and its options behind. -/
theorem lexes_createTable_of {d : Dialect} {table : String} {columns : List ColumnDefinition}
    {constraints : List TableConstraint} {engine : Option String} {inside : List Token}
    (clauses : Lexes (", ".intercalate
      (columns.map (·.render d) ++ constraints.map (·.render d))).toList inside)
    (word : ∀ e ∈ engine, Token.isBareWord e = true) :
    Lexes ((Statement.createTable table columns constraints engine).render d).toList
      ([.word "CREATE", .word "TABLE", .ident table, .leftParen] ++
        (inside ++ .rightParen :: engineTokens engine)) := by
  obtain ⟨options, follows⟩ := lexes_engineText word
  have close := options.punctuation (c := ')') rfl
  have group := (clauses.append close (follows_cons rfl _)).punctuation (c := '(') rfl
  have name := (lexes_wrap d table).append group.blank (follows_cons rfl _)
  have whole := (lexes_words ["CREATE", "TABLE"] (by decide)).append name.blank
    (follows_cons rfl _)
  have head : "CREATE TABLE ".toList = (" ".intercalate ["CREATE", "TABLE"]).toList ++ [' '] :=
    rfl
  have left : " (".toList = [' ', '('] := rfl
  have right : ")".toList = [')'] := rfl
  rw [render_createTable]
  simp only [String.toList_append, head, left, right, List.append_assoc, List.cons_append,
    List.nil_append]
  exact whole

/-- The statement that makes a table on MySQL lexes to its tokens. -/
theorem lexes_createTable {table : String} {columns : List ColumnDefinition}
    {engine : Option String} (plain : ∀ d ∈ columns, ∀ p ∈ d.parts, p.IsPlain)
    (word : ∀ e ∈ engine, Token.isBareWord e = true) :
    Lexes ((Statement.createTable table columns [] engine).render .mySql).toList
      (tableTokens table columns engine) := by
  have clauses : Lexes _ (clauseTokens columns) :=
    Token.lexes_intercalate fun d hd => ColumnDefinition.lexes_render (plain d hd)
  exact lexes_createTable_of (by rw [List.map_nil, List.append_nil]; exact clauses) word

end SchemaShift.Sql
