import SchemaShift.Proofs.Ddl.Nullability
import SchemaShift.Proofs.Ddl.Respelled

/-!
# Expressions as defaults

An expression between the parentheses behind `DEFAULT` is recorded as the texts of its tokens. It is
the default of its column unless a later phrase of the clause gives another one, and it is read as
the same tokens again exactly when each of them recurs.

Results:
* `readOption_of_default`, `readOption_gives`: which phrases give a default.
* `default_described`: the last default of a clause is that of its column.
* `scan_spaced_readTables`: what is recorded of expressions, in every script.
* `not_forall_recorded`: an identifier with a backtick in it is not kept.
-/

namespace SchemaShift

/-! ## Parts of runs -/

namespace Token

/-- What stands in a part stands in the run. -/
theorem subset_of_mem_splitAt {separator : Token} {ts part : List Token}
    (h : part ∈ splitAt separator ts) : part ⊆ ts := by
  unfold splitAt at h
  split at h
  · cases h
  · obtain ⟨before, after, split⟩ := List.append_of_mem h
    obtain ⟨front, back, placed, -⟩ := exists_intercalate_eq separator before part after
    rw [← split, intercalate_splitFrom] at placed
    rw [placed]
    exact List.subset_append_of_subset_right _ (List.subset_append_left _ _)

theorem Reaches.subset {p : Token → Prop} {ts rest : List Token} (h : Reaches p ts rest) :
    rest ⊆ ts := by
  obtain ⟨front, rfl, -⟩ := h.exists_front
  exact List.subset_append_right front rest

end Token

namespace Ddl

open Token (spaced)
open Reader

theorem subset_of_mem_statements {tokens statement : List Token}
    (h : statement ∈ statements tokens) : statement ⊆ tokens := by
  obtain ⟨run, mem, rfl⟩ := List.mem_map.1 (List.mem_filter.1 h).1
  exact List.Subset.trans (List.dropWhile_sublist _).subset (Token.subset_of_mem_splitAt mem)

theorem subset_of_mem_clauses {tokens clause : List Token} (h : clause ∈ clauses tokens) :
    clause ⊆ tokens :=
  List.Subset.trans (Token.subset_of_mem_splitAt h) <| List.Subset.trans (List.take_subset _ _)
    ((List.tail_sublist _).trans (List.dropWhile_sublist _)).subset

/-! ## Options that give a default -/

/-- Behind `DEFAULT` stands a default. -/
theorem readOption_of_default (context : String) {t : Token} (h : t.isKeyword "default" = true) :
    readOption context t = (do return .default (← readDefault context)) := by
  cases t with
  | word w =>
    have other : ∀ word, Text.sameWord "default" word = false →
        ¬ Text.sameWord w word = true := by
      intro word differs same
      have := isKeyword_word h word
      rw [differs] at this
      exact Bool.false_ne_true (this.symm.trans same)
    rw [readOption, readKeyword]
    exact (if_neg (other "not" (by decide +kernel))).trans
      ((if_neg (other "null" (by decide +kernel))).trans (if_pos h))
  | _ => cases h

/-- An expression is recorded as the texts of its tokens. -/
theorem eq_of_readOption {context : String} {t : Token} (h : t.isKeyword "default" = true)
    {e rest : List Token} {option : ColumnOption}
    (read : (readOption context t).run (.leftParen :: (e ++ [.rightParen]) ++ rest) =
      .ok (option, rest)) : option = .default (.expression (spaced e)) := by
  rw [readOption_of_default context h] at read
  obtain ⟨value, mid, inner, done⟩ := run_bind_eq_ok_iff.1 read
  rw [run_pure, Except.ok.injEq, Prod.mk.injEq] at done
  obtain ⟨rfl, rfl⟩ := done
  rw [readDefault, List.cons_append, run_bind_of (run_next_cons _ _)] at inner
  obtain ⟨inside, behind, closed, done⟩ := run_bind_eq_ok_iff.1 inner
  rw [run_pure, Except.ok.injEq, Prod.mk.injEq] at done
  obtain ⟨rfl, rfl⟩ := done
  obtain ⟨n, closes, rfl, left⟩ := groupRest_ensures.run closed
  -- What is left behind the closing parenthesis says where it stands.
  have lengths := congrArg List.length left
  have within := Token.closing?_lt closes
  have place : n = e.length := by
    rw [List.length_drop] at lengths
    simp only [List.length_append, List.length_singleton] at lengths within
    omega
  rw [place, List.append_assoc, List.take_left]
  rfl

/-- An option that gives a default. -/
def ColumnOption.isDefault : ColumnOption → Bool
  | .default _ => true
  | _ => false

/-- Only `DEFAULT` gives a default. -/
theorem readOption_gives (context : String) {t : Token} (h : t.isKeyword "default" = false) :
    (readOption context t).Gives (·.isDefault = false) := by
  have plain : ∀ {option : ColumnOption}, option.isDefault = false →
      (pure option : Reader ColumnOption).Gives (·.isDefault = false) :=
    fun other => .pure fun _ => other
  unfold readOption
  split
  · split
    · exact plain rfl
    · split
      · exact plain rfl
      · exact plain rfl
  · rename_i word
    have other : ¬ Text.sameWord word "default" = true := by
      rw [Token.isKeyword] at h
      simp [h]
    unfold readKeyword
    dsimp only
    rw [if_neg other]
    refine .ite ?not (.ite (plain rfl) (.ite (plain rfl) (.ite (plain rfl)
      (.ite (plain rfl) (.ite ?primary (.ite ?unique (.ite ?references (.ite ?on
      (.ite ?collate (.ite ?character (.ite ?comment (.ite ?check (.fail _)))))))))))))
    case not | primary | unique | references | collate | comment | check =>
      exact Gives.bind fun _ => plain rfl
    case character => exact Gives.bind fun _ => Gives.bind fun _ => plain rfl
    case on =>
      exact Gives.bind fun _ => Gives.bind fun _ => Gives.bind fun _ => plain rfl
  · exact .fail _

/-! ## Phrases that give a default -/

/-- A phrase gives a default. -/
def GivesDefault (phrase : List Token) : Prop :=
  ∃ t ∈ phrase.head?, t.isKeyword "default" = true

/-- A phrase gives an expression between parentheses as the default. -/
def GivesExpression (e phrase : List Token) : Prop :=
  ∃ t : Token, t.isKeyword "default" = true ∧ phrase = t :: .leftParen :: (e ++ [.rightParen])

namespace Phrases

variable {context : String} {ts : List Token} {phrases : List (List Token)}
  {options : List ColumnOption}

/-- Phrases that give no default are read as no default. -/
theorem ne_default (h : Phrases context ts phrases options)
    (silent : ∀ phrase ∈ phrases, ¬ GivesDefault phrase) :
    ∀ option ∈ options, option.isDefault = false := by
  induction h with
  | nil => exact fun _ mem => nomatch mem
  | @cons t phrase rest option phrases options read _ ih =>
    obtain ⟨first, others⟩ := List.forall_mem_cons.1 silent
    have other : t.isKeyword "default" = false := by
      rw [← Bool.not_eq_true]
      exact fun keyword => first ⟨t, rfl, keyword⟩
    exact List.forall_mem_cons.2 ⟨(readOption_gives context other).run read, ih others⟩

/-- The later of the phrases are read as the later of the options. -/
theorem exists_behind {before after : List (List Token)}
    (h : Phrases context ts (before ++ after) options) :
    ∃ rest first others, options = first ++ others ∧ Phrases context rest after others := by
  induction before generalizing ts options with
  | nil => exact ⟨ts, [], options, rfl, h⟩
  | cons phrase before ih =>
    cases h with
    | cons read others =>
      obtain ⟨rest, first, behind, rfl, cut⟩ := ih others
      exact ⟨rest, _ :: first, behind, rfl, cut⟩

/-- An expression that no later phrase replaces is read as the last default. -/
theorem exists_expression {before after : List (List Token)} {phrase e : List Token}
    (h : Phrases context ts (before ++ phrase :: after) options)
    (expression : GivesExpression e phrase) (last : ∀ later ∈ after, ¬ GivesDefault later) :
    ∃ first others, options = first ++ .default (.expression (spaced e)) :: others ∧
      ∀ option ∈ others, option.isDefault = false := by
  obtain ⟨rest, first, behind, rfl, cut⟩ := h.exists_behind
  obtain ⟨t, keyword, rfl⟩ := expression
  cases cut with
  | cons read others =>
    refine ⟨first, _, ?_, others.ne_default last⟩
    rw [eq_of_readOption keyword read]

end Phrases

/-! ## Defaults of columns -/

theorem default_give (spec : TypeSpec) (type : ColumnType) (c : Column) :
    (spec.give type c).default = c.default := by
  unfold TypeSpec.give
  split <;> rfl

namespace ColumnClause

theorem default_apply {option : ColumnOption} (other : option.isDefault = false) (c : Column) :
    (apply c option).default = c.default := by
  cases option with
  | default value => cases other
  | origin spec =>
    simp only [apply]
    cases applied : spec.applyLogical? c with
    | none => rfl
    | some d =>
      obtain ⟨type, -, rfl⟩ := Option.map_eq_some_iff.1 applied
      exact default_give spec type c
  | _ => rfl

theorem default_foldl_apply {options : List ColumnOption}
    (others : ∀ option ∈ options, option.isDefault = false) (c : Column) :
    (options.foldl apply c).default = c.default := by
  induction options generalizing c with
  | nil => rfl
  | cons option options ih =>
    obtain ⟨first, others⟩ := List.forall_mem_cons.1 others
    rw [List.foldl_cons, ih others, default_apply first]

/-- The last default of a clause is that of its column. -/
theorem default_described {clause : ColumnClause} {first others : List ColumnOption} {sql : String}
    (split : clause.options = first ++ .default (.expression sql) :: others)
    (last : ∀ option ∈ others, option.isDefault = false) :
    clause.described.default = some (.raw sql) := by
  have folded : ∀ c, (clause.options.foldl apply c).default = some (.raw sql) := by
    intro c
    rw [split, List.foldl_append, List.foldl_cons, default_foldl_apply last]
    rfl
  unfold described
  dsimp only
  split_ifs
  · exact folded _
  · exact folded _
  · exact folded _

end ColumnClause

/-! ## What is recorded -/

/-- A column records the expressions that the phrases of its clause give, and they are read again
exactly when their tokens recur. -/
structure Records (context : String) (clause : List Token) (c : Column) : Prop where
  phrased : ∃ phrases, PhrasesOf context clause phrases
  recorded : ∀ before phrase after e, PhrasesOf context clause (before ++ phrase :: after) →
    GivesExpression e phrase → (∀ later ∈ after, ¬ GivesDefault later) →
    ∃ sql, c.default = some (.raw sql) ∧ (Token.scan sql = .ok e ↔ ∀ t ∈ e, t.Recurs)

/-- The tokens of an expression stand in its clause. -/
theorem PhrasesOf.subset {context : String} {clause phrase : List Token}
    {phrases : List (List Token)} (h : PhrasesOf context clause phrases) (mem : phrase ∈ phrases) :
    phrase ⊆ clause := by
  obtain ⟨name, ts, spec, rest, options, rfl, readType, cut⟩ := h
  have behind := (TypeSpec.read_ensures.run readType).1.subset
  rw [← cut.flatten_eq] at behind
  have part : phrase ⊆ phrases.flatten := fun t ht => List.mem_flatten_of_mem mem ht
  exact List.Subset.trans part (List.Subset.trans behind (List.subset_cons_self name ts))

theorem records_of_readColumn {table context : String} {clause : List Token}
    {parsed : ColumnClause} {c : Column} (lexemes : ∀ t ∈ clause, t.IsLexeme)
    (read : readColumn table context clause = .ok parsed) (gains : parsed.described.Gains c) :
    Records context clause c := by
  obtain ⟨first, tail, spec, rest, rfl, -, readType, -, readRest⟩ := exists_of_readColumn read
  obtain ⟨phrases, cut⟩ := readOptions_eq_ok_iff.1 readRest
  have sameDefault : c.default = parsed.described.default := by
    rcases gains with rfl | ⟨-, role, rfl⟩ <;> rfl
  refine ⟨⟨phrases, first, tail, spec, rest, _, rfl, readType, cut⟩, ?_⟩
  intro before phrase after e phrased expression last
  have within := phrased.subset (List.mem_append_right before List.mem_cons_self)
  obtain ⟨_, _, _, _, options, same, readAgain, cut⟩ := phrased
  cases same
  rw [readType] at readAgain
  cases readAgain
  have readOthers := readOptions_eq_ok_iff.2 ⟨_, cut⟩
  rw [readRest] at readOthers
  cases readOthers
  obtain ⟨before, others, split, silent⟩ := cut.exists_expression expression last
  refine ⟨spaced e, sameDefault.trans (ColumnClause.default_described split silent), ?_⟩
  apply Token.scan_spaced_eq_iff
  intro t mem
  obtain ⟨opening, -, rfl⟩ := expression
  exact lexemes t (within (by simp [mem]))

/-- The tokens of every text are read again from their texts exactly when each of them recurs. In
every script that is read, the same holds of the expressions that the columns record. -/
theorem scan_spaced_readTables (sql : String) :
    (∀ tokens, Token.scan sql = .ok tokens →
      (Token.scan (spaced tokens) = .ok tokens ↔ ∀ t ∈ tokens, t.Recurs)) ∧
    ∀ bs, readTables sql = .ok bs → ∃ tokens, Token.scan sql = .ok tokens ∧
      List.Forall₂ (fun statement (b : Blueprint) =>
        List.Forall₂ (Records ("table " ++ b.table))
          ((clauses statement).filter definesColumn) b.columns) (statements tokens) bs := by
  refine ⟨fun tokens scanned => Token.scan_spaced_eq_iff (Token.isLexeme_of_scan scanned), ?_⟩
  intro bs h
  obtain ⟨tokens, scanned, read⟩ := readTables_eq_ok_iff.1 h
  have lexemes := Token.isLexeme_of_scan scanned
  have within : ∀ statement ∈ statements tokens, statement ⊆ tokens :=
    fun statement mem => subset_of_mem_statements mem
  refine ⟨tokens, scanned, ((List.forall₂_and_left _ _).2 ⟨within, read⟩).imp ?_⟩
  rintro statement b ⟨within, readStatement⟩
  have among : ∀ clause ∈ (clauses statement).filter definesColumn, clause ⊆ statement :=
    fun clause mem => subset_of_mem_clauses (List.mem_filter.1 mem).1
  refine ((List.forall₂_and_left _ _).2 ⟨among, forall₂_readTable readStatement⟩).imp ?_
  rintro clause c ⟨among, parsed, -, readClause, gains⟩
  exact records_of_readColumn (fun t mem => lexemes t (within (among mem))) readClause gains

/-! ## A table with one expression -/

/-- The script of a table with one column, whose default is an expression. -/
def datedScript (e : String) : String := "CREATE TABLE events (at date DEFAULT (" ++ e ++ "))"

/-- The phrase that gives the default. -/
def datedPhrase (e : List Token) : List Token :=
  .word "DEFAULT" :: .leftParen :: (e ++ [.rightParen])

/-- The clause of the column. -/
def datedClause (e : List Token) : List Token := .word "at" :: .word "date" :: datedPhrase e

/-- The tokens of the script. -/
def datedTokens (e : List Token) : List Token :=
  [.word "CREATE", .word "TABLE", .word "events", .leftParen] ++ datedClause e ++ [.rightParen]

/-- The column with the recorded text of the expression. -/
def datedColumn (sql : String) : Column :=
  { name := "at", type := .date, nullable := true, default := some (.raw sql) }

/-- The table of the script. -/
def datedTable (sql : String) : Blueprint :=
  { table := "events", columns := [datedColumn sql], commands := [.create] }

theorem givesExpression_datedPhrase (e : List Token) : GivesExpression e (datedPhrase e) :=
  ⟨_, by decide +kernel, rfl⟩

theorem phrasesOf_datedClause {context : String} {e : List Token} (sql : String)
    (type : TypeSpec.read.run (.word "date" :: datedPhrase e) =
      .ok ({ name := "date" }, datedPhrase e))
    (read : (readOption context (.word "DEFAULT")).run (.leftParen :: (e ++ [.rightParen])) =
      .ok (.default (.expression sql), [])) :
    PhrasesOf context (datedClause e) ([] ++ [datedPhrase e]) := by
  have one : Phrases context (datedPhrase e ++ []) [datedPhrase e] [.default (.expression sql)] :=
    .cons (by rwa [List.append_nil]) .nil
  rw [List.append_nil] at one
  exact ⟨_, _, _, _, _, rfl, type, one⟩

/-- What holds of all columns of the script holds of its one column. -/
theorem datedColumn_of_forall₂ {R : String → List Token → Column → Prop} {e : List Token}
    {sql : String} (whole : statements (datedTokens e) = [datedTokens e])
    (clause : (clauses (datedTokens e)).filter definesColumn = [datedClause e])
    (h : List.Forall₂ (fun statement (b : Blueprint) =>
      List.Forall₂ (R ("table " ++ b.table)) ((clauses statement).filter definesColumn) b.columns)
        (statements (datedTokens e)) [datedTable sql]) :
    R "table events" (datedClause e) (datedColumn sql) := by
  rw [whole, List.forall₂_cons, clause] at h
  exact (List.forall₂_cons.1 h.1).1

/-- A call among the defaults is kept. -/
theorem scan_spaced_readTables_events :
    ∃ tokens b c sql, Token.scan (datedScript "now()") = .ok tokens ∧
      Token.scan (spaced tokens) = .ok tokens ∧ readTables (datedScript "now()") = .ok [b] ∧
        b.columns = [c] ∧ c.default = some (.raw sql) ∧
          Token.scan sql = .ok [.word "now", .leftParen, .rightParen] := by
  have scanned : Token.scan (datedScript "now()") =
      .ok (datedTokens [.word "now", .leftParen, .rightParen]) := by decide +kernel
  have read : readTables (datedScript "now()") = .ok [datedTable "now ( )"] := by decide +kernel
  obtain ⟨again, records⟩ := scan_spaced_readTables (datedScript "now()")
  obtain ⟨tokens, same, described⟩ := records _ read
  cases scanned.symm.trans same
  have column := datedColumn_of_forall₂ (by decide +kernel) (by decide +kernel) described
  obtain ⟨sql, recorded, kept⟩ := column.recorded [] _ [] _
    (phrasesOf_datedClause "now ( )" (by decide +kernel) (by decide +kernel))
    (givesExpression_datedPhrase _) (fun _ mem => nomatch mem)
  exact ⟨_, _, _, sql, scanned, (again _ scanned).2 (by decide +kernel), read, rfl, recorded,
    kept.2 (by decide +kernel)⟩

/-- A column records the expressions of its clause as texts that are read as the same tokens. -/
def Repeats (context : String) (clause : List Token) (c : Column) : Prop :=
  ∀ before phrase after e, PhrasesOf context clause (before ++ phrase :: after) →
    GivesExpression e phrase → (∀ later ∈ after, ¬ GivesDefault later) →
    ∃ sql, c.default = some (.raw sql) ∧ Token.scan sql = .ok e

/-- An identifier with a backtick in it is written as a text that ends at the backtick. -/
theorem not_forall_recorded :
    (¬ ∀ sql tokens, Token.scan sql = .ok tokens → Token.scan (spaced tokens) = .ok tokens) ∧
      ¬ ∀ sql bs, readTables sql = .ok bs → ∃ tokens, Token.scan sql = .ok tokens ∧
        List.Forall₂ (fun statement (b : Blueprint) =>
          List.Forall₂ (Repeats ("table " ++ b.table))
            ((clauses statement).filter definesColumn) b.columns) (statements tokens) bs := by
  constructor
  · intro again
    exact absurd (again "\"a`b\"" [.ident "a`b"] (by decide +kernel)) (by decide +kernel)
  · intro repeats
    have scanned : Token.scan (datedScript "\"a`b\"") = .ok (datedTokens [.ident "a`b"]) := by
      decide +kernel
    have read : readTables (datedScript "\"a`b\"") = .ok [datedTable "`a`b`"] := by
      decide +kernel
    obtain ⟨tokens, same, described⟩ := repeats _ _ read
    cases scanned.symm.trans same
    have column := datedColumn_of_forall₂ (by decide +kernel) (by decide +kernel) described
    obtain ⟨sql, recorded, kept⟩ := column [] _ [] _
      (phrasesOf_datedClause "`a`b`" (by decide +kernel) (by decide +kernel))
      (givesExpression_datedPhrase _) (fun _ mem => nomatch mem)
    cases recorded
    exact absurd kept (by decide +kernel)

end Ddl

end SchemaShift
