import Mathlib.Data.List.TakeWhile
import SchemaShift.Ddl.Hints
import SchemaShift.Proofs.Blueprint.Canonical
import SchemaShift.Proofs.Ddl.Grouping
import SchemaShift.Proofs.Ddl.Taking

/-!
# The clauses of a definition

Two readers look at the text of a table definition. One finds its statement, reads the head and
takes the group behind it for the clauses; the other takes whatever stands in the first parentheses
of the text, and asks for no statement at all. On a text with one definition they find the same
clauses, since nothing in front of the clauses is a parenthesis.

Results:
* `intercalate_splitFrom`: a run is its parts with the separator between them.
* `exists_definition`: where the clauses stand in the text of one definition.
* `forall₂_readTable`, `forall₂_columnClauses`: every column clause is read as one column, in
  order.
* `exists_of_readColumn`: what the reader of a column clause has read.
-/

namespace SchemaShift

/-! ## Splitting undone -/

namespace Token

theorem intercalate_ontoFirst (separator t : Token) {parts : List (List Token)} (h : parts ≠ []) :
    [separator].intercalate (ontoFirst t parts) = t :: [separator].intercalate parts := by
  cases parts with
  | nil => exact absurd rfl h
  | cons part parts =>
    cases parts with
    | nil => rw [ontoFirst, List.intercalate_singleton, List.intercalate_singleton]
    | cons => simp only [ontoFirst, List.intercalate_cons_cons, List.cons_append]

/-- A run is its parts with the separator between them. -/
theorem intercalate_splitFrom (separator : Token) (depth : Nat) (ts : List Token) :
    [separator].intercalate (splitFrom separator depth ts) = ts := by
  induction ts generalizing depth with
  | nil => rfl
  | cons t ts ih =>
    rw [splitFrom]
    split
    · rename_i here
      rw [List.intercalate_cons_of_ne_nil (splitFrom_ne_nil separator 0 ts), ih, here.2]
      rfl
    · rw [intercalate_ontoFirst _ _ (splitFrom_ne_nil separator _ ts), ih]

/-- What stands in front of one of several runs: the runs ahead of it and separators. -/
theorem exists_intercalate_eq (separator : Token) (before : List (List Token)) (run : List Token)
    (after : List (List Token)) :
    ∃ front back, [separator].intercalate (before ++ run :: after) = front ++ (run ++ back) ∧
      ∀ t ∈ front, t = separator ∨ ∃ other ∈ before, t ∈ other := by
  induction before with
  | nil =>
    cases after with
    | nil =>
      refine ⟨[], [], ?_, fun _ mem => nomatch mem⟩
      rw [List.nil_append, List.intercalate_singleton, List.append_nil]
      rfl
    | cons next after =>
      refine ⟨[], separator :: [separator].intercalate (next :: after), ?_,
        fun _ mem => nomatch mem⟩
      rw [List.nil_append, List.intercalate_cons_cons, List.append_assoc]
      rfl
  | cons first before ih =>
    obtain ⟨front, back, split, all⟩ := ih
    refine ⟨first ++ separator :: front, back, ?_, ?_⟩
    · rw [List.cons_append, List.intercalate_cons_of_ne_nil (by simp), split]
      simp
    · intro t mem
      rcases List.mem_append.1 mem with here | mem
      · exact .inr ⟨first, by simp, here⟩
      rcases List.mem_cons.1 mem with same | mem
      · exact .inl same
      · exact (all t mem).imp_right fun ⟨other, hother, ht⟩ => ⟨other, by simp [hother], ht⟩

/-- What stands behind a closing parenthesis does not matter to it. -/
theorem closing?_append_right {depth n : Nat} {ts : List Token} (h : closing? depth ts = some n)
    (back : List Token) : closing? depth (ts ++ back) = some n := by
  induction ts generalizing depth n with
  | nil => cases h
  | cons t ts ih =>
    rw [closing?] at h
    rw [List.cons_append, closing?]
    split
    · rename_i here
      rwa [if_pos here] at h
    · rename_i later
      rw [if_neg later] at h
      obtain ⟨m, hm, rfl⟩ := Option.map_eq_some_iff.1 h
      rw [ih hm]
      rfl

theorem reaches_dropWhile (p : Token → Bool) (ts : List Token) :
    Reaches (p · = true) ts (ts.dropWhile p) := by
  induction ts with
  | nil => exact .refl []
  | cons t ts ih =>
    rw [List.dropWhile_cons]
    split
    · rename_i ht
      exact .cons ht ih
    · exact .refl _

theorem Reaches.dropWhile_eq {p : Token → Bool} {t : Token} {ts rest : List Token}
    (h : Reaches (p · = true) ts (t :: rest)) (ht : p t = false) :
    ts.dropWhile p = t :: rest := by
  obtain ⟨front, rfl, all⟩ := h.exists_front
  rw [List.dropWhile_append_of_pos all, List.dropWhile_cons_of_neg (by simp [ht])]

end Token

/-! ## Clauses -/

namespace Ddl

open Token (Reaches)

/-- The clauses in the first parentheses of a run. -/
def clauses (tokens : List Token) : List (List Token) :=
  let inside := (tokens.dropWhile (· != .leftParen)).tail
  Token.splitTopLevel (inside.take ((Token.closing? 1 inside).getD inside.length))

/-- Whether a clause defines a column. -/
def definesColumn (clause : List Token) : Bool :=
  !clause.head?.any fun first => ColumnHints.constraintKeywords.any first.isKeyword

/-- The column clauses in the text of a table definition. -/
def columnClauses (sql : String) : List (List Token) :=
  (clauses ((Token.scan sql).toOption.getD [])).filter definesColumn

/-! ## The statement of a definition -/

/-- In front of the only statement of a script there are comments and semicolons. -/
theorem reaches_statement {tokens statement : List Token} (h : statements tokens = [statement]) :
    ∃ back, Reaches (· ≠ .leftParen) tokens (statement ++ back) := by
  have comment : ∀ {ts rest}, Reaches (·.isComment = true) ts rest →
      Reaches (· ≠ .leftParen) ts rest := by
    intro ts rest reached
    refine reached.imp ?_
    rintro t comment rfl
    cases comment
  obtain ⟨ignored, others, split, silent, -, -⟩ := List.filter_eq_cons_iff.1 h
  obtain ⟨before, runs, parts, rfl, here⟩ := List.map_eq_append_iff.1 split
  obtain ⟨run, after, rfl, rfl, -⟩ := List.map_eq_cons_iff.1 here
  have whole : tokens = [Token.semicolon].intercalate (before ++ run :: after) := by
    rw [← parts, Token.splitAt]
    split
    · rename_i none
      rw [List.isEmpty_iff.1 none]
      rfl
    · exact (Token.intercalate_splitFrom ..).symm
  obtain ⟨front, back, placed, all⟩ := Token.exists_intercalate_eq .semicolon before run after
  refine ⟨back, ?_⟩
  rw [whole, placed]
  refine (Reaches.append ?_ (run ++ back)).trans ?_
  · -- What is ahead of the statement was dropped for being empty, so it is made of comments only.
    intro t mem
    rcases all t mem with rfl | ⟨other, hother, ht⟩
    · simp
    · have nothing : other.dropWhile Token.isComment = [] := by
        simpa using silent _ (List.mem_map_of_mem hother)
      have reached := comment (Token.reaches_dropWhile Token.isComment other)
      rw [nothing] at reached
      obtain ⟨_, rfl, plain⟩ := reached.exists_front
      exact plain t (by simpa using ht)
  · exact (comment (Token.reaches_dropWhile Token.isComment run)).append_right back

theorem dropWhile_eq_of_reaches {tokens ts : List Token}
    (h : Reaches (· ≠ .leftParen) tokens (.leftParen :: ts)) :
    tokens.dropWhile (· != .leftParen) = .leftParen :: ts := by
  refine Reaches.dropWhile_eq (p := (· != .leftParen)) (h.imp ?_) (by decide)
  simp

/-- The clauses stand between the first opening parenthesis and the one that closes it. -/
theorem clauses_of_reaches {tokens ts : List Token} {n : Nat}
    (opened : Reaches (· ≠ .leftParen) tokens (.leftParen :: ts))
    (closes : Token.closing? 1 ts = some n) :
    clauses tokens = Token.splitTopLevel (ts.take n) := by
  simp only [clauses, dropWhile_eq_of_reaches opened, List.tail_cons, closes, Option.getD_some]

/-- Where the clauses of a table stand in its statement. -/
theorem exists_inside {statement : List Token} {b : Blueprint} (h : readTable statement = .ok b) :
    ∃ ts n engine parts, Reaches (· ≠ .leftParen) statement (.leftParen :: ts) ∧
      Token.closing? 1 ts = some n ∧
        readClauses b.table (Token.splitTopLevel (ts.take n)) = .ok parts ∧
          b = (ofParts b.table engine parts).canonical := by
  obtain ⟨⟨⟨table, inside⟩, rest⟩, head, h⟩ := Except.bind_eq_ok_iff.1 h
  obtain ⟨parts, read, h⟩ := Except.bind_eq_ok_iff.1 h
  cases h
  obtain ⟨table, ts, readHead, head⟩ := Reader.run_bind_eq_ok_iff.1 head
  obtain ⟨inside, rest, readInside, head⟩ := Reader.run_bind_eq_ok_iff.1 head
  cases head
  have opened := (readHead_takesUpTo statement).run readHead
  obtain ⟨n, closes, rfl, rfl⟩ := Reader.groupRest_ensures.run readInside
  exact ⟨ts, n, _, parts, opened, closes, read, rfl⟩

/-- Where the clauses of the only table stand in the text of its definition. -/
theorem exists_definition {sql : String} {b : Blueprint} (h : readOneTable sql = .ok b) :
    ∃ tokens engine parts, Token.scan sql = .ok tokens ∧
      ColumnHints.ofTokens tokens = .ok (ColumnHints.ofClauses (clauses tokens)) ∧
        readClauses b.table (clauses tokens) = .ok parts ∧
          b = (ofParts b.table engine parts).canonical := by
  obtain ⟨bs, read, one⟩ := Except.bind_eq_ok_iff.1 h
  obtain ⟨tokens, scanned, read⟩ := Except.bind_eq_ok_iff.1 read
  have alone : bs = [b] := by
    split at one <;> cases one
    rfl
  rw [alone] at read
  obtain ⟨statement, others, first, none, rest⟩ :=
    List.forall₂_cons_right_iff.1 (Except.mapM_eq_ok_iff.1 read)
  cases none
  obtain ⟨back, reached⟩ := reaches_statement rest
  obtain ⟨ts, n, engine, parts, opened, closes, readParts, same⟩ := exists_inside first
  have behind : Reaches (· ≠ .leftParen) tokens (.leftParen :: (ts ++ back)) :=
    reached.trans (opened.append_right back)
  have closed := Token.closing?_append_right closes back
  have short : n ≤ ts.length := Nat.le_of_lt (Token.closing?_lt closes)
  have inside : clauses tokens = Token.splitTopLevel (ts.take n) := by
    rw [clauses_of_reaches behind closed, List.take_append_of_le_length short]
  refine ⟨tokens, engine, parts, scanned, ?_, by rwa [inside], same⟩
  rw [inside, ColumnHints.ofTokens, dropWhile_eq_of_reaches behind]
  simp only [closed, List.take_append_of_le_length short]

/-! ## Clauses and columns -/

/-- A key of a table is no column. -/
theorem readConstraint_gives (context : String) (name : Option String) :
    (readConstraint context name).Gives fun parts => parts.columns = [] := by
  have key : ∀ {α : Type} {r : Reader α} {f : α → TableParts}, (∀ a, (f a).columns = []) →
      (r >>= fun a => pure (f a)).Gives fun parts => parts.columns = [] :=
    fun h => Reader.Gives.bind fun a => .pure fun _ => h a
  unfold readConstraint
  refine Reader.Gives.bind fun _ => .ite ?primary (Reader.Gives.bind fun _ => .ite ?unique
    (Reader.Gives.bind fun _ => .ite ?foreign (.unexpected _)))
  case primary => exact Reader.Gives.bind fun _ => Reader.Gives.bind fun _ => key fun _ => rfl
  case foreign =>
    exact Reader.Gives.bind fun _ => Reader.Gives.bind fun _ => Reader.Gives.bind fun _ =>
      Reader.Gives.bind fun _ => key fun _ => rfl
  case unique =>
    refine Reader.Gives.bind fun _ => .ite ?_ (Reader.Gives.bind fun _ => ?_)
    all_goals exact Reader.Gives.bind fun _ => Reader.Gives.bind fun _ => key fun _ => rfl

theorem readIndex_gives (context : String) :
    (readIndex context).Gives fun parts => parts.columns = [] :=
  Reader.Gives.bind fun _ => Reader.Gives.bind fun _ => Reader.Gives.bind fun _ =>
    .pure fun _ => rfl

/-- What a clause contributes: the column that it defines, or none. -/
theorem readClause_eq_ok {table : String} {clause : List Token} {parts : TableParts}
    (h : readClause table clause = .ok parts) :
    if definesColumn clause then
      ∃ parsed, readColumn table ("table " ++ table) clause = .ok parsed ∧ parts = .ofColumn parsed
    else parts.columns = [] := by
  have none : ∀ {r : Reader TableParts} {ts : List Token},
      (r.Gives fun parts => parts.columns = []) → (r.run ts).map Prod.fst = .ok parts →
        parts.columns = [] := by
    intro r ts gives read
    obtain ⟨⟨first, rest⟩, done, rfl⟩ := Except.exists_of_map_eq_ok read
    exact gives.run done
  cases clause with
  | nil => cases h
  | cons first rest =>
    have constraint : (∃ w ∈ ColumnHints.constraintKeywords, first.isKeyword w = true) →
        definesColumn (first :: rest) = false := by
      intro found
      rw [definesColumn, Bool.not_eq_false', List.head?_cons, Option.any_some]
      exact List.any_eq_true.2 found
    simp only [readClause, constraintOpeners, List.any_cons, List.any_nil, Bool.or_false,
      Bool.or_eq_true] at h
    split at h
    · rename_i found
      rw [constraint ⟨"constraint", by decide, found⟩]
      exact none (Reader.Gives.bind fun name => readConstraint_gives _ name) h
    rename_i noConstraint
    split at h
    · rename_i found
      rw [constraint]
      · exact none (readConstraint_gives _ _) h
      · rcases found with found | found | found
        · exact ⟨_, by decide, found⟩
        · exact ⟨_, by decide, found⟩
        · exact ⟨_, by decide, found⟩
    rename_i noOpener
    split at h
    · rename_i found
      rw [constraint]
      · exact none (readIndex_gives _) h
      · rcases found with found | found
        · exact ⟨_, by decide, found⟩
        · exact ⟨_, by decide, found⟩
    rename_i noIndex
    split at h
    · rename_i found
      rw [constraint ⟨"check", by decide, found⟩]
      cases h
      rfl
    rename_i noCheck
    split at h
    · cases h
    rename_i noText
    -- The two readers ask for the same keywords, in different orders.
    have column : definesColumn (first :: rest) = true := by
      simp_all [definesColumn, ColumnHints.constraintKeywords]
    rw [column]
    obtain ⟨parsed, read, rfl⟩ := Except.exists_of_map_eq_ok h
    exact ⟨parsed, read, rfl⟩

/-- The column clauses of a table contribute its columns. -/
theorem forall₂_readClauses {table : String} {clauses : List (List Token)} {parts : TableParts}
    (h : readClauses table clauses = .ok parts) :
    List.Forall₂ (fun clause (c : Column) => ∃ parsed, definesColumn clause = true ∧
        readColumn table ("table " ++ table) clause = .ok parsed ∧ c = parsed.described)
      (clauses.filter definesColumn) parts.columns := by
  induction clauses generalizing parts with
  | nil =>
    cases h
    exact .nil
  | cons clause clauses ih =>
    rw [readClauses] at h
    split at h
    · cases h
    rename_i first readFirst
    obtain ⟨others, readOthers, rfl⟩ := Except.exists_of_map_eq_ok h
    have contributed := readClause_eq_ok readFirst
    rw [List.filter_cons]
    split at contributed
    · rename_i column
      obtain ⟨parsed, read, rfl⟩ := contributed
      rw [if_pos column]
      exact .cons ⟨parsed, column, read, rfl⟩ (ih readOthers)
    · rename_i other
      have columns : (first.append others).columns = others.columns := by
        rw [TableParts.append, contributed, List.nil_append]
      rw [if_neg other, columns]
      exact ih readOthers

/-- The column clauses of a table are read as its columns, in order; the canonical form does no more
than give them a role. -/
theorem forall₂_of_readClauses {clauses : List (List Token)} {engine : Option String}
    {parts : TableParts} {b : Blueprint} (read : readClauses b.table clauses = .ok parts)
    (same : b = (ofParts b.table engine parts).canonical) :
    List.Forall₂ (fun clause (c : Column) => ∃ parsed, definesColumn clause = true ∧
        readColumn b.table ("table " ++ b.table) clause = .ok parsed ∧ parsed.described.Gains c)
      (clauses.filter definesColumn) b.columns := by
  have columns := (ofParts b.table engine parts).gains_canonical
  rw [← same] at columns
  refine (forall₂_exists_iff.2 ⟨_, forall₂_readClauses read, columns⟩).imp ?_
  rintro clause c ⟨plain, ⟨parsed, column, read, rfl⟩, gains⟩
  exact ⟨parsed, column, read, gains⟩

/-- Every column clause of a statement is read as one column, in order. -/
theorem forall₂_readTable {statement : List Token} {b : Blueprint}
    (h : readTable statement = .ok b) :
    List.Forall₂ (fun clause (c : Column) => ∃ parsed, definesColumn clause = true ∧
        readColumn b.table ("table " ++ b.table) clause = .ok parsed ∧ parsed.described.Gains c)
      ((clauses statement).filter definesColumn) b.columns := by
  obtain ⟨ts, n, engine, parts, opened, closes, read, same⟩ := exists_inside h
  rw [← clauses_of_reaches opened closes] at read
  exact forall₂_of_readClauses read same

/-- Every column clause in the text of one definition is read as one column, in order. -/
theorem forall₂_columnClauses {sql : String} {b : Blueprint} (h : readOneTable sql = .ok b) :
    List.Forall₂ (fun clause (c : Column) => ∃ parsed, definesColumn clause = true ∧
        readColumn b.table ("table " ++ b.table) clause = .ok parsed ∧ parsed.described.Gains c)
      (columnClauses sql) b.columns := by
  obtain ⟨tokens, engine, parts, scanned, -, read, same⟩ := exists_definition h
  rw [columnClauses, scanned]
  exact forall₂_of_readClauses read same

/-- What the reader of a column clause has read. -/
theorem exists_of_readColumn {table context : String} {clause : List Token} {parsed : ColumnClause}
    (h : readColumn table context clause = .ok parsed) :
    ∃ first tail spec rest, clause = first :: tail ∧ first.name? = some parsed.column.name ∧
      TypeSpec.read.run tail = .ok (spec, rest) ∧
        spec.applyMySql? { name := parsed.column.name, type := .text } = some parsed.column ∧
          readOptions context rest = .ok parsed.options := by
  obtain ⟨⟨name, tail⟩, readName, named⟩ := Except.bind_eq_ok_iff.1 h
  obtain ⟨⟨spec, rest⟩, readType, typed⟩ := Except.bind_eq_ok_iff.1 named
  obtain ⟨first, rfl, firstName⟩ := (Reader.name_ensures context).run readName
  dsimp only at typed
  split at typed
  · cases typed
  rename_i column given
  obtain ⟨options, readRest, done⟩ := Except.bind_eq_ok_iff.1 typed
  cases done
  have same : column.name = name := TypeSpec.applyMySql?_name given
  refine ⟨first, tail, spec, rest, rfl, ?_, readType, ?_, readRest⟩
  · rw [same]
    exact firstName
  · rw [same]
    exact given

end Ddl

end SchemaShift
