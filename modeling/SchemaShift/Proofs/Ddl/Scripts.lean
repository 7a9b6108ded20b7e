import SchemaShift.Proofs.Ddl.LineEnds
import SchemaShift.Proofs.Ddl.Trailing

/-!
# Scripts one behind the other

Two scripts with a line `;` between them are one script. Its statements are those of the first and
those of the second, unless the first leaves a parenthesis open: what stands behind the clauses of
a table is passed over, so such a script is read without a complaint, and the semicolon behind it
then separates nothing.

Results:
* `exists_splitFrom_append`: how a run is split whose two parts are split apart.
* `countP_tail_splitFrom_lt`: a run that starts inside a parenthesis has fewer statements.
* `length_statements_append_lt`: behind an open parenthesis a statement is lost.
* `readTables_append_iff`: two scripts are read as what they hold together exactly when the second
  holds nothing or the first leaves no parenthesis open.

**Deviation.** The parenthesis that closes the clauses of a table is looked for and reported when
it is missing. One that is opened behind them is not: `not_forall_readTables_append`.
-/

namespace SchemaShift

/-! ## Splitting a run in two -/

namespace Token

/-- How deep parentheses are open behind a run. -/
def depthBehind (depth : Nat) (ts : List Token) : Nat := ts.foldl depthAfter depth

@[simp] theorem depthBehind_nil (depth : Nat) : depthBehind depth [] = depth := rfl

@[simp] theorem depthBehind_cons (depth : Nat) (t : Token) (ts : List Token) :
    depthBehind depth (t :: ts) = depthBehind (depthAfter depth t) ts := rfl

theorem depthBehind_of_forall {ts : List Token} (h : ∀ t ∈ ts, t ≠ leftParen ∧ t ≠ rightParen)
    (depth : Nat) : depthBehind depth ts = depth := by
  induction ts with
  | nil => rfl
  | cons t ts ih =>
    obtain ⟨⟨left, right⟩, others⟩ := List.forall_mem_cons.1 h
    rw [depthBehind_cons, depthAfter_of_ne left right, ih others]

theorem not_paren_of_isComment {t : Token} (h : t.isComment = true) :
    t ≠ leftParen ∧ t ≠ rightParen := by
  constructor <;> (rintro rfl; cases h)

theorem depthAfter_of_isComment {t : Token} (h : t.isComment = true) (depth : Nat) :
    depthAfter depth t = depth :=
  have ⟨left, right⟩ := not_paren_of_isComment h
  depthAfter_of_ne left right depth

theorem depthAfter_mono {d e : Nat} (h : e ≤ d) (t : Token) : depthAfter e t ≤ depthAfter d t := by
  unfold depthAfter
  split <;> omega

@[simp] theorem tail_ontoFirst (t : Token) (parts : List (List Token)) :
    (ontoFirst t parts).tail = parts.tail := by
  cases parts <;> rfl

/-- The last part of a run and the first part of the run behind it are one part. -/
theorem exists_splitFrom_append {separator : Token} (left : separator ≠ leftParen) (depth : Nat)
    (xs ys : List Token) :
    ∃ front last first back, splitFrom separator depth xs = front ++ [last] ∧
      splitFrom separator (depthBehind depth xs) ys = first :: back ∧
        splitFrom separator depth (xs ++ ys) = front ++ (last ++ first) :: back ∧
          depthBehind (if front = [] then depth else 0) last = depthBehind depth xs := by
  induction xs generalizing depth with
  | nil =>
    obtain ⟨first, back, split⟩ :=
      List.exists_cons_of_ne_nil (splitFrom_ne_nil separator depth ys)
    exact ⟨[], [], first, back, rfl, split, split, rfl⟩
  | cons x xs ih =>
    by_cases here : depth = 0 ∧ x = separator
    · obtain ⟨rfl, rfl⟩ := here
      have stays : depthAfter 0 x = 0 := by
        unfold depthAfter
        split <;> first | contradiction | rfl
      obtain ⟨front, last, first, back, splitXs, splitYs, split, depths⟩ := ih 0
      refine ⟨[] :: front, last, first, back, ?_, ?_, ?_, ?_⟩
      · rw [splitFrom_separator, splitXs, List.cons_append]
      · rwa [depthBehind_cons, stays]
      · rw [List.cons_append, splitFrom_separator, split, List.cons_append]
      · simpa [stays] using depths
    · obtain ⟨front, last, first, back, splitXs, splitYs, split, depths⟩ := ih (depthAfter depth x)
      cases front with
      | nil =>
        refine ⟨[], x :: last, first, back, ?_, splitYs, ?_, ?_⟩
        · rw [splitFrom, if_neg here, splitXs]
          rfl
        · rw [List.cons_append, splitFrom, if_neg here, split]
          rfl
        · simpa using depths
      | cons part front =>
        refine ⟨(x :: part) :: front, last, first, back, ?_, splitYs, ?_, ?_⟩
        · rw [splitFrom, if_neg here, splitXs]
          rfl
        · rw [List.cons_append, splitFrom, if_neg here, split]
          rfl
        · simpa using depths

/-- The parts behind the first one are fewer for a run that starts deeper. -/
theorem tail_splitFrom_suffix (separator : Token) (ts : List Token) :
    ∀ {d e : Nat}, e ≤ d →
      (splitFrom separator d ts).tail <:+ (splitFrom separator e ts).tail := by
  induction ts with
  | nil => exact fun _ => List.suffix_rfl
  | cons t ts ih =>
    intro d e h
    have deeper := ih (depthAfter_mono h t)
    by_cases deep : d = 0 ∧ t = separator
    · obtain ⟨rfl, rfl⟩ := deep
      obtain rfl := Nat.le_zero.1 h
      exact List.suffix_rfl
    by_cases shallow : e = 0 ∧ t = separator
    · obtain ⟨rfl, rfl⟩ := shallow
      rw [splitFrom, if_neg deep, tail_ontoFirst, splitFrom_separator, List.tail_cons]
      exact (ih (Nat.zero_le _)).trans (List.tail_suffix _)
    · rw [splitFrom, if_neg deep, tail_ontoFirst, splitFrom, if_neg shallow, tail_ontoFirst]
      exact deeper

end Token

/-! ## Statements -/

namespace Ddl

open Token (splitFrom depthBehind ontoFirst)

/-- Whether a part of a script holds more than comments. -/
def isSpoken (part : List Token) : Bool := part.any (!·.isComment)

/-- The statements that the parts of a script hold. -/
def spoken (parts : List (List Token)) : List (List Token) :=
  (parts.map (List.dropWhile Token.isComment)).filter fun statement => !statement.isEmpty

theorem statements_eq_spoken (tokens : List Token) :
    statements tokens = spoken (splitFrom .semicolon 0 tokens) := by
  cases tokens <;> rfl

theorem spoken_append (xs ys : List (List Token)) : spoken (xs ++ ys) = spoken xs ++ spoken ys := by
  rw [spoken, List.map_append, List.filter_append]
  rfl

theorem isEmpty_dropWhile_isComment (part : List Token) :
    (part.dropWhile Token.isComment).isEmpty = !isSpoken part := by
  induction part with
  | nil => rfl
  | cons t ts ih => by_cases ht : t.isComment <;> simp_all [isSpoken]

theorem spoken_cons (part : List Token) (parts : List (List Token)) :
    spoken (part :: parts) =
      (if isSpoken part then [part.dropWhile Token.isComment] else []) ++ spoken parts := by
  rw [spoken, List.map_cons, List.filter_cons, isEmpty_dropWhile_isComment, Bool.not_not]
  split <;> rfl

theorem length_spoken (parts : List (List Token)) :
    (spoken parts).length = parts.countP isSpoken := by
  induction parts with
  | nil => rfl
  | cons part parts ih =>
    rw [spoken_cons, List.length_append, ih, List.countP_cons]
    split <;> simp [Nat.add_comm]

theorem countP_ontoFirst (t : Token) (parts : List (List Token)) :
    (ontoFirst t parts).countP isSpoken =
      if t.isComment then parts.countP isSpoken else parts.tail.countP isSpoken + 1 := by
  cases parts <;> by_cases ht : t.isComment <;>
    simp [ontoFirst, isSpoken, List.countP_cons, ht]

/-- A run that starts inside a parenthesis has fewer statements behind its first part than it has
where no parenthesis is open. -/
theorem countP_tail_splitFrom_lt (ts : List Token) :
    ∀ {d e : Nat}, 0 < d → e ≤ d → (splitFrom .semicolon e ts).countP isSpoken ≠ 0 →
      (splitFrom .semicolon d ts).tail.countP isSpoken <
        (splitFrom .semicolon e ts).countP isSpoken := by
  induction ts with
  | nil => exact fun _ _ some => absurd rfl some
  | cons t ts ih =>
    intro d e inside h some
    have deep : splitFrom .semicolon d (t :: ts) =
        ontoFirst t (splitFrom .semicolon (Token.depthAfter d t) ts) := by
      rw [splitFrom, if_neg (by omega)]
    rw [deep, Token.tail_ontoFirst]
    by_cases here : e = 0 ∧ t = .semicolon
    · obtain ⟨rfl, rfl⟩ := here
      rw [Token.splitFrom_separator] at some ⊢
      exact ih inside (Nat.zero_le d) some
    have shallow : splitFrom .semicolon e (t :: ts) =
        ontoFirst t (splitFrom .semicolon (Token.depthAfter e t) ts) := by
      rw [splitFrom, if_neg here]
    rw [shallow, countP_ontoFirst] at some ⊢
    by_cases comment : t.isComment = true
    · rw [if_pos comment, Token.depthAfter_of_isComment comment] at some ⊢
      rw [Token.depthAfter_of_isComment comment]
      exact ih inside h some
    · -- The token is spoken in the first part of both, and behind it the deeper run has no more.
      have fewer := (Token.tail_splitFrom_suffix .semicolon ts
        (Token.depthAfter_mono h t)).sublist.countP_le (p := isSpoken)
      rw [if_neg comment]
      omega

/-- A script without statements holds comments and semicolons only. -/
theorem isQuiet_of_statements_eq_nil {tokens : List Token} (h : statements tokens = []) :
    ∀ t ∈ tokens, IsQuiet t := by
  replace h : (splitFrom .semicolon 0 tokens).countP isSpoken = 0 := by
    rw [← length_spoken, ← statements_eq_spoken, h, List.length_nil]
  induction tokens with
  | nil => exact fun _ mem => nomatch mem
  | cons t ts ih =>
    by_cases separator : t = .semicolon
    · subst separator
      rw [Token.splitFrom_separator] at h
      exact List.forall_mem_cons.2 ⟨.inr rfl, ih h⟩
    rw [splitFrom, if_neg (fun both => separator both.2), countP_ontoFirst] at h
    split at h
    · rename_i comment
      rw [Token.depthAfter_of_isComment comment] at h
      exact List.forall_mem_cons.2 ⟨.inl comment, ih h⟩
    · omega

/-- Comments and semicolons inside a parenthesis stay together. -/
theorem splitFrom_of_forall {depth : Nat} (h : 0 < depth) {ts : List Token}
    (quiet : ∀ t ∈ ts, IsQuiet t) : splitFrom .semicolon depth ts = [ts] := by
  obtain ⟨outer, rfl⟩ := Nat.exists_eq_succ_of_ne_zero h.ne'
  have plain : Token.Nested (fun _ => True) ts := Token.nested_of_forall fun t mem => by
    rcases quiet t mem with comment | rfl
    · have ⟨left, right⟩ := Token.not_paren_of_isComment comment
      exact ⟨left, right, trivial⟩
    · simp
  have together : splitFrom .semicolon (outer + 1) (ts ++ []) =
      ts.foldr ontoFirst (splitFrom .semicolon (outer + 1) []) :=
    Token.splitFrom_inside plain outer []
  rw [List.append_nil, splitFrom, Token.foldr_ontoFirst, List.append_nil] at together
  exact together

/-! ## Two scripts -/

/-- The parentheses that a script leaves open. -/
def openDepth (sql : String) : Nat := depthBehind 0 ((Token.scan sql).toOption.getD [])

theorem semicolon_ne_leftParen : Token.semicolon ≠ .leftParen := by decide

theorem scan_append {a b : String} {ta tb : List Token} (ha : Token.scan a = .ok ta)
    (hb : Token.scan b = .ok tb) :
    Token.scan (a ++ "\n;\n" ++ b) = .ok (ta ++ .semicolon :: tb) := by
  have line : Token.scanChars ('\n' :: b.toList) = .ok tb := by
    have := Token.scanChars_append_newline Token.scanChars_nil b.toList
    rw [List.nil_append] at this
    rw [this, show Token.scanChars b.toList = .ok tb from hb]
    rfl
  have text : (a ++ "\n;\n" ++ b).toList = a.toList ++ '\n' :: ';' :: '\n' :: b.toList := by simp
  rw [Token.scan, text, Token.scanChars_append_newline ha,
    Token.scanChars_cons (Token.scanOne_punctuation (t := .semicolon) rfl _), line]
  rfl

/-- Where no parenthesis is open, a semicolon ends the statements in front of it. -/
theorem statements_append_of_closed {ta : List Token} (h : depthBehind 0 ta = 0)
    (tb : List Token) :
    statements (ta ++ .semicolon :: tb) = statements ta ++ statements tb := by
  obtain ⟨front, last, first, back, splitA, splitB, split, -⟩ :=
    Token.exists_splitFrom_append semicolon_ne_leftParen 0 ta (.semicolon :: tb)
  rw [h, Token.splitFrom_separator] at splitB
  cases splitB
  rw [statements_eq_spoken, statements_eq_spoken, statements_eq_spoken, split, splitA,
    List.append_nil, List.append_cons, spoken_append]

/-- Where one is open, the last statement goes on behind it. -/
theorem exists_statements_append_of_open {ta : List Token} (h : 0 < depthBehind 0 ta)
    (tb : List Token) :
    ∃ before last first back, statements ta = before ++ [last] ∧
      splitFrom .semicolon (depthBehind 0 ta) tb = first :: back ∧
        statements (ta ++ .semicolon :: tb) =
          before ++ (last ++ .semicolon :: first) :: spoken back := by
  obtain ⟨front, last, whole, back, splitA, splitB, split, depths⟩ :=
    Token.exists_splitFrom_append semicolon_ne_leftParen 0 ta (.semicolon :: tb)
  rw [ite_self] at depths
  obtain ⟨first, behind, splitTail⟩ := List.exists_cons_of_ne_nil
    (Token.splitFrom_ne_nil .semicolon (depthBehind 0 ta) tb)
  have stays : Token.depthAfter (depthBehind 0 ta) .semicolon = depthBehind 0 ta :=
    Token.depthAfter_of_ne (by decide) (by decide) _
  rw [splitFrom, if_neg (fun closed => h.ne' closed.1), stays, splitTail] at splitB
  cases splitB
  -- Comments open no parenthesis, so the part with the open one is a statement.
  have open' : isSpoken last = true := by
    by_contra silent
    have plain : ∀ t ∈ last, t ≠ .leftParen ∧ t ≠ .rightParen := by
      intro t mem
      have comment : t.isComment = true := by
        simp only [isSpoken, List.any_eq_true, not_exists, not_and] at silent
        simpa using silent t mem
      exact Token.not_paren_of_isComment comment
    rw [Token.depthBehind_of_forall plain] at depths
    omega
  have kept : (last ++ .semicolon :: first).dropWhile Token.isComment =
      last.dropWhile Token.isComment ++ .semicolon :: first := by
    rw [List.dropWhile_append, isEmpty_dropWhile_isComment, open']
    rfl
  have longer : isSpoken (last ++ .semicolon :: first) = true := by
    rw [isSpoken, List.any_append, Bool.or_eq_true]
    exact .inl open'
  refine ⟨spoken front, last.dropWhile Token.isComment, first, back, ?_, splitTail, ?_⟩
  · rw [statements_eq_spoken, splitA, spoken_append, spoken_cons, if_pos open']
    rfl
  · rw [statements_eq_spoken, split, spoken_append, spoken_cons, if_pos longer, kept]
    rfl

/-- So the two have fewer statements together than apart, if there are any behind it. -/
theorem length_statements_append_lt {ta tb : List Token} (h : 0 < depthBehind 0 ta)
    (some : statements tb ≠ []) :
    (statements (ta ++ .semicolon :: tb)).length <
      (statements ta).length + (statements tb).length := by
  obtain ⟨before, last, first, back, splitA, splitB, split⟩ :=
    exists_statements_append_of_open h tb
  have count : (statements tb).length = (splitFrom .semicolon 0 tb).countP isSpoken := by
    rw [statements_eq_spoken, length_spoken]
  have fewer := countP_tail_splitFrom_lt tb h (Nat.zero_le _)
    (by rwa [← count, ne_eq, List.length_eq_zero_iff])
  rw [splitB, List.tail_cons, ← count] at fewer
  rw [split, splitA]
  simp only [List.length_append, List.length_cons, List.length_nil, length_spoken]
  omega

theorem readTables_eq_ok_iff {sql : String} {bs : List Blueprint} :
    readTables sql = .ok bs ↔ ∃ tokens, Token.scan sql = .ok tokens ∧
      List.Forall₂ (fun statement b => readTable statement = .ok b) (statements tokens) bs := by
  rw [readTables, Except.bind_eq_ok_iff]
  simp only [Except.mapM_eq_ok_iff]

/-- The last of two related lists may be changed to one that is related to the same. -/
theorem forall₂_concat_of {α β : Type} {R : α → β → Prop} {as : List α} {a a' : α} {bs : List β}
    (h : ∀ b, R a b → R a' b) (all : List.Forall₂ R (as ++ [a]) bs) :
    List.Forall₂ R (as ++ [a']) (bs ++ []) := by
  rw [← List.forall₂_reverse_iff] at all ⊢
  simp only [List.append_nil, List.reverse_append, List.reverse_singleton, List.singleton_append]
    at all ⊢
  obtain ⟨b, others, last, rest, same⟩ := List.forall₂_cons_left_iff.1 all
  rw [same]
  exact .cons (h b last) rest

/-- Two scripts with a line `;` between them are read as what they hold together exactly when the
second holds no statement or the first leaves no parenthesis open. -/
theorem readTables_append_iff {a b : String} {xs ys : List Blueprint}
    (ha : readTables a = .ok xs) (hb : readTables b = .ok ys) :
    readTables (a ++ "\n;\n" ++ b) = .ok (xs ++ ys) ↔ ys = [] ∨ openDepth a = 0 := by
  obtain ⟨ta, scanA, readA⟩ := readTables_eq_ok_iff.1 ha
  obtain ⟨tb, scanB, readB⟩ := readTables_eq_ok_iff.1 hb
  have depth : openDepth a = depthBehind 0 ta := by
    rw [openDepth, scanA]
    rfl
  have whole : readTables (a ++ "\n;\n" ++ b) = .ok (xs ++ ys) ↔
      List.Forall₂ (fun statement b => readTable statement = .ok b)
        (statements (ta ++ .semicolon :: tb)) (xs ++ ys) := by
    rw [readTables_eq_ok_iff, scan_append scanA scanB]
    simp
  rw [whole, depth]
  by_cases closed : depthBehind 0 ta = 0
  · rw [statements_append_of_closed closed]
    exact ⟨fun _ => .inr closed, fun _ => List.rel_append readA readB⟩
  have inside : 0 < depthBehind 0 ta := Nat.pos_of_ne_zero closed
  constructor
  · intro read
    refine .inl ?_
    by_contra some
    have behind : statements tb ≠ [] := by
      intro none
      rw [none] at readB
      exact some (List.forall₂_nil_left_iff.1 readB)
    have fewer := length_statements_append_lt inside behind
    rw [read.length_eq, readA.length_eq, readB.length_eq, List.length_append] at fewer
    exact Nat.lt_irrefl _ fewer
  · rintro (rfl | none)
    · have quiet := isQuiet_of_statements_eq_nil (List.forall₂_nil_right_iff.1 readB)
      obtain ⟨before, last, first, back, splitA, splitB, split⟩ :=
        exists_statements_append_of_open inside tb
      rw [splitFrom_of_forall inside quiet] at splitB
      cases splitB
      rw [splitA] at readA
      rw [split]
      exact forall₂_concat_of (fun b read => readTable_append read
        (List.forall_mem_cons.2 ⟨.inr rfl, quiet⟩)) readA
    · exact absurd none closed

/-- A table with a column `id`, as it is read. -/
def idTable (name : String) : Blueprint :=
  { table := name, columns := [{ name := "id", type := .integer, nullable := true }],
    commands := [.create] }

/-- A table with a line comment behind it. -/
def remarkedScript : String := "CREATE TABLE teams (id int) -- it's (1"

/-- A table with an option that opens a parenthesis. -/
def unclosedScript : String := "CREATE TABLE teams (id int) # see (1"

def membersScript : String := "CREATE TABLE members (id int)"

/-- A quote and a parenthesis in a line comment open nothing. -/
theorem readTables_append_iff_remarked :
    readTables remarkedScript = .ok [idTable "teams"] ∧
      readTables membersScript = .ok [idTable "members"] ∧
        readTables (remarkedScript ++ "\n;\n" ++ membersScript) =
          .ok [idTable "teams", idTable "members"] := by
  have teams : readTables remarkedScript = .ok [idTable "teams"] := by decide +kernel
  have members : readTables membersScript = .ok [idTable "members"] := by decide +kernel
  exact ⟨teams, members, (readTables_append_iff teams members).2 (.inr (by decide +kernel))⟩

/-- A parenthesis among the table options swallows the table behind it. -/
theorem not_forall_readTables_append :
    ¬ ∀ a b xs ys, readTables a = .ok xs → readTables b = .ok ys →
      readTables (a ++ "\n;\n" ++ b) = .ok (xs ++ ys) := by
  intro composes
  have swallowed : readTables (unclosedScript ++ "\n;\n" ++ membersScript) =
      .ok [idTable "teams"] := by decide +kernel
  have both := composes unclosedScript membersScript [idTable "teams"] [idTable "members"]
    (by decide +kernel) (by decide +kernel)
  rw [swallowed] at both
  exact absurd both (by decide)

end Ddl

end SchemaShift
