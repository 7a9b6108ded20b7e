import SchemaShift.Proofs.Ddl.Literals
import SchemaShift.Proofs.Except

/-!
# Tokens written out again

The text of a token shows it as it may have been written. Texts of tokens with blanks between them
are read as the same tokens, but for two kinds: an identifier that holds a backtick ends at it,
since backticks are not doubled in its text, and a string loses its backslashes, since they are not
escaped in its text.

Results:
* `isLexeme_of_scan`: what the tokens of a text are.
* `eq_of_scanQuoted`, `eq_of_scanComment`: what stands in a text that is read as quoted or as a
  comment.
* `lexes_text`, `scanChars_text_ne`: the texts that are read as their tokens, and those that are
  not.
* `scan_spaced_eq_iff`: the lists of tokens that are read again from their texts.
-/

namespace SchemaShift

/-! ## Trimmed texts -/

namespace Text

theorem trimChars_prefix_dropBlanks (cs : List Char) : trimChars cs <+: dropBlanks cs := by
  rw [← List.reverse_suffix, trimChars, List.reverse_reverse]
  exact List.dropWhile_suffix _

theorem trimChars_infix (cs : List Char) : trimChars cs <:+: cs := by
  have behind : dropBlanks cs <:+ cs := List.dropWhile_suffix _
  exact (trimChars_prefix_dropBlanks cs).isInfix.trans behind.isInfix

/-- A trimmed text has no blanks at its ends. -/
theorem trimChars_trimChars (cs : List Char) : trimChars (trimChars cs) = trimChars cs := by
  have first : ∀ ds : List Char, ∀ c ∈ (dropBlanks ds).head?, isBlank c = false := by
    intro ds c hc
    have head := List.head?_dropWhile_not isBlank ds
    rw [Option.mem_def, dropBlanks] at hc
    rwa [hc] at head
  apply trimChars_of_ends
  · intro c hc
    obtain ⟨rest, within⟩ := trimChars_prefix_dropBlanks cs
    refine first cs c ?_
    rw [← within]
    cases trimmed : trimChars cs with
    | nil => simp [trimmed] at hc
    | cons d ds => simpa [trimmed] using hc
  · intro c hc
    rw [trimChars, List.getLast?_reverse] at hc
    exact first _ c hc

theorem StaysInComment.of_infix {a b : List Char} (h : StaysInComment b) (within : a <:+: b) :
    StaysInComment a := fun ends => h (ends.trans within)

end Text

namespace Token

open Text (StaysInComment)

/-! ## What is read -/

/-- Quoted text without escapes stands there with its quotes doubled. -/
theorem eq_of_scanQuoted {q : Char} {cs text rest : List Char}
    (h : scanQuoted q false cs = some (text, rest)) :
    cs = Text.doubled q text ++ q :: rest := by
  fun_induction scanQuoted q false cs generalizing text with
  | case1 => cases h
  | case2 =>
    cases h
    rfl
  | case3 => cases h
  | case4 c d tail escaped => exact absurd escaped.1 Bool.false_ne_true
  | case5 tail _ ih =>
    obtain ⟨t, found, rfl⟩ := map_cons_eq_some_iff.1 h
    rw [Text.doubled_cons_self, ih found]
    rfl
  | case6 d tail =>
    cases h
    rfl
  | case7 c d tail _ other ih =>
    obtain ⟨t, found, rfl⟩ := map_cons_eq_some_iff.1 h
    rw [Text.doubled_cons_of_ne other, ih found]
    rfl

/-- A comment stands there up to its first end. -/
theorem eq_of_scanComment {cs text rest : List Char} (h : scanComment cs = some (text, rest)) :
    cs = text ++ '*' :: '/' :: rest ∧ StaysInComment text := by
  fun_induction scanComment cs generalizing text with
  | case1 =>
    cases h
    exact ⟨rfl, by decide⟩
  | case2 c tail early ih =>
    obtain ⟨t, found, rfl⟩ := map_cons_eq_some_iff.1 h
    obtain ⟨rfl, stays⟩ := ih found
    refine ⟨rfl, Text.staysInComment_cons.2 ⟨fun star slash => ?_, stays⟩⟩
    cases t with
    | nil => cases slash
    | cons d t =>
      cases slash
      exact early _ star rfl
  | case3 => cases h

/-! ## Lexemes -/

/-- A character that is a token of its own, whatever follows it. -/
def isSymbol (c : Char) : Bool :=
  !Text.isBlank c && (punctuation? c).isNone && !c.isDigit && !startsWord c &&
    !(c == Text.backtick || c == Text.doubleQuote || c == Text.singleQuote)

/-- What the tokens of a text are, by their kind. -/
def IsLexeme : Token → Prop
  | word w => isBareWord w = true
  | number n => isWrittenNumber n = true
  | comment body => StaysInComment body.toList ∧ Text.trimChars body.toList = body.toList
  | symbol c => isSymbol c = true
  | _ => True

theorem all_takeWhile {α : Type} (p : α → Bool) (as : List α) : (as.takeWhile p).all p = true := by
  simp

theorem isLexeme_of_scanOne {c : Char} {rest left : List Char} {t : Token}
    (h : scanOne c rest = .ok (some t, left)) : t.IsLexeme := by
  have quoted : ∀ (token : String → Token) {q escapes}, (∀ s, (token s).IsLexeme) →
      quotedToken q escapes token rest = .ok (some t, left) → t.IsLexeme := by
    intro token q escapes all h
    unfold quotedToken at h
    split at h <;> cases h
    exact all _
  unfold scanOne at h
  split at h
  · cases h
  rename_i blank
  split at h
  · cases h
  split at h
  · unfold commentToken at h
    split at h <;> cases h
    rename_i found
    obtain ⟨-, stays⟩ := eq_of_scanComment found
    simp only [IsLexeme, String.toList_ofList]
    exact ⟨stays.of_infix (Text.trimChars_infix _), Text.trimChars_trimChars _⟩
  split at h
  · exact quoted ident (fun _ => trivial) h
  rename_i noIdent
  split at h
  · exact quoted str (fun _ => trivial) h
  rename_i noString
  split at h
  · rename_i found
    cases h
    unfold punctuation? at found
    split at found <;> cases found <;> trivial
  rename_i plain
  split at h
  · rename_i starts
    cases h
    have first : (c.isDigit || (c == '.' &&
        (rest.takeWhile inNumber).head?.any Char.isDigit)) = true := by
      rw [Bool.or_eq_true, Bool.and_eq_true, beq_iff_eq]
      refine starts.imp_right fun both => ⟨both.1, ?_⟩
      have digit := both.2
      cases rest with
      | nil => cases digit
      | cons d rest =>
        have digit : d.isDigit = true := digit
        simp [inNumber, digit]
    simp only [IsLexeme, isWrittenNumber, String.toList_ofList, first, all_takeWhile,
      Bool.and_self]
  rename_i noNumber
  split at h
  · rename_i starts
    cases h
    simp only [IsLexeme, isBareWord, String.toList_ofList, starts, all_takeWhile, Bool.and_self]
  · rename_i noWord
    cases h
    rw [not_or] at noIdent noNumber
    simp [IsLexeme, isSymbol, blank, plain, noNumber.1, noWord, noIdent, noString]

theorem isLexeme_of_scanChars {cs : List Char} {ts : List Token} (h : scanChars cs = .ok ts) :
    ∀ t ∈ ts, t.IsLexeme := by
  fun_induction scanChars cs generalizing ts with
  | case1 =>
    cases h
    exact fun _ mem => nomatch mem
  | case2 => cases h
  | case3 => cases h
  | case4 c rest t left first others found ih =>
    cases h
    intro u mem
    rcases List.mem_append.1 mem with here | mem
    · obtain rfl := Option.mem_toList.1 here
      exact isLexeme_of_scanOne first
    · exact ih found u mem

/-- What the tokens of a text are. -/
theorem isLexeme_of_scan {sql : String} {ts : List Token} (h : scan sql = .ok ts) :
    ∀ t ∈ ts, t.IsLexeme := isLexeme_of_scanChars h

/-! ## Texts that are read as their tokens -/

/-- A token whose text holds what its reader takes for something else nowhere: no backtick in an
identifier and no backslash in a string. -/
def Recurs : Token → Prop
  | ident name => Text.backtick ∉ name.toList
  | str value => '\\' ∉ value.toList
  | _ => True

instance : DecidablePred Recurs
  | ident name => inferInstanceAs (Decidable (Text.backtick ∉ name.toList))
  | str value => inferInstanceAs (Decidable ('\\' ∉ value.toList))
  | word _ | number _ | comment _ | leftParen | rightParen | comma | semicolon | symbol _ =>
    inferInstanceAs (Decidable True)

/-- A symbol is one token. -/
theorem lexes_symbol {c : Char} (h : isSymbol c = true) : Lexes [c] [symbol c] := by
  refine lexes_of_scanOne (some (symbol c)) [] ?_ lexes_nil
  intro rest hrest
  simp only [isSymbol, Bool.and_eq_true, Bool.not_eq_true', Bool.or_eq_false_iff,
    beq_eq_false_iff_ne, Option.isNone_iff_eq_none] at h
  obtain ⟨⟨⟨⟨blank, plain⟩, digit⟩, letter⟩, ⟨backtick, double⟩, single⟩ := h
  have alone : ¬ (c = '.' ∧ rest.head?.any Char.isDigit = true) := by
    rintro ⟨-, next⟩
    cases rest with
    | nil => cases next
    | cons d rest =>
      have digit : d.isDigit = true := next
      have ends := not_inNumber_of_endsToken (hrest d rfl)
      rw [inNumber, digit] at ends
      cases ends
  have dash : rest.head? ≠ some '-' := head?_ne_of_follows hrest (by decide)
  have star : rest.head? ≠ some '*' := head?_ne_of_follows hrest (by decide)
  rw [List.nil_append]
  unfold scanOne
  rw [if_neg (by simp [blank]), if_neg fun both => dash both.2, if_neg fun both => star both.2,
    if_neg fun either => either.elim backtick double, if_neg single, plain]
  dsimp only
  rw [if_neg (by simp [digit, alone]), if_neg (by simp [letter])]

/-- The text of a token that recurs is read as the token. -/
theorem lexes_text {t : Token} (lexeme : t.IsLexeme) (recurs : t.Recurs) :
    Lexes t.text.toList [t] := by
  cases t with
  | word w => exact lexes_word lexeme
  | number n => exact lexes_writtenNumber lexeme
  | ident name =>
    have plain := lexes_ident (.inl rfl) name
    rw [Text.quoted, Text.quotedChars, Text.doubled_of_not_mem recurs] at plain
    exact plain
  | str value =>
    have closes := Text.closesLiteral_of_not_mem recurs
    have itself := (Text.unescapedText_eq_self_iff closes).2 recurs
    have read := lexes_literal closes
    rwa [itself] at read
  | comment body =>
    obtain ⟨stays, trimmed⟩ := lexeme
    have read := lexes_comment body.toList stays
    rw [trimmed, String.ofList_toList] at read
    have written : (comment body).text.toList = '/' :: '*' :: (body.toList ++ ['*', '/']) := by
      simp [text]
    rwa [written]
  | leftParen => exact lexes_nil.punctuation rfl
  | rightParen => exact lexes_nil.punctuation rfl
  | comma => exact lexes_nil.punctuation rfl
  | semicolon => exact lexes_nil.punctuation rfl
  | symbol c =>
    rw [text, String.toList_ofList]
    exact lexes_symbol lexeme

/-! ## Texts that are read as something else -/

section

variable {cs rest left : List Char} {n : Nat}

/-- What starts with another character has nothing in front. -/
theorem eq_zero_of_replicate_append {b c : Char} {tail t : List Char} (other : c ≠ b)
    (h : List.replicate n b ++ c :: tail = c :: t) : n = 0 ∧ t = tail := by
  cases n with
  | zero => exact ⟨rfl, (List.cons.inj h).2.symm⟩
  | succ n => exact absurd (List.cons.inj h).1.symm other

/-- What has the same character in front starts with it. -/
theorem of_replicate_append_self {b c : Char} {tail t : List Char}
    (h : List.replicate n b ++ b :: tail = c :: t) : c = b ∧ t = List.replicate n b ++ tail := by
  rw [List.append_cons, ← List.replicate_succ', List.replicate_succ, List.cons_append] at h
  exact ⟨(List.cons.inj h).1.symm, (List.cons.inj h).2.symm⟩

/-- A text with a quote in it does not stand for itself between quotes: each quote that is read
takes two, and `n` of them are behind. -/
theorem not_mem_of_eq_doubled {q : Char} (apart : rest.head? ≠ some q)
    (h : cs ++ q :: rest = List.replicate n q ++ (Text.doubled q cs ++ q :: left)) :
    n = 0 ∧ q ∉ cs := by
  have two : ∀ m (tail : List Char), List.replicate m q ++ q :: q :: tail =
      List.replicate (m + 2) q ++ tail := by
    intro m tail
    rw [List.replicate_succ', List.replicate_succ']
    simp
  induction cs generalizing n with
  | nil =>
    cases n with
    | zero => simp
    | succ n =>
      refine absurd ?_ apart
      have behind : rest = List.replicate n q ++ q :: left := by
        simpa [List.replicate_succ] using h
      cases n <;> simp [behind, List.replicate_succ]
  | cons c cs ih =>
    by_cases quote : c = q
    · subst quote
      rw [Text.doubled_cons_self, List.cons_append, List.cons_append, List.cons_append, two,
        List.replicate_succ, List.cons_append, List.cons.injEq] at h
      cases (ih h.2).1
    · cases n with
      | zero =>
        rw [Text.doubled_cons_of_ne quote] at h
        refine ⟨rfl, ?_⟩
        rw [List.mem_cons, not_or]
        exact ⟨Ne.symm quote, (ih (n := 0) (by simpa using h)).2⟩
      | succ n =>
        rw [List.replicate_succ, List.cons_append, List.cons_append, List.cons.injEq] at h
        exact absurd h.1 quote

/-- A text with a backslash in it does not stand for itself between quotes: each backslash that is
read takes two characters, and `n` of them are behind. -/
theorem not_mem_of_scanQuoted (apart : rest.head? ≠ some '\'')
    (h : scanQuoted '\'' true (Text.doubled '\'' cs ++ '\'' :: rest) =
      some (List.replicate n '\\' ++ cs, left)) : n = 0 ∧ '\\' ∉ cs := by
  have closing : scanQuoted '\'' true ('\'' :: rest) = some ([], rest) := by
    cases rest with
    | nil => simp [scanQuoted]
    | cons d rest =>
      have other : d ≠ '\'' := by rintro rfl; exact apart rfl
      simp [scanQuoted, other]
  fun_induction Text.ClosesLiteral cs generalizing n with
  | case1 =>
    rw [Text.doubled_nil, List.nil_append, closing] at h
    have none := (congrArg Prod.fst (Option.some.inj h)).symm
    exact ⟨by simpa using none, by simp⟩
  | case2 c =>
    by_cases escape : c = '\\'
    · subst escape
      rw [Text.doubled_cons_of_ne (by decide)] at h
      obtain ⟨t, -, read⟩ := scanQuoted_escape_iff.1 h
      exact absurd (of_replicate_append_self read).1 (by decide)
    by_cases quote : c = '\''
    · subst quote
      rw [Text.doubled_cons_self] at h
      obtain ⟨t, -, read⟩ := scanQuoted_pair_iff.1 h
      exact ⟨(eq_zero_of_replicate_append escape read).1, by simp⟩
    · rw [Text.doubled_cons_of_ne quote] at h
      obtain ⟨t, -, read⟩ := (scanQuoted_cons_iff escape quote (by simp)).1 h
      exact ⟨(eq_zero_of_replicate_append escape read).1, by simpa using Ne.symm escape⟩
  | case3 d cs ih =>
    rw [Text.doubled_cons_of_ne (by decide)] at h
    by_cases quote : d = '\''
    · subst quote
      rw [Text.doubled_cons_self] at h
      obtain ⟨t, -, read⟩ := scanQuoted_escape_iff.1 h
      exact absurd (of_replicate_append_self read).1 (by decide)
    · rw [Text.doubled_cons_of_ne quote] at h
      obtain ⟨t, found, read⟩ := scanQuoted_escape_iff.1 h
      obtain ⟨escaped, rfl⟩ := of_replicate_append_self read
      obtain rfl : d = '\\' := by
        unfold unescape at escaped
        split at escaped <;> first | exact escaped | cases escaped
      rw [List.append_cons, ← List.replicate_succ'] at found
      cases (ih found).1
  | case4 c d cs other ih =>
    have tail : n = 0 → scanQuoted '\'' true (Text.doubled '\'' (d :: cs) ++ '\'' :: rest) =
        some (d :: cs, left) → n = 0 ∧ '\\' ∉ c :: d :: cs := by
      intro none found
      refine ⟨none, ?_⟩
      rw [List.mem_cons, not_or]
      exact ⟨Ne.symm other, (ih (n := 0) found).2⟩
    by_cases quote : c = '\''
    · subst quote
      rw [Text.doubled_cons_self] at h
      obtain ⟨t, found, read⟩ := scanQuoted_pair_iff.1 h
      obtain ⟨none, rfl⟩ := eq_zero_of_replicate_append other read
      exact tail none found
    · rw [Text.doubled_cons_of_ne quote, List.cons_append] at h
      obtain ⟨t, found, read⟩ := (scanQuoted_cons_iff other quote (by simp)).1 h
      obtain ⟨none, rfl⟩ := eq_zero_of_replicate_append other read
      exact tail none found

end

/-- The text of a token that does not recur is read as something else. -/
theorem scanChars_text_ne {t : Token} (h : ¬ t.Recurs) {rest : List Char} (follows : Follows rest)
    (ts : List Token) : scanChars (t.text.toList ++ rest) ≠ .ok (t :: ts) := by
  -- What is read first, if anything is, is quoted text with the same content.
  have first : ∀ {q escapes} {token : String → Token} {cs : List Char} {value : String},
      (∀ a b, token a = token b → a = b) → scanOne q cs = quotedToken q escapes token cs →
      scanChars (q :: cs) = .ok (token value :: ts) →
      ∃ left, scanQuoted q escapes cs = some (value.toList, left) := by
    intro q escapes token cs value injective one read
    rw [quotedToken] at one
    split at one
    · rename_i text left found
      rw [scanChars_cons one] at read
      obtain ⟨others, -, same⟩ := Except.exists_of_map_eq_ok read
      have same : String.ofList text = value := injective _ _ (List.cons.inj same).1
      exact ⟨left, by rw [found, ← same, String.toList_ofList]⟩
    · rw [scanChars_cons_error one] at read
      cases read
  intro read
  cases t with
  | ident name =>
    have written : (ident name).text.toList ++ rest =
        Text.backtick :: (name.toList ++ Text.backtick :: rest) := by
      simp [text]
    rw [written] at read
    obtain ⟨left, found⟩ := first (fun _ _ => Token.ident.inj) (by
      unfold scanOne
      rw [if_neg (by decide), if_neg (by simp [Text.backtick]), if_neg (by simp [Text.backtick]),
        if_pos (by decide)]) read
    have apart : rest.head? ≠ some Text.backtick := head?_ne_of_follows follows (by decide)
    exact h (not_mem_of_eq_doubled (n := 0) apart (eq_of_scanQuoted found)).2
  | str value =>
    have written : (str value).text.toList ++ rest =
        '\'' :: (Text.doubled '\'' value.toList ++ '\'' :: rest) := by
      rw [text, Text.quoteLiteral, toList_quoted, Text.singleQuote]
      simp
    rw [written] at read
    obtain ⟨left, found⟩ := first (fun _ _ => Token.str.inj) (by
      unfold scanOne
      rw [if_neg (by decide), if_neg (by simp), if_neg (by simp), if_neg (by decide),
        if_pos (by decide)]) read
    have apart : rest.head? ≠ some '\'' := head?_ne_of_follows follows (by decide)
    exact h (not_mem_of_scanQuoted (n := 0) apart found).2
  | _ => exact h trivial

/-! ## Lists of tokens -/

/-- The texts of tokens with blanks between them. -/
def spaced (ts : List Token) : String := " ".intercalate (ts.map text)

theorem toList_spaced_cons (t : Token) (ts : List Token) :
    (spaced (t :: ts)).toList =
      t.text.toList ++ if ts = [] then [] else ' ' :: (spaced ts).toList := by
  cases ts with
  | nil => simp [spaced]
  | cons u ts => simp [spaced, String.toList_intercalate]

/-- Tokens are read again from their texts exactly when each of them recurs. -/
theorem scan_spaced_eq_iff {ts : List Token} (lexemes : ∀ t ∈ ts, t.IsLexeme) :
    scan (spaced ts) = .ok ts ↔ ∀ t ∈ ts, t.Recurs := by
  constructor
  · intro read
    rw [scan] at read
    induction ts with
    | nil => exact fun _ mem => nomatch mem
    | cons t ts ih =>
      obtain ⟨first, others⟩ := List.forall_mem_cons.1 lexemes
      rw [toList_spaced_cons] at read
      have follows : Follows (if ts = [] then [] else ' ' :: (spaced ts).toList) := by
        split
        · exact follows_nil
        · exact follows_cons rfl _
      have recurs : t.Recurs := by
        by_contra other
        exact scanChars_text_ne other follows ts read
      rw [lexes_text first recurs _ follows] at read
      obtain ⟨rest, behind, same⟩ := Except.exists_of_map_eq_ok read
      obtain rfl : rest = ts := (List.cons.inj same).2
      refine List.forall_mem_cons.2 ⟨recurs, ?_⟩
      split at behind
      · rename_i none
        rw [none]
        exact fun _ mem => nomatch mem
      · rw [scanChars_cons (scanOne_space _)] at behind
        obtain ⟨again, behind, rfl⟩ := Except.exists_of_map_eq_ok behind
        exact ih others behind
  · intro recur
    have whole : Lexes (spaced ts).toList (ts.map fun t => t) :=
      lexes_spaced fun t mem => lexes_text (lexemes t mem) (recur t mem)
    rw [List.map_id'] at whole
    exact whole.scanChars_eq

/-- A backslash in a string is read again as the start of an escape. -/
example : scan "'C:\\\\temp'" = .ok [.str "C:\\temp"] ∧
    scan (spaced [.str "C:\\temp"]) = .ok [.str "C:\temp"] := by
  decide +kernel

end Token

end SchemaShift
