import SchemaShift.Ddl.Token
import SchemaShift.Proofs.Number.Decimal

/-!
# From written text to tokens

Statements are written as text and read as tokens. This file says which tokens a written text
stands for, whatever follows it, and how that is put together from its pieces.

A token ends where the next character cannot belong to it. Every piece of a statement is followed
by a blank, a line end, a parenthesis, a comma, a semicolon or nothing (`Follows`), so that no
token of one piece runs into the next.

Results:
* `Lexes.append`, `Lexes.blank`, `Lexes.punctuation`: texts put together lex to the tokens of their
  parts.
* `lexes_ident`: an identifier in backticks or double quotes is one token, whatever it holds.
* `lexes_mySqlLiteral`: so is a string literal in the escapes of MySQL.
* `scan_and_unquote_quoted`: quoting is undone by the reader of tokens and by the one of quotes.
* `lexes_word`, `lexes_writtenNumber`: so are a bare word and a written number.
* `lexes_intercalate_of`, `lexes_intercalate`, `lexes_spaced`: lists of texts lex item by item.
-/

namespace SchemaShift.Token

/-! ## Texts and tokens -/

/-- The characters that end every token in front of them. -/
def endsToken (c : Char) : Bool :=
  c == ' ' || c == '\n' || c == '(' || c == ')' || c == ',' || c == ';'

/-- A text that can follow any token without becoming part of it. -/
def Follows (text : List Char) : Prop := ∀ c ∈ text.head?, endsToken c = true

/-- A text stands for the given tokens wherever it is written. -/
def Lexes (text : List Char) (tokens : List Token) : Prop :=
  ∀ rest, Follows rest → scanChars (text ++ rest) = (scanChars rest).map (tokens ++ ·)

theorem follows_nil : Follows [] := by
  intro c hc
  cases hc

theorem follows_cons {c : Char} (h : endsToken c = true) (cs : List Char) :
    Follows (c :: cs) := by
  intro d hd
  cases hd
  exact h

theorem Follows.append {text rest : List Char} (h : Follows text) (hrest : Follows rest) :
    Follows (text ++ rest) := by
  cases text with
  | nil => exact hrest
  | cons c cs => exact follows_cons (h c rfl) _

/-- The tokens of a text that stands alone. -/
theorem Lexes.scanChars_eq {text : List Char} {tokens : List Token} (h : Lexes text tokens) :
    scanChars text = .ok tokens := by
  have whole := h [] follows_nil
  rw [List.append_nil, scanChars_nil] at whole
  rw [whole]
  simp [Except.map]

theorem lexes_nil : Lexes [] [] := by
  intro rest _
  rw [List.nil_append]
  cases scanChars rest <;> rfl

theorem Lexes.append {a b : List Char} {s t : List Token} (ha : Lexes a s) (hb : Lexes b t)
    (apart : Follows b) : Lexes (a ++ b) (s ++ t) := by
  intro rest hrest
  rw [List.append_assoc, ha _ (apart.append hrest), hb rest hrest]
  cases scanChars rest with
  | error e => rfl
  | ok ts => simp [Except.map]

/-- The tokens of a text whose first lexeme is known. -/
theorem lexes_of_scanOne {c : Char} {text : List Char} {tokens : List Token} (t : Option Token)
    (left : List Char)
    (first : ∀ rest, Follows rest → scanOne c (text ++ rest) = .ok (t, left ++ rest))
    (others : Lexes left tokens) : Lexes (c :: text) (t.toList ++ tokens) := by
  intro rest hrest
  rw [List.cons_append, scanChars_cons (first rest hrest), others rest hrest]
  cases scanChars rest with
  | error e => rfl
  | ok ts => simp [Except.map]

/-! ## Blanks and punctuation -/

theorem scanOne_space (rest : List Char) : scanOne ' ' rest = .ok (none, rest) := by
  unfold scanOne
  rw [if_pos (by decide)]

theorem scanOne_punctuation {c : Char} {t : Token} (h : punctuation? c = some t)
    (rest : List Char) : scanOne c rest = .ok (some t, rest) := by
  have cases4 : c = '(' ∨ c = ')' ∨ c = ',' ∨ c = ';' := by
    unfold punctuation? at h
    split at h <;> simp_all
  unfold scanOne
  rw [h]
  rcases cases4 with rfl | rfl | rfl | rfl <;>
    rw [if_neg (by decide), if_neg (by simp), if_neg (by simp), if_neg (by decide),
      if_neg (by decide)]

theorem Lexes.blank {text : List Char} {tokens : List Token} (h : Lexes text tokens) :
    Lexes (' ' :: text) tokens :=
  lexes_of_scanOne none text (fun _ _ => scanOne_space _) h

theorem Lexes.punctuation {c : Char} {t : Token} (hc : punctuation? c = some t)
    {text : List Char} {tokens : List Token} (h : Lexes text tokens) :
    Lexes (c :: text) (t :: tokens) :=
  lexes_of_scanOne (some t) text (fun _ _ => scanOne_punctuation hc _) h

/-! ## Quoted text -/

/-- Quoted text is read up to the closing quote, with its doubled quotes undone. -/
theorem scanQuoted_doubled {q : Char} {rest : List Char} (apart : rest.head? ≠ some q)
    (cs : List Char) :
    scanQuoted q false (Text.doubled q cs ++ q :: rest) = some (cs, rest) := by
  induction cs with
  | nil =>
    cases rest with
    | nil => simp [scanQuoted]
    | cons d rest =>
      have other : d ≠ q := by rintro rfl; exact apart rfl
      simp [scanQuoted, other]
  | cons c cs ih =>
    by_cases quote : c = q
    · subst quote
      rw [Text.doubled_cons_self]
      simp [scanQuoted, ih]
    · rw [Text.doubled_cons_of_ne quote]
      obtain ⟨d, ds, h⟩ := List.exists_cons_of_ne_nil
        (show Text.doubled q cs ++ q :: rest ≠ [] by simp)
      rw [h] at ih
      simp [scanQuoted, h, quote, ih]

/-- The same where a backslash escapes: what is read has its doubled backslashes undone as well. -/
theorem scanQuoted_escaped {q : Char} (hq : q ≠ '\\') {rest : List Char}
    (apart : rest.head? ≠ some q) (cs : List Char) :
    scanQuoted q true (Text.doubled q (Text.doubled '\\' cs) ++ q :: rest) =
      some (cs, rest) := by
  induction cs with
  | nil =>
    cases rest with
    | nil => simp [scanQuoted]
    | cons d rest =>
      have other : d ≠ q := by rintro rfl; exact apart rfl
      simp [scanQuoted, other, hq]
  | cons c cs ih =>
    by_cases slash : c = '\\'
    · subst slash
      rw [Text.doubled_cons_self, Text.doubled_cons_of_ne hq.symm,
        Text.doubled_cons_of_ne hq.symm]
      simp [scanQuoted, ih, unescape]
    rw [Text.doubled_cons_of_ne slash]
    by_cases quote : c = q
    · subst quote
      rw [Text.doubled_cons_self]
      simp [scanQuoted, slash, ih]
    · rw [Text.doubled_cons_of_ne quote]
      obtain ⟨d, ds, h⟩ := List.exists_cons_of_ne_nil
        (show Text.doubled q (Text.doubled '\\' cs) ++ q :: rest ≠ [] by simp)
      rw [h] at ih
      simp [scanQuoted, h, slash, quote, ih]

theorem head?_ne_of_follows {rest : List Char} (h : Follows rest) {q : Char}
    (hq : endsToken q = false) : rest.head? ≠ some q := by
  intro head
  have := h q head
  simp [hq] at this

theorem quotedToken_eq {q : Char} {escapes : Bool} {text rest left : List Char}
    (token : String → Token) (h : scanQuoted q escapes rest = some (text, left)) :
    quotedToken q escapes token rest = .ok (some (token (String.ofList text)), left) := by
  rw [quotedToken, h]

theorem toList_quoted (q : Char) (s : String) :
    (Text.quoted q s).toList = q :: (Text.doubled q s.toList ++ [q]) := by
  simp [Text.quoted, Text.quotedChars]

/-- An identifier between backticks or double quotes is one token, whatever it holds. -/
theorem lexes_ident {q : Char} (hq : q = Text.backtick ∨ q = Text.doubleQuote) (name : String) :
    Lexes (Text.quoted q name).toList [ident name] := by
  rw [toList_quoted]
  refine lexes_of_scanOne (some (ident name)) [] ?_ lexes_nil
  intro rest hrest
  have apart : rest.head? ≠ some q :=
    head?_ne_of_follows hrest (by rcases hq with rfl | rfl <;> decide)
  have found := quotedToken_eq ident (scanQuoted_doubled apart name.toList)
  rw [String.ofList_toList] at found
  rw [List.append_assoc]
  unfold scanOne
  rcases hq with rfl | rfl
  · rw [if_neg (by decide), if_neg (by simp [Text.backtick]), if_neg (by simp [Text.backtick]),
      if_pos (by decide)]
    exact found
  · rw [if_neg (by decide), if_neg (by simp [Text.doubleQuote]),
      if_neg (by simp [Text.doubleQuote]), if_pos (by decide)]
    exact found

/-- A string literal in the escapes of MySQL is one token, whatever it holds. -/
theorem lexes_mySqlLiteral (value : String) :
    Lexes (Text.quoteMySqlLiteral value).toList [str value] := by
  rw [Text.quoteMySqlLiteral, Text.quoteLiteral, toList_quoted, String.toList_ofList,
    Text.singleQuote]
  refine lexes_of_scanOne (some (str value)) [] ?_ lexes_nil
  intro rest hrest
  have apart : rest.head? ≠ some '\'' := head?_ne_of_follows hrest (by decide)
  have found := quotedToken_eq str (scanQuoted_escaped (by decide) apart value.toList)
  rw [String.ofList_toList] at found
  rw [List.append_assoc]
  unfold scanOne
  rw [if_neg (by decide), if_neg (by simp), if_neg (by simp),
    if_neg (by decide), if_pos (by decide)]
  exact found

theorem scan_quoted {q : Char} (hq : q = Text.backtick ∨ q = Text.doubleQuote) (name : String) :
    scan (Text.quoted q name) = .ok [ident name] :=
  (lexes_ident hq name).scanChars_eq

/-- What quoting writes is read back by both readers, the one of statements and the one of single
texts. A standard literal is for the latter only: the former takes its backslashes for escapes. -/
theorem scan_and_unquote_quoted (s : String) :
    (scan (Text.quoteBacktick s) = .ok [ident s] ∧ scan (Text.quoteDouble s) = .ok [ident s] ∧
      scan (Text.quoteMySqlLiteral s) = .ok [str s]) ∧
      Text.unquote (Text.quoteLiteral s) = s ∧ Text.unquote (Text.quoteDouble s) = s ∧
        Text.unquote (Text.quoteBacktick s) = s := by
  refine ⟨⟨scan_quoted (.inl rfl) s, scan_quoted (.inr rfl) s, ?_⟩, ?_, ?_, ?_⟩
  · exact (lexes_mySqlLiteral s).scanChars_eq
  · exact Text.unquote_quoted (.inl rfl) s
  · exact Text.unquote_quoted (.inr (.inl rfl)) s
  · exact Text.unquote_quoted (.inr (.inr rfl)) s

/-! ## Words and numbers -/

theorem takeWhile_append_of_all {α : Type} (p : α → Bool) {xs ys : List α}
    (all : ∀ x ∈ xs, p x = true) (stop : ∀ y ∈ ys.head?, p y = false) :
    (xs ++ ys).takeWhile p = xs ∧ (xs ++ ys).dropWhile p = ys := by
  have none : ys.takeWhile p = [] ∧ ys.dropWhile p = ys := by
    cases ys with
    | nil => exact ⟨rfl, rfl⟩
    | cons y ys => simp [stop y rfl]
  rw [List.takeWhile_append_of_pos all, List.dropWhile_append_of_pos all, none.1, none.2]
  simp

/-- A bare word: a letter, an underscore or a dollar sign, and more of these or digits. -/
def isBareWord (w : String) : Bool :=
  match w.toList with
  | [] => false
  | c :: cs => startsWord c && cs.all inWord

/-- The ASCII characters that open a word stand where no blank, digit or quote does. -/
theorem startsWord_bounds {c : Char} (h : startsWord c = true) (ascii : c.toNat < 128) :
    65 ≤ c.toNat ∨ c.toNat = 36 := by
  simp only [startsWord, Text.isAlphabetic_of_lt ascii, Bool.or_eq_true, beq_iff_eq] at h
  rcases h with (letter | rfl) | rfl
  · change (decide (c.val ≥ 'A'.val ∧ c.val ≤ 'Z'.val) ||
      (decide (c.val ≥ 'a'.val) && decide (c.val ≤ 'z'.val))) = true at letter
    simp only [Bool.or_eq_true, Bool.and_eq_true, decide_eq_true_eq, ge_iff_le,
      UInt32.le_iff_toNat_le] at letter
    change (65 ≤ c.toNat ∧ c.toNat ≤ 90) ∨ (97 ≤ c.toNat ∧ c.toNat ≤ 122) at letter
    omega
  · exact .inl (by decide)
  · exact .inr rfl

/-- No blank above the ASCII characters is a letter. -/
theorem not_alphabetic_blank : ∀ n ∈ [0x85, 0xa0, 0x1680, 0x2000, 0x2001, 0x2002, 0x2003, 0x2004,
    0x2005, 0x2006, 0x2007, 0x2008, 0x2009, 0x200a, 0x2028, 0x2029, 0x202f, 0x205f, 0x3000],
    (Text.alphabeticRanges.any fun r => decide (r.1 ≤ n) && decide (n ≤ r.2)) = false := by
  decide +kernel

theorem not_isBlank_of_startsWord {c : Char} (h : startsWord c = true) :
    Text.isBlank c = false := by
  apply Bool.eq_false_iff.2
  intro blank
  simp only [Text.isBlank, Bool.or_eq_true, Bool.and_eq_true, decide_eq_true_eq, beq_iff_eq]
    at blank
  by_cases ascii : c.toNat < 128
  · have := startsWord_bounds h ascii
    omega
  · have letter : Text.inRanges Text.alphabeticRanges c = true := by
      simp only [startsWord, Text.isAlphabetic, ascii, if_false, Bool.or_eq_true, beq_iff_eq] at h
      rcases h with (letter | rfl) | rfl
      · exact letter
      · exact absurd (by decide) ascii
      · exact absurd (by decide) ascii
    have none := not_alphabetic_blank c.toNat (by
      simp only [List.mem_cons, List.not_mem_nil, or_false]
      omega)
    exact Bool.false_ne_true (none.symm.trans letter)

theorem not_isDigit_of_startsWord {c : Char} (h : startsWord c = true) : c.isDigit = false := by
  apply Bool.eq_false_iff.2
  intro digit
  have bounds := Number.isDigit_bounds digit
  have := startsWord_bounds h (by omega)
  omega

/-- The characters that open a lexeme other than a word, a number or a symbol. -/
def openers : List Char :=
  ['-', '/', Text.backtick, Text.doubleQuote, Text.singleQuote, '(', ')', ',', ';']

/-- A character that opens nothing else opens a number or a word, or is a symbol. -/
theorem scanOne_of_not_opener {c : Char} (blank : Text.isBlank c = false) (h : c ∉ openers)
    (rest : List Char) :
    scanOne c rest =
      if c.isDigit ∨ (c = '.' ∧ rest.head?.any Char.isDigit) then
        .ok (some (number (String.ofList (c :: rest.takeWhile inNumber))),
          rest.dropWhile inNumber)
      else if startsWord c then
        .ok (some (word (String.ofList (c :: rest.takeWhile inWord))), rest.dropWhile inWord)
      else .ok (some (symbol c), rest) := by
  simp only [openers, List.mem_cons, List.not_mem_nil, or_false, not_or] at h
  obtain ⟨dash, slash, backtick, double, single, left, right, comma, semicolon⟩ := h
  have plain : punctuation? c = none := by
    unfold punctuation?
    split <;> first | rfl | contradiction
  unfold scanOne
  rw [if_neg (by simp [blank]), if_neg (fun both => dash both.1),
    if_neg (fun both => slash both.1), if_neg (fun either => either.elim backtick double),
    if_neg single, plain]

/-- The lexeme that a word character opens is the longest run of word characters. -/
theorem scanOne_word {c : Char} (h : startsWord c = true) (rest : List Char) :
    scanOne c rest =
      .ok (some (word (String.ofList (c :: rest.takeWhile inWord))), rest.dropWhile inWord) := by
  have opener : c ∉ openers := by
    intro mem
    have none : openers.all (fun d => !startsWord d) = true := by decide
    have no := List.all_eq_true.1 none c mem
    rw [h] at no
    cases no
  have point : c ≠ '.' := by
    rintro rfl
    exact absurd h (by decide)
  rw [scanOne_of_not_opener (not_isBlank_of_startsWord h) opener]
  simp only [not_isDigit_of_startsWord h, h, point, Bool.false_eq_true, false_and, or_self,
    if_false, if_true]

theorem not_inWord_of_endsToken {c : Char} (h : endsToken c = true) : inWord c = false := by
  simp only [endsToken, Bool.or_eq_true, beq_iff_eq] at h
  rcases h with ((((rfl | rfl) | rfl) | rfl) | rfl) | rfl <;> decide

theorem not_inNumber_of_endsToken {c : Char} (h : endsToken c = true) : inNumber c = false := by
  simp only [endsToken, Bool.or_eq_true, beq_iff_eq] at h
  rcases h with ((((rfl | rfl) | rfl) | rfl) | rfl) | rfl <;> decide

/-- A bare word is one token. -/
theorem lexes_word {w : String} (h : isBareWord w = true) : Lexes w.toList [word w] := by
  unfold isBareWord at h
  split at h
  · cases h
  · rename_i c cs text
    simp only [Bool.and_eq_true, List.all_eq_true] at h
    rw [text]
    refine lexes_of_scanOne (some (word w)) [] ?_ lexes_nil
    intro rest hrest
    obtain ⟨taken, dropped⟩ := takeWhile_append_of_all inWord h.2
      (fun d hd => not_inWord_of_endsToken (hrest d hd))
    rw [scanOne_word h.1, taken, dropped, ← text, String.ofList_toList]
    rfl

/-- Digits and points that start as a number does: with a digit, or with a point in front of one. -/
def isWrittenNumber (n : String) : Bool :=
  match n.toList with
  | [] => false
  | c :: cs => (c.isDigit || (c == '.' && cs.head?.any Char.isDigit)) && cs.all inNumber

/-- The lexeme that starts as a number does is the longest run of digits and points. -/
theorem scanOne_number {c : Char} {rest : List Char}
    (h : c.isDigit = true ∨ (c = '.' ∧ rest.head?.any Char.isDigit = true)) :
    scanOne c rest =
      .ok (some (number (String.ofList (c :: rest.takeWhile inNumber))),
        rest.dropWhile inNumber) := by
  have plain : Text.isBlank c = false ∧ c ∉ openers := by
    rcases h with digit | ⟨rfl, -⟩
    · refine ⟨Number.not_isBlank_of_isDigit digit, fun mem => ?_⟩
      have none : openers.all (fun d => !d.isDigit) = true := by decide
      have no := List.all_eq_true.1 none c mem
      rw [digit] at no
      cases no
    · exact ⟨by decide, by decide⟩
  rw [scanOne_of_not_opener plain.1 plain.2, if_pos h]

/-- A written number is one token. -/
theorem lexes_writtenNumber {n : String} (h : isWrittenNumber n = true) :
    Lexes n.toList [number n] := by
  unfold isWrittenNumber at h
  split at h
  · cases h
  · rename_i c cs text
    simp only [Bool.and_eq_true, Bool.or_eq_true, beq_iff_eq, List.all_eq_true] at h
    obtain ⟨first, all⟩ := h
    rw [text]
    refine lexes_of_scanOne (some (number n)) [] ?_ lexes_nil
    intro rest hrest
    obtain ⟨taken, dropped⟩ := takeWhile_append_of_all inNumber all
      (fun d hd => not_inNumber_of_endsToken (hrest d hd))
    have starts : c.isDigit = true ∨ (c = '.' ∧ (cs ++ rest).head?.any Char.isDigit = true) := by
      refine first.imp_right fun both => ⟨both.1, ?_⟩
      have digit := both.2
      cases cs with
      | nil => cases digit
      | cons d cs => exact digit
    rw [scanOne_number starts, taken, dropped, ← text, String.ofList_toList]
    rfl

/-- A run of digits is one token. -/
theorem lexes_number {n : String} (h : Number.isDigits n.toList = true) :
    Lexes n.toList [number n] := by
  apply lexes_writtenNumber
  rw [Number.isDigits, Bool.and_eq_true, List.all_eq_true] at h
  obtain ⟨nonempty, digits⟩ := h
  unfold isWrittenNumber
  cases text : n.toList with
  | nil => simp [text] at nonempty
  | cons c cs =>
    rw [text, List.forall_mem_cons] at digits
    have all : cs.all inNumber = true :=
      List.all_eq_true.2 fun d hd => by simp [inNumber, digits.2 d hd]
    simp [digits.1, all]

theorem scanOne_equals (rest : List Char) : scanOne '=' rest = .ok (some (symbol '='), rest) := by
  rw [scanOne_of_not_opener (by decide) (by decide), if_neg (by simp), if_neg (by decide)]

theorem Lexes.equals {text : List Char} {tokens : List Token} (h : Lexes text tokens) :
    Lexes ('=' :: text) (symbol '=' :: tokens) :=
  lexes_of_scanOne (some (symbol '=')) text (fun _ _ => scanOne_equals _) h

/-! ## Lists -/

/-- Texts with a separator between them that is read as a comma lex item by item. -/
theorem lexes_intercalate_of {α : Type} (separator : String) {text : α → String}
    {tokens : α → List Token} {xs : List α}
    (joins : ∀ {rest ts}, Lexes rest ts → Lexes (separator.toList ++ rest) (comma :: ts))
    (apart : ∀ rest, Follows (separator.toList ++ rest))
    (h : ∀ x ∈ xs, Lexes (text x).toList (tokens x)) :
    Lexes (separator.intercalate (xs.map text)).toList ([comma].intercalate (xs.map tokens)) := by
  rw [String.toList_intercalate, List.map_map]
  induction xs with
  | nil => exact lexes_nil
  | cons x xs ih =>
    have first := h x (by simp)
    have others := ih fun y hy => h y (by simp [hy])
    by_cases last : xs = []
    · subst last
      simpa using first
    · rw [List.map_cons, List.map_cons, List.intercalate_cons_of_ne_nil (by simpa using last),
        List.intercalate_cons_of_ne_nil (by simpa using last), List.append_assoc,
        List.append_assoc]
      exact first.append (joins others) (apart _)

/-- Texts that are separated by commas lex item by item. -/
theorem lexes_intercalate {α : Type} {text : α → String} {tokens : α → List Token} {xs : List α}
    (h : ∀ x ∈ xs, Lexes (text x).toList (tokens x)) :
    Lexes (", ".intercalate (xs.map text)).toList ([comma].intercalate (xs.map tokens)) :=
  lexes_intercalate_of ", " (fun others => others.blank.punctuation rfl)
    (fun _ => follows_cons rfl _) h

/-- Texts of one token each that are separated by blanks lex one by one. -/
theorem lexes_spaced {α : Type} {text : α → String} {token : α → Token} {xs : List α}
    (h : ∀ x ∈ xs, Lexes (text x).toList [token x]) :
    Lexes (" ".intercalate (xs.map text)).toList (xs.map token) := by
  rw [String.toList_intercalate, List.map_map]
  induction xs with
  | nil => exact lexes_nil
  | cons x xs ih =>
    have first := h x (by simp)
    have others := ih fun y hy => h y (by simp [hy])
    by_cases last : xs = []
    · subst last
      simpa using first
    · rw [List.map_cons, List.intercalate_cons_of_ne_nil (by simpa using last), List.append_assoc]
      exact first.append others.blank (follows_cons rfl _)

/-- Bare words that are separated by blanks lex word by word. -/
theorem lexes_words (ws : List String) (h : ∀ w ∈ ws, isBareWord w = true) :
    Lexes (" ".intercalate ws).toList (ws.map word) := by
  have spaced : Lexes (" ".intercalate (ws.map fun w => w)).toList (ws.map word) :=
    lexes_spaced fun w hw => lexes_word (h w hw)
  rwa [List.map_id'] at spaced

end SchemaShift.Token
