import SchemaShift.Error
import SchemaShift.Text.Letter
import SchemaShift.Text.Quoted

/-!
# Tokens of SQL text

Statements and catalog type texts are read as tokens. Line comments are dropped; block comments
are kept, because SQLite definitions carry the logical type of a column in them. A doubled quote
inside quoted text stands for one, and string literals know the backslash escapes of MySQL.

* `length_scanOne_le`: a lexeme never lengthens what is left of the text.
* `scanChars_cons`: the tokens of a text are the first lexeme's token and those of the rest.
-/

namespace SchemaShift

/-- A token of SQL text. -/
inductive Token where
  /-- A bare word or keyword, in its own case. -/
  | word (s : String)
  /-- An identifier between backticks or double quotes. -/
  | ident (s : String)
  /-- A string literal. -/
  | str (s : String)
  /-- Digits and points. -/
  | number (s : String)
  /-- The text of a block comment, trimmed. -/
  | comment (s : String)
  | leftParen
  | rightParen
  | comma
  | semicolon
  | symbol (c : Char)
deriving DecidableEq, Repr

namespace Token

/-- Whether a token is a given keyword, in any case. -/
def isKeyword (t : Token) (keyword : String) : Bool :=
  match t with
  | word w => Text.sameWord w keyword
  | _ => false

/-- The name a bare word or a quoted identifier stands for. -/
def name? : Token → Option String
  | word w => some w
  | ident w => some w
  | _ => none

/-- Whether a token is a block comment. -/
def isComment : Token → Bool
  | comment _ => true
  | _ => false

/-- The text of a token, as messages and default expressions show it. -/
def text : Token → String
  | word w => w
  | number w => w
  | ident i => String.ofList (Text.backtick :: i.toList ++ [Text.backtick])
  | str s => Text.quoteLiteral s
  | comment c => "/*" ++ c ++ "*/"
  | leftParen => "("
  | rightParen => ")"
  | comma => ","
  | semicolon => ";"
  | symbol c => String.ofList [c]

/-! ## Lexemes -/

/-- The character a backslash escape stands for. -/
def unescape : Char → Char
  | 'n' => '\n'
  | 't' => '\t'
  | '0' => '\x00'
  | c => c

/-- Reads quoted text after its opening quote, up to the closing one. -/
def scanQuoted (q : Char) (escapes : Bool) : List Char → Option (List Char × List Char)
  | [] => none
  | [c] => if c = q then some ([], []) else none
  | c :: d :: rest =>
    if escapes ∧ c = '\\' then
      (scanQuoted q escapes rest).map fun (text, rest) => (unescape d :: text, rest)
    else if c = q then
      if d = q then (scanQuoted q escapes rest).map fun (text, rest) => (q :: text, rest)
      else some ([], d :: rest)
    else (scanQuoted q escapes (d :: rest)).map fun (text, rest) => (c :: text, rest)

/-- Reads a block comment after its opening, up to the first closing. -/
def scanComment : List Char → Option (List Char × List Char)
  | '*' :: '/' :: rest => some ([], rest)
  | c :: rest => (scanComment rest).map fun (text, rest) => (c :: text, rest)
  | [] => none

/-- Digits and points, the characters of a number token. -/
def inNumber (c : Char) : Bool := c.isDigit || c == '.'

/-- The characters that open a bare word. -/
def startsWord (c : Char) : Bool := Text.isAlphabetic c || c == '_' || c == '$'

/-- The characters that continue a bare word. -/
def inWord (c : Char) : Bool := Text.isAlphanumeric c || c == '_' || c == '$'

/-- Quoted text of a given kind after its opening quote. -/
def quotedToken (q : Char) (escapes : Bool) (token : String → Token) (rest : List Char) :
    Except Error (Option Token × List Char) :=
  match scanQuoted q escapes rest with
  | some (text, rest) => .ok (some (token (String.ofList text)), rest)
  | none => .error (.unknownToken (String.ofList [q]) "unterminated quoted text")

/-- A block comment after its opening. -/
def commentToken (rest : List Char) : Except Error (Option Token × List Char) :=
  match scanComment rest with
  | some (text, rest) => .ok (some (comment (String.ofList (Text.trimChars text))), rest)
  | none => .error (.unknownToken "/*" "unterminated comment")

/-- The token of punctuation that stands for itself. -/
def punctuation? : Char → Option Token
  | '(' => some leftParen
  | ')' => some rightParen
  | ',' => some comma
  | ';' => some semicolon
  | _ => none

/-- The lexeme that starts with a given character: its token, if it has one, and what is left. -/
@[irreducible] def scanOne (c : Char) (rest : List Char) :
    Except Error (Option Token × List Char) :=
  if Text.isBlank c then .ok (none, rest)
  else if c = '-' ∧ rest.head? = some '-' then .ok (none, rest.dropWhile (· != '\n'))
  else if c = '/' ∧ rest.head? = some '*' then commentToken (rest.drop 1)
  else if c = Text.backtick ∨ c = Text.doubleQuote then quotedToken c false ident rest
  else if c = Text.singleQuote then quotedToken c true str rest
  else match punctuation? c with
    | some t => .ok (some t, rest)
    | none =>
      if c.isDigit ∨ (c = '.' ∧ rest.head?.any Char.isDigit) then
        .ok (some (number (String.ofList (c :: rest.takeWhile inNumber))),
          rest.dropWhile inNumber)
      else if startsWord c then
        .ok (some (word (String.ofList (c :: rest.takeWhile inWord))), rest.dropWhile inWord)
      else .ok (some (symbol c), rest)

/-! ## Progress -/

theorem length_scanQuoted_le {q : Char} {escapes : Bool} {cs text rest : List Char}
    (h : scanQuoted q escapes cs = some (text, rest)) : rest.length ≤ cs.length := by
  fun_induction scanQuoted q escapes cs generalizing text rest with
  | case1 => simp at h
  | case2 => simp_all
  | case3 => simp at h
  | case4 c d tail _ ih =>
    obtain ⟨⟨t, r⟩, hr, he⟩ := Option.map_eq_some_iff.1 h
    cases he
    have := ih hr
    simp; omega
  | case5 tail _ ih =>
    obtain ⟨⟨t, r⟩, hr, he⟩ := Option.map_eq_some_iff.1 h
    cases he
    have := ih hr
    simp; omega
  | case6 => simp_all
  | case7 c d tail _ _ ih =>
    obtain ⟨⟨t, r⟩, hr, he⟩ := Option.map_eq_some_iff.1 h
    cases he
    have := ih hr
    simp at this ⊢; omega

theorem length_scanComment_le {cs text rest : List Char}
    (h : scanComment cs = some (text, rest)) : rest.length ≤ cs.length := by
  fun_induction scanComment cs generalizing text rest with
  | case1 => simp_all; obtain ⟨_, rfl⟩ := h; omega
  | case2 c tail _ ih =>
    obtain ⟨⟨t, r⟩, hr, he⟩ := Option.map_eq_some_iff.1 h
    cases he
    have := ih hr
    simp; omega
  | case3 => simp at h

theorem length_dropWhile_le {α : Type} (p : α → Bool) (l : List α) :
    (l.dropWhile p).length ≤ l.length := (List.dropWhile_sublist p).length_le

theorem length_quotedToken_le {q : Char} {escapes : Bool} {token : String → Token}
    {rest left : List Char} {t : Option Token}
    (h : quotedToken q escapes token rest = .ok (t, left)) : left.length ≤ rest.length := by
  unfold quotedToken at h
  split at h
  · rename_i scanned; cases h; exact length_scanQuoted_le scanned
  · cases h

theorem length_commentToken_le {rest left : List Char} {t : Option Token}
    (h : commentToken rest = .ok (t, left)) : left.length ≤ rest.length := by
  unfold commentToken at h
  split at h
  · rename_i scanned; cases h; exact length_scanComment_le scanned
  · cases h

theorem length_scanOne_le {c : Char} {rest left : List Char} {t : Option Token}
    (h : scanOne c rest = .ok (t, left)) : left.length ≤ rest.length := by
  unfold scanOne at h
  split at h
  · cases h; simp
  split at h
  · cases h; exact length_dropWhile_le ..
  split at h
  · exact Nat.le_trans (length_commentToken_le h) (by simp)
  split at h
  · exact length_quotedToken_le h
  split at h
  · exact length_quotedToken_le h
  split at h
  · cases h; simp
  split at h
  · cases h; exact length_dropWhile_le ..
  split at h
  · cases h; exact length_dropWhile_le ..
  · cases h; simp

/-! ## Whole texts -/

/-- The tokens of a text. -/
def scanChars (cs : List Char) : Except Error (List Token) :=
  match cs with
  | [] => .ok []
  | c :: rest =>
    match _found : scanOne c rest with
    | .error e => .error e
    | .ok (t, left) =>
      match scanChars left with
      | .error e => .error e
      | .ok ts => .ok (t.toList ++ ts)
termination_by cs.length
decreasing_by exact Nat.lt_succ_of_le (length_scanOne_le _found)

/-- The tokens of a text. -/
def scan (sql : String) : Except Error (List Token) := scanChars sql.toList

theorem scanChars_nil : scanChars [] = .ok [] := by rw [scanChars]

theorem scanChars_cons {c : Char} {rest left : List Char} {t : Option Token}
    (h : scanOne c rest = .ok (t, left)) :
    scanChars (c :: rest) = (scanChars left).map (t.toList ++ ·) := by
  rw [scanChars]
  split
  · rename_i e he; rw [h] at he; cases he
  · rename_i t' left' he
    rw [h] at he
    cases he
    cases scanChars left <;> rfl

theorem scanChars_cons_error {c : Char} {rest : List Char} {e : Error}
    (h : scanOne c rest = .error e) : scanChars (c :: rest) = .error e := by
  rw [scanChars]
  split
  · rename_i e' he; rw [h] at he; cases he; rfl
  · rename_i t' left' he; rw [h] at he; cases he

end Token

end SchemaShift
