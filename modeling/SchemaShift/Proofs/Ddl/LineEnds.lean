import SchemaShift.Proofs.Ddl.Lexing
import SchemaShift.Proofs.Except

/-!
# Line ends between texts

No lexeme but quoted text and a block comment goes on behind the end of its line, and these two
are closed when a text has tokens. What is written on the next line is therefore read apart from
what stands in front of it, whatever that is: a line comment, a word or an escaped quote.

Results:
* `scanOne_append_newline`: a lexeme is the same lexeme when a line is added to the text.
* `scanChars_append_newline`: the tokens of a text and of the line behind it.
* `scan_append_line`: so texts are read line by line, whatever the lines are.
-/

namespace SchemaShift.Token

variable {cs text left : List Char}

/-! ## Pieces of lexemes -/

theorem head?_append_newline {q : Char} (hq : q ≠ '\n') (cs rest : List Char) :
    (cs ++ '\n' :: rest).head? = some q ↔ cs.head? = some q := by
  cases cs with
  | nil => simp [hq.symm]
  | cons c cs => simp

/-- A run that no line end belongs to is not longer for the line behind it. -/
theorem takeWhile_append_newline {p : Char → Bool} (stop : p '\n' = false) (cs rest : List Char) :
    (cs ++ '\n' :: rest).takeWhile p = cs.takeWhile p ∧
      (cs ++ '\n' :: rest).dropWhile p = cs.dropWhile p ++ '\n' :: rest := by
  induction cs with
  | nil => simp [stop]
  | cons c cs ih => by_cases hc : p c <;> simp [hc, ih]

/-- Closed quotes stay closed where no quote follows. -/
theorem scanQuoted_append {q : Char} (hq : q ≠ '\\') {escapes : Bool} {more : List Char}
    (apart : more.head? ≠ some q) (h : scanQuoted q escapes cs = some (text, left)) :
    scanQuoted q escapes (cs ++ more) = some (text, left ++ more) := by
  fun_induction scanQuoted q escapes cs generalizing text left with
  | case1 => simp at h
  | case2 =>
    cases h
    cases more with
    | nil => simp [scanQuoted]
    | cons d more =>
      have other : d ≠ q := by rintro rfl; exact apart rfl
      simp [scanQuoted, hq, other]
  | case3 => simp at h
  | case4 c d rest escaped ih =>
    obtain ⟨⟨t, r⟩, behind, same⟩ := Option.map_eq_some_iff.1 h
    cases same
    have again := ih behind
    simp [scanQuoted, escaped, escaped.1 ▸ again]
  | case5 rest plain ih =>
    obtain ⟨⟨t, r⟩, behind, same⟩ := Option.map_eq_some_iff.1 h
    cases same
    simp [scanQuoted, hq, ih behind]
  | case6 d rest other =>
    cases h
    simp [scanQuoted, hq, other]
  | case7 c d rest plain other ih =>
    obtain ⟨⟨t, r⟩, behind, same⟩ := Option.map_eq_some_iff.1 h
    cases same
    have again := ih behind
    rw [List.cons_append] at again
    simp [scanQuoted, plain, other, again]

/-- A closed comment stays closed. -/
theorem scanComment_append (h : scanComment cs = some (text, left)) (more : List Char) :
    scanComment (cs ++ more) = some (text, left ++ more) := by
  fun_induction scanComment cs generalizing text left with
  | case1 =>
    cases h
    rfl
  | case2 c rest open' ih =>
    obtain ⟨⟨t, r⟩, behind, same⟩ := Option.map_eq_some_iff.1 h
    cases same
    have again := ih behind
    cases rest with
    | nil => cases behind
    | cons d rest =>
      rw [List.cons_append, scanComment, again]
      · rfl
      · rintro tail rfl same
        cases same
        exact open' rest rfl rfl
  | case3 => simp at h

theorem quotedToken_append_newline {q : Char} (slash : q ≠ '\\') (line : q ≠ '\n')
    {escapes : Bool} {token : String → Token} {t : Option Token}
    (h : quotedToken q escapes token cs = .ok (t, left)) (rest : List Char) :
    quotedToken q escapes token (cs ++ '\n' :: rest) = .ok (t, left ++ '\n' :: rest) := by
  unfold quotedToken at h
  split at h
  · rename_i scanned
    cases h
    exact quotedToken_eq token (scanQuoted_append slash (by simpa using line.symm) scanned)
  · cases h

theorem commentToken_append {t : Option Token} (h : commentToken cs = .ok (t, left))
    (more : List Char) : commentToken (cs ++ more) = .ok (t, left ++ more) := by
  unfold commentToken at h
  split at h
  · rename_i scanned
    cases h
    rw [commentToken, scanComment_append scanned]
  · cases h

/-! ## Whole texts -/

/-- A lexeme is the same lexeme when a line is added to the text. -/
theorem scanOne_append_newline {c : Char} {t : Option Token} (h : scanOne c cs = .ok (t, left))
    (rest : List Char) : scanOne c (cs ++ '\n' :: rest) = .ok (t, left ++ '\n' :: rest) := by
  have dash := head?_append_newline (q := '-') (by decide) cs rest
  have star := head?_append_newline (q := '*') (by decide) cs rest
  have digit : (cs ++ '\n' :: rest).head?.any Char.isDigit = cs.head?.any Char.isDigit := by
    cases cs <;> simp
  have line := takeWhile_append_newline (p := (· != '\n')) (by decide) cs rest
  have number := takeWhile_append_newline (p := inNumber) (by decide) cs rest
  have word := takeWhile_append_newline (p := inWord) (by decide) cs rest
  unfold scanOne at h ⊢
  simp only [dash, star, digit, line, number, word]
  split at h
  · rename_i blank
    cases h
    rw [if_pos blank]
  rename_i blank
  rw [if_neg blank]
  split at h
  · rename_i lineComment
    cases h
    rw [if_pos lineComment]
  rename_i lineComment
  rw [if_neg lineComment]
  split at h
  · rename_i block
    rw [if_pos block]
    obtain ⟨tail, rfl⟩ := List.head?_eq_some_iff.1 block.2
    exact commentToken_append h _
  rename_i block
  rw [if_neg block]
  split at h
  · rename_i quote
    rw [if_pos quote]
    rcases quote with rfl | rfl
    · exact quotedToken_append_newline (by decide) (by decide) h rest
    · exact quotedToken_append_newline (by decide) (by decide) h rest
  rename_i quote
  rw [if_neg quote]
  split at h
  · rename_i quote
    rw [if_pos quote]
    subst quote
    exact quotedToken_append_newline (by decide) (by decide) h rest
  rename_i string
  rw [if_neg string]
  split at h
  · cases h
    rfl
  split at h
  · rename_i digits
    cases h
    rw [if_pos digits]
  rename_i digits
  rw [if_neg digits]
  split at h
  · rename_i letter
    cases h
    rw [if_pos letter]
  · rename_i letter
    cases h
    rw [if_neg letter]

/-- The tokens of a text stand in front of those of the line behind it. -/
theorem scanChars_append_newline {ts : List Token} (h : scanChars cs = .ok ts)
    (rest : List Char) :
    scanChars (cs ++ '\n' :: rest) = (scanChars rest).map (ts ++ ·) := by
  have newline : scanChars ('\n' :: rest) = (scanChars rest).map ([] ++ ·) := by
    refine scanChars_cons (t := none) ?_
    unfold scanOne
    rw [if_pos (by decide)]
  -- The text gets shorter by a whole lexeme, not by a character.
  generalize size : cs.length = n
  induction n using Nat.strongRecOn generalizing cs ts with
  | ind n ih =>
  cases cs with
  | nil =>
    rw [scanChars_nil] at h
    cases h
    exact newline
  | cons c cs =>
    cases first : scanOne c cs with
    | error e =>
      rw [scanChars_cons_error first] at h
      cases h
    | ok lexeme =>
      obtain ⟨t, left⟩ := lexeme
      rw [scanChars_cons first] at h
      obtain ⟨others, scanned, rfl⟩ := Except.exists_of_map_eq_ok h
      have shorter : left.length < n := by
        have := length_scanOne_le first
        rw [← size, List.length_cons]
        omega
      rw [List.cons_append, scanChars_cons (scanOne_append_newline first rest),
        ih _ shorter scanned rfl]
      cases scanChars rest with
      | error e => rfl
      | ok ts => simp [Except.map]

/-- The lines behind a text that has tokens are read as if they stood alone: their tokens follow its
tokens, and where they fail, the whole fails in the same way. -/
theorem scan_append_line {a : String} {ts : List Token} (h : scan a = .ok ts) (b : String) :
    scan (a ++ "\n" ++ b) = (scan b).map (ts ++ ·) := by
  have text : (a ++ "\n" ++ b).toList = a.toList ++ '\n' :: b.toList := by simp
  rw [scan, text]
  exact scanChars_append_newline h b.toList

/-- A comment that is opened in a line comment is open on no other line, nor is a quote. -/
theorem scan_append_line_remark :
    scan "'it''s' -- it's /*" = .ok [str "it's"] ∧
      scan ("'it''s' -- it's /*" ++ "\n" ++ "*/ 'x'") =
        .ok [str "it's", symbol '*', symbol '/', str "x"] ∧
        scan ("'it''s' -- it's /*" ++ "\n" ++ "*/ 'x") =
          .error (.unknownToken "'" "unterminated quoted text") := by
  have first : scan "'it''s' -- it's /*" = .ok [str "it's"] := by decide +kernel
  have closed : scan "*/ 'x'" = .ok [symbol '*', symbol '/', str "x"] := by decide +kernel
  have unclosed : scan "*/ 'x" = .error (.unknownToken "'" "unterminated quoted text") := by
    decide +kernel
  refine ⟨first, ?_, ?_⟩
  · rw [scan_append_line first, closed]
    rfl
  · rw [scan_append_line first, unclosed]
    rfl

end SchemaShift.Token
