import SchemaShift.Proofs.Ddl.Lexing

/-!
# Standard literals and comments as tokens

A standard literal doubles its quotes and nothing else, while the reader of string literals also
undoes backslash escapes. A text between two quotes is therefore read as one token only if none of
its backslashes takes a quote for the character it escapes (`ClosesLiteral`), and what is read is
the text with its escapes undone. A comment ends at the first `*/`, so that a text between the
delimiters is read as a whole only if it does not hold them.

Results:
* `scanQuoted_literal_iff`: the literals that end where they were written to end, and what they
  are read as.
* `unescaped_eq_self_iff`: such a text is read as itself exactly when it has no backslash.
* `lexes_literal`, `lexes_comment`: such literals and comments are one token.
-/

namespace SchemaShift

namespace Text

/-! ## Escapes in standard literals -/

/-- No backslash of a text stands in front of a quote or at the end, unless it is escaped
itself. -/
def ClosesLiteral : List Char → Prop
  | [] => True
  | [c] => c ≠ '\\'
  | c :: d :: rest =>
    if c = '\\' then d ≠ '\'' ∧ ClosesLiteral rest else ClosesLiteral (d :: rest)

instance decidableClosesLiteral : (cs : List Char) → Decidable (ClosesLiteral cs)
  | [] => .isTrue trivial
  | [c] => inferInstanceAs (Decidable (c ≠ '\\'))
  | c :: d :: rest =>
    have := decidableClosesLiteral rest
    have := decidableClosesLiteral (d :: rest)
    inferInstanceAs (Decidable (if c = '\\' then _ else _))

/-- A text with its backslash escapes undone. -/
def unescaped : List Char → List Char
  | [] => []
  | [c] => [c]
  | c :: d :: rest =>
    if c = '\\' then Token.unescape d :: unescaped rest else c :: unescaped (d :: rest)

/-- A text with its backslash escapes undone. -/
def unescapedText (s : String) : String := String.ofList (unescaped s.toList)

theorem closesLiteral_of_not_mem {cs : List Char} (h : '\\' ∉ cs) : ClosesLiteral cs := by
  fun_induction ClosesLiteral cs with
  | case1 => trivial
  | case2 c =>
    rintro rfl
    simp at h
  | case3 d rest _ => simp at h
  | case4 c d rest _ ih => exact ih fun mem => h (List.mem_cons_of_mem _ mem)

theorem unescaped_of_not_mem {cs : List Char} (h : '\\' ∉ cs) : unescaped cs = cs := by
  fun_induction unescaped cs with
  | case1 => rfl
  | case2 c => rfl
  | case3 d rest _ => simp at h
  | case4 c d rest _ ih => rw [ih fun mem => h (List.mem_cons_of_mem _ mem)]

theorem length_unescaped_le (cs : List Char) : (unescaped cs).length ≤ cs.length := by
  fun_induction unescaped cs <;> simp_all
  omega

/-- Undoing an escape leaves one character for two. -/
theorem unescaped_eq_self_iff {cs : List Char} (h : ClosesLiteral cs) :
    unescaped cs = cs ↔ '\\' ∉ cs := by
  refine ⟨fun same => ?_, unescaped_of_not_mem⟩
  fun_induction ClosesLiteral cs with
  | case1 => simp
  | case2 c => simpa using Ne.symm h
  | case3 d rest _ =>
    have shorter := length_unescaped_le rest
    have lengths := congrArg List.length same
    simp [unescaped] at lengths
    omega
  | case4 c d rest other ih =>
    simp only [unescaped, if_neg other, List.cons.injEq, true_and] at same
    have tail := ih h same
    rw [List.mem_cons, not_or]
    exact ⟨fun same => other same.symm, tail⟩

theorem unescapedText_eq_self_iff {s : String} (h : ClosesLiteral s.toList) :
    unescapedText s = s ↔ '\\' ∉ s.toList := by
  rw [← unescaped_eq_self_iff h, unescapedText, ← String.toList_inj, String.toList_ofList]

/-! ## Texts that a comment can hold -/

/-- A text holds no end of a comment. -/
def StaysInComment (cs : List Char) : Prop := ¬ ['*', '/'] <:+: cs

instance (cs : List Char) : Decidable (StaysInComment cs) :=
  @instDecidableNot _ (List.instDecidableIsInfixOfDecidableEq ['*', '/'] cs)

theorem staysInComment_cons {c : Char} {cs : List Char} :
    StaysInComment (c :: cs) ↔ (c = '*' → cs.head? ≠ some '/') ∧ StaysInComment cs := by
  rw [StaysInComment, StaysInComment, List.infix_cons_iff, not_or, and_congr_left_iff]
  intro _
  cases cs with
  | nil => simp
  | cons d cs => simp [List.cons_prefix_cons, eq_comm]

theorem StaysInComment.cons_of_ne {c : Char} {cs : List Char} (h : StaysInComment cs)
    (other : c ≠ '*') : StaysInComment (c :: cs) :=
  staysInComment_cons.2 ⟨fun star => absurd star other, h⟩

theorem StaysInComment.append {a b : List Char} (ha : StaysInComment a) (hb : StaysInComment b)
    (apart : b.head? ≠ some '/') : StaysInComment (a ++ b) := by
  induction a with
  | nil => exact hb
  | cons c cs ih =>
    obtain ⟨first, others⟩ := staysInComment_cons.1 ha
    refine staysInComment_cons.2 ⟨fun star => ?_, ih others⟩
    cases cs with
    | nil => exact apart
    | cons d cs => exact first star

theorem staysInComment_of_not_mem {cs : List Char} (h : '*' ∉ cs) : StaysInComment cs := by
  rintro ⟨before, after, rfl⟩
  simp at h

theorem staysInComment_doubled {cs : List Char} (h : StaysInComment cs) :
    StaysInComment (doubled '\'' cs) := by
  induction cs with
  | nil => exact h
  | cons c cs ih =>
    obtain ⟨first, others⟩ := staysInComment_cons.1 h
    by_cases quote : c = '\''
    · subst quote
      rw [doubled_cons_self]
      exact ((ih others).cons_of_ne (by decide)).cons_of_ne (by decide)
    · rw [doubled_cons_of_ne quote]
      refine staysInComment_cons.2 ⟨fun star slash => first star ?_, ih others⟩
      -- Doubling never makes the next character a slash.
      cases cs with
      | nil => cases slash
      | cons d cs =>
        by_cases second : d = '\''
        · subst second
          rw [doubled_cons_self] at slash
          cases slash
        · rw [doubled_cons_of_ne second] at slash
          exact slash

/-- The blanks at the ends of a text are what trimming takes. -/
theorem trimChars_of_ends {cs : List Char} (first : ∀ c ∈ cs.head?, isBlank c = false)
    (last : ∀ c ∈ cs.getLast?, isBlank c = false) : trimChars cs = cs := by
  have clean : ∀ {ds : List Char}, (∀ c ∈ ds.head?, isBlank c = false) → dropBlanks ds = ds := by
    intro ds h
    cases ds with
    | nil => rfl
    | cons d ds => simp [dropBlanks, h d rfl]
  rw [trimChars, clean first, clean (by simpa using last), List.reverse_reverse]

end Text

namespace Token

open Text (ClosesLiteral StaysInComment unescaped)

/-! ## String literals -/

variable {c : Char} {cs rest text : List Char}

theorem map_cons_eq_some_iff {read : Option (List Char × List Char)} :
    (read.map fun (text, rest) => (c :: text, rest)) = some (text, rest) ↔
      ∃ t, read = some (t, rest) ∧ text = c :: t := by
  constructor
  · intro read
    obtain ⟨⟨t, left⟩, found, same⟩ := Option.map_eq_some_iff.1 read
    cases same
    exact ⟨t, found, rfl⟩
  · rintro ⟨t, rfl, rfl⟩
    rfl

/-- An escape is read as the character it stands for. -/
theorem scanQuoted_escape_iff : scanQuoted '\'' true ('\\' :: c :: cs) = some (text, rest) ↔
    ∃ t, scanQuoted '\'' true cs = some (t, rest) ∧ text = unescape c :: t := by
  rw [← map_cons_eq_some_iff]
  simp [scanQuoted]

/-- A doubled quote is read as one. -/
theorem scanQuoted_pair_iff : scanQuoted '\'' true ('\'' :: '\'' :: cs) = some (text, rest) ↔
    ∃ t, scanQuoted '\'' true cs = some (t, rest) ∧ text = '\'' :: t := by
  rw [← map_cons_eq_some_iff]
  simp [scanQuoted]

/-- A character that is no escape and no quote is read as itself. -/
theorem scanQuoted_cons_iff (slash : c ≠ '\\') (quote : c ≠ '\'') (more : cs ≠ []) :
    scanQuoted '\'' true (c :: cs) = some (text, rest) ↔
      ∃ t, scanQuoted '\'' true cs = some (t, rest) ∧ text = c :: t := by
  obtain ⟨d, ds, rfl⟩ := List.exists_cons_of_ne_nil more
  rw [← map_cons_eq_some_iff]
  simp [scanQuoted, slash, quote]

/-- Reading quoted text takes its closing quote. -/
theorem length_scanQuoted_lt {q : Char} {escapes : Bool}
    (h : scanQuoted q escapes cs = some (text, rest)) : rest.length < cs.length := by
  unfold scanQuoted at h
  split at h
  · cases h
  · split at h
    · cases h
      simp
    · cases h
  · rename_i c d tail
    split at h
    · obtain ⟨⟨t, left⟩, found, eq⟩ := Option.map_eq_some_iff.1 h
      cases eq
      have := length_scanQuoted_le found
      simp
      omega
    · split at h
      · split at h
        · obtain ⟨⟨t, left⟩, found, eq⟩ := Option.map_eq_some_iff.1 h
          cases eq
          have := length_scanQuoted_le found
          simp
          omega
        · cases h
          simp
      · obtain ⟨⟨t, left⟩, found, eq⟩ := Option.map_eq_some_iff.1 h
        cases eq
        have := length_scanQuoted_le found
        simp at this ⊢
        omega

/-- A quote that an escape has taken leaves the reader in front of an odd number of quotes, and
none of them ends the text where it was written to end. -/
theorem scanQuoted_odd_ne (cs rest text : List Char) :
    scanQuoted '\'' true ('\'' :: (Text.doubled '\'' cs ++ '\'' :: rest)) ≠
      some (text, rest) := by
  induction cs generalizing text with
  | nil =>
    intro read
    obtain ⟨t, found, -⟩ := scanQuoted_pair_iff.1 read
    exact Nat.lt_irrefl _ (length_scanQuoted_lt found)
  | cons c cs ih =>
    intro read
    by_cases quote : c = '\''
    · subst quote
      rw [Text.doubled_cons_self] at read
      obtain ⟨t, found, -⟩ := scanQuoted_pair_iff.1 read
      exact ih t found
    · -- The text ends here already, with characters of it to come.
      rw [Text.doubled_cons_of_ne quote, List.cons_append] at read
      simp only [scanQuoted, quote] at read
      have := congrArg List.length (congrArg Prod.snd (Option.some.inj read))
      simp at this
      omega

/-- A standard literal is read up to its closing quote exactly when no escape takes a quote, and
then its escapes are undone. -/
theorem scanQuoted_literal_iff (apart : rest.head? ≠ some '\'') :
    scanQuoted '\'' true (Text.doubled '\'' cs ++ '\'' :: rest) = some (text, rest) ↔
      ClosesLiteral cs ∧ text = unescaped cs := by
  have closing : scanQuoted '\'' true ('\'' :: rest) = some ([], rest) := by
    cases rest with
    | nil => simp [scanQuoted]
    | cons d rest =>
      have other : d ≠ '\'' := by rintro rfl; exact apart rfl
      simp [scanQuoted, other]
  fun_induction ClosesLiteral cs generalizing text with
  | case1 => simp [closing, unescaped, eq_comm]
  | case2 c =>
    by_cases slash : c = '\\'
    · subst slash
      have taken : ∀ t, scanQuoted '\'' true rest ≠ some (t, rest) := fun t found =>
        Nat.lt_irrefl _ (length_scanQuoted_lt found)
      simp [Text.doubled_cons_of_ne, scanQuoted_escape_iff, taken]
    · by_cases quote : c = '\''
      · subst quote
        simp [Text.doubled_cons_self, scanQuoted_pair_iff, closing, unescaped]
      · simp [Text.doubled_cons_of_ne quote, scanQuoted_cons_iff slash quote, closing, slash,
          unescaped]
  | case3 d cs ih =>
    rw [Text.doubled_cons_of_ne (by decide)]
    by_cases quote : d = '\''
    · subst quote
      rw [Text.doubled_cons_self]
      have taken := scanQuoted_odd_ne cs rest
      simp [scanQuoted_escape_iff, taken]
    · rw [Text.doubled_cons_of_ne quote]
      simp [scanQuoted_escape_iff, ih, quote, unescaped, and_assoc]
  | case4 c d cs other ih =>
    rw [unescaped, if_neg other]
    by_cases quote : c = '\''
    · subst quote
      rw [Text.doubled_cons_self]
      simp [scanQuoted_pair_iff, ih, and_assoc]
    · rw [Text.doubled_cons_of_ne quote, List.cons_append,
        scanQuoted_cons_iff other quote (by simp)]
      simp [ih, and_assoc]

/-- A literal that ends where it was written to end is one token. -/
theorem lexes_literal {value : String} (h : ClosesLiteral value.toList) :
    Lexes (Text.quoteLiteral value).toList [str (Text.unescapedText value)] := by
  rw [Text.quoteLiteral, toList_quoted, Text.singleQuote]
  refine lexes_of_scanOne (some (str _)) [] ?_ lexes_nil
  intro rest hrest
  have apart : rest.head? ≠ some '\'' := head?_ne_of_follows hrest (by decide)
  have found := quotedToken_eq str ((scanQuoted_literal_iff apart).2 ⟨h, rfl⟩)
  rw [List.append_assoc]
  unfold scanOne
  rw [if_neg (by decide), if_neg (by simp), if_neg (by simp),
    if_neg (by decide), if_pos (by decide)]
  exact found

/-! ## Comments -/

theorem scanComment_of_staysInComment {body : List Char} (h : StaysInComment body)
    (rest : List Char) : scanComment (body ++ '*' :: '/' :: rest) = some (body, rest) := by
  induction body with
  | nil => rfl
  | cons c body ih =>
    obtain ⟨first, others⟩ := Text.staysInComment_cons.1 h
    have early : ∀ tail, c = '*' → body ++ '*' :: '/' :: rest = '/' :: tail → False := by
      intro tail star slash
      cases body with
      | nil => cases slash
      | cons d body =>
        cases slash
        exact first star rfl
    rw [List.cons_append, scanComment.eq_2 _ _ early, ih others]
    rfl

/-- A comment is one token if it ends where it was written to end. -/
theorem lexes_comment (body : List Char) (h : StaysInComment body) :
    Lexes ('/' :: '*' :: (body ++ ['*', '/'])) [comment (String.ofList (Text.trimChars body))] := by
  refine lexes_of_scanOne (some (comment _)) [] ?_ lexes_nil
  intro rest _
  have found := scanComment_of_staysInComment h rest
  unfold scanOne
  rw [if_neg (by decide), if_neg (by simp), if_pos (by simp), List.cons_append, List.drop_one,
    List.tail_cons, List.append_assoc, List.cons_append, List.cons_append, List.nil_append,
    commentToken, found]

end Token

end SchemaShift
