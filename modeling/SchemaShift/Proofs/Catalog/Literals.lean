import SchemaShift.Catalog.MySql
import SchemaShift.Catalog.Postgres
import SchemaShift.Catalog.Sqlite

/-!
# Literals in catalogs

SQLite and PostgreSQL report the default of a column as it was written, PostgreSQL with a cast
behind it. A quoted literal starts with a quote, so it is none of the words that readers of
defaults look for first, and it is unquoted to what was quoted. MySQL reports the text alone, which
is read as it stands unless it starts with a quote itself.

Results:
* `unquote_quoteLiteral`: a literal is unquoted to what was quoted.
* `unquote_eq_self_iff`: which texts that start with a quote are left alone.
* `contains_quoteLiteral_append`: what is found in a literal with something behind it.
* `Sqlite.readDefault_quoteLiteral`, `Postgres.readDefault_quoteLiteral`: the default that a literal
  is read as.
-/

namespace SchemaShift

/-! ## Quotes -/

namespace Text

theorem toList_quoteLiteral (s : String) :
    (quoteLiteral s).toList = '\'' :: (doubled '\'' s.toList ++ ['\'']) := by
  rw [quoteLiteral, quoted, String.toList_ofList]
  rfl

/-- A literal is unquoted to what was quoted. -/
theorem unquote_quoteLiteral (s : String) : unquote (quoteLiteral s) = s :=
  unquote_quoted (.inl rfl) s

/-- What starts with a quote starts with it in capitals as well. -/
theorem toList_asciiUpper_of_quote {text : String} {rest : List Char}
    (h : text.toList = '\'' :: rest) :
    (asciiUpper text).toList = '\'' :: rest.map Char.toUpper := by
  rw [asciiUpper, String.toList_ofList, h, List.map_cons]
  rfl

/-- What starts with a quote starts with no word. -/
theorem startsWith_asciiUpper_of_quote {text : String} {rest : List Char}
    (h : text.toList = '\'' :: rest) (start : String)
    (plain : start.toList.head?.any (· != '\'') = true) :
    startsWith start (asciiUpper text) = false := by
  rw [startsWith, toList_asciiUpper_of_quote h]
  cases split : start.toList with
  | nil => simp [split] at plain
  | cons c cs =>
    have other : c ≠ '\'' := by simpa [split] using plain
    rw [List.isPrefixOf_cons_cons, beq_false_of_ne other, Bool.false_and]

/-- What starts with a quote is no word. -/
theorem asciiUpper_ne_of_quote {text : String} {rest : List Char} (h : text.toList = '\'' :: rest)
    {word : String} (plain : word.toList.head?.any (· != '\'') = true) :
    asciiUpper text ≠ word := by
  rintro rfl
  rw [toList_asciiUpper_of_quote h] at plain
  simp at plain

theorem length_collapse_le (q : Char) (cs : List Char) :
    (collapse q cs).length ≤ cs.length := by
  fun_induction collapse q cs with
  | case1 | case2 => exact Nat.le_refl _
  | case3 c d rest both ih =>
    simp only [List.length_cons]
    omega
  | case4 c d rest apart ih =>
    rw [List.length_cons, List.length_cons]
    exact Nat.succ_le_succ ih

/-- A quote keeps the blanks behind it away from those in front. -/
theorem trimChars_cons_quote (rest : List Char) :
    trimChars ('\'' :: rest) = '\'' :: (dropBlanks rest.reverse).reverse := by
  have quote : dropBlanks ['\''] = ['\''] := by decide
  have first : dropBlanks ('\'' :: rest) = '\'' :: rest :=
    List.dropWhile_cons_of_neg (by decide)
  have last : dropBlanks (rest.reverse ++ ['\'']) = dropBlanks rest.reverse ++ ['\''] := by
    rw [dropBlanks, List.dropWhile_append]
    split
    · rename_i none
      rw [dropBlanks, List.isEmpty_iff.1 none]
      exact quote
    · rfl
  rw [trimChars, first, List.reverse_cons, last, List.reverse_append]
  rfl

/-- What starts with a quote is unquoted if it ends with one as well. -/
theorem unquoteChars_of_quote {cs rest : List Char} (h : trimChars cs = '\'' :: rest) :
    unquoteChars cs =
      if rest.getLast? = some '\'' then collapse '\'' rest.dropLast else '\'' :: rest := by
  have single : between? '\'' ('\'' :: rest) =
      if rest.getLast? = some '\'' then some rest.dropLast else none := by simp [between?]
  have double : between? doubleQuote ('\'' :: rest) = none := by simp [between?, doubleQuote]
  have backtick : between? backtick ('\'' :: rest) = none := by simp [between?, backtick]
  by_cases closed : rest.getLast? = some '\''
  · rw [if_pos closed] at single ⊢
    simp [unquoteChars, h, List.findSome?, singleQuote, single]
  · rw [if_neg closed] at single ⊢
    simp [unquoteChars, h, List.findSome?, singleQuote, single, double, backtick]

/-- Nothing gets longer when it is unquoted. -/
theorem length_unquoteChars_le {cs rest : List Char} (h : trimChars cs = '\'' :: rest) :
    (unquoteChars cs).length ≤ rest.length + 1 := by
  rw [unquoteChars_of_quote h]
  split
  · have := length_collapse_le '\'' rest.dropLast
    rw [List.length_dropLast] at this
    omega
  · exact Nat.le_refl _

/-- A text that starts with a quote is left alone when it ends with neither a quote nor a blank, or
holds nothing else. -/
theorem unquote_eq_self_iff {text : String} {rest : List Char} (h : text.toList = '\'' :: rest) :
    unquote text = text ↔ ∀ c ∈ rest.getLast?, c ≠ '\'' ∧ isBlank c = false := by
  have chars : unquote text = text ↔ unquoteChars text.toList = text.toList := by
    rw [unquote, ← String.toList_inj, String.toList_ofList]
  rw [chars, h]
  rcases List.eq_nil_or_concat rest with rfl | ⟨init, last, rfl⟩
  · simp [unquoteChars_of_quote (trimChars_cons_quote []), dropBlanks]
  rw [List.concat_eq_append]
  have reversed : (init ++ [last]).reverse = last :: init.reverse := by simp
  have trimmed := trimChars_cons_quote (init ++ [last])
  rw [reversed, dropBlanks] at trimmed
  by_cases blank : isBlank last = true
  · -- The blank is dropped, so what is left is shorter.
    rw [List.dropWhile_cons_of_pos blank] at trimmed
    have short : (init.reverse.dropWhile isBlank).length ≤ init.length := by
      simpa using Token.length_dropWhile_le isBlank init.reverse
    have shorter := length_unquoteChars_le trimmed
    have different : unquoteChars ('\'' :: (init ++ [last])) ≠ '\'' :: (init ++ [last]) := by
      intro same
      rw [same, List.length_cons, List.length_append, List.length_singleton, List.length_reverse]
        at shorter
      omega
    simp [different, blank]
  · rw [List.dropWhile_cons_of_neg blank, ← reversed, List.reverse_reverse] at trimmed
    rw [unquoteChars_of_quote trimmed]
    by_cases quote : last = '\''
    · subst quote
      have short := length_collapse_le '\'' init
      have different : collapse '\'' init ≠ '\'' :: (init ++ ['\'']) := by
        intro same
        rw [same, List.length_cons, List.length_append, List.length_singleton] at short
        omega
      simp [different]
    · simp [quote, blank]

/-! ## What is found in a literal -/

section

variable {q : Char} {needle : List Char}

theorem isPrefixOf_append_cons (apart : q ∉ needle) (xs ys : List Char) :
    needle.isPrefixOf (xs ++ q :: ys) = needle.isPrefixOf xs := by
  induction needle generalizing xs with
  | nil => simp
  | cons n ns ih =>
    obtain ⟨other, others⟩ := List.ne_and_not_mem_of_not_mem_cons apart
    cases xs with
    | nil => simp [List.isPrefixOf, Ne.symm other]
    | cons x xs => simp [List.isPrefixOf, ih others]

theorem isPrefixOf_doubled (apart : q ∉ needle) (cs : List Char) :
    needle.isPrefixOf (doubled q cs) = needle.isPrefixOf cs := by
  induction cs generalizing needle with
  | nil => rfl
  | cons c cs ih =>
    cases needle with
    | nil => simp
    | cons n ns =>
      obtain ⟨other, others⟩ := List.ne_and_not_mem_of_not_mem_cons apart
      by_cases quote : c = q
      · subst quote
        rw [doubled_cons_self]
        simp [List.isPrefixOf, beq_false_of_ne (Ne.symm other)]
      · rw [doubled_cons_of_ne quote]
        simp [List.isPrefixOf, ih others]

/-- What holds no quote is found in front of a quote or behind it. -/
theorem containsChars_append_cons (some : needle ≠ []) (apart : q ∉ needle) (xs ys : List Char) :
    containsChars needle (xs ++ q :: ys) =
      (containsChars needle xs || containsChars needle ys) := by
  have nowhere : containsChars needle [] = false := by simp [containsChars, some]
  induction xs with
  | nil =>
    have elsewhere := isPrefixOf_append_cons apart [] ys
    rw [List.nil_append] at elsewhere ⊢
    rw [nowhere, containsChars.eq_def]
    simp [elsewhere, some]
  | cons x xs ih =>
    have here := isPrefixOf_append_cons apart (x :: xs) ys
    rw [List.cons_append] at here ⊢
    rw [containsChars, here, ih, containsChars, Bool.or_assoc]

theorem containsChars_doubled (some : needle ≠ []) (apart : q ∉ needle) (cs : List Char) :
    containsChars needle (doubled q cs) = containsChars needle cs := by
  have nowhere : containsChars needle [] = false := by simp [containsChars, some]
  have behind (ys : List Char) : containsChars needle (q :: ys) = containsChars needle ys := by
    have split := containsChars_append_cons some apart [] ys
    rwa [nowhere, Bool.false_or] at split
  induction cs with
  | nil => rfl
  | cons c cs ih =>
    by_cases quote : c = q
    · subst quote
      rw [doubled_cons_self, behind, behind, behind, ih]
    · have here := isPrefixOf_doubled apart (c :: cs)
      rw [doubled_cons_of_ne quote] at here ⊢
      rw [containsChars, here, ih, containsChars]

/-- What holds no quote is found in a literal where it is found in the text. -/
theorem contains_quoteLiteral_append {needle : String} (some : needle.toList ≠ [])
    (apart : '\'' ∉ needle.toList) (s behind : String) :
    contains needle (quoteLiteral s ++ behind) = (contains needle s || contains needle behind) := by
  have nowhere : containsChars needle.toList [] = false := by simp [containsChars, some]
  have split := containsChars_append_cons some apart []
    (doubled '\'' s.toList ++ '\'' :: behind.toList)
  rw [nowhere, Bool.false_or] at split
  have text : (quoteLiteral s ++ behind).toList =
      [] ++ '\'' :: (doubled '\'' s.toList ++ '\'' :: behind.toList) := by
    rw [String.toList_append, toList_quoteLiteral]
    simp
  rw [contains, text, split, containsChars_append_cons some apart, containsChars_doubled some apart]
  rfl

end

/-! ## Bare texts -/

/-- A text that can stand for itself where texts are reported without quotes: it is not the word
for an absent default, and what starts with a quote ends with neither a quote nor a blank. -/
def ReadsBare (text : String) : Prop :=
  asciiUpper text ≠ "NULL" ∧
    ∀ rest, text.toList = '\'' :: rest → ∀ c ∈ rest.getLast?, c ≠ '\'' ∧ isBlank c = false

end Text

namespace Catalog

/-! ## Quoted literals -/

/-- On SQLite a literal is the default that was quoted. -/
theorem Sqlite.readDefault_quoteLiteral (c : Column) (s : String) :
    readDefault c (Text.quoteLiteral s) = { c with default := some (.ofLiteral s c.type) } := by
  have opened := Text.toList_quoteLiteral s
  have time : Text.asciiUpper (Text.quoteLiteral s) ≠ "CURRENT_TIMESTAMP" :=
    Text.asciiUpper_ne_of_quote opened (by decide)
  have null : Text.asciiUpper (Text.quoteLiteral s) ≠ "NULL" :=
    Text.asciiUpper_ne_of_quote opened (by decide)
  have quoted : Text.startsWith "'" (Text.quoteLiteral s) = true := by
    rw [Text.startsWith, opened]
    rfl
  simp [readDefault, time, null, quoted, Text.unquote_quoteLiteral]

/-- The literal at the start of a text ends at the quote that closes it. -/
theorem Postgres.literalRest_doubled {rest : List Char} (apart : rest.head? ≠ some '\'')
    (cs : List Char) :
    literalRest (Text.doubled '\'' cs ++ '\'' :: rest) = Text.doubled '\'' cs ++ ['\''] := by
  induction cs with
  | nil =>
    cases rest with
    | nil => rfl
    | cons d rest =>
      have other : d ≠ '\'' := by rintro rfl; exact apart rfl
      simp [literalRest, Text.singleQuote, other]
  | cons c cs ih =>
    by_cases quote : c = '\''
    · subst quote
      rw [Text.doubled_cons_self]
      simp [literalRest, Text.singleQuote, ih]
    · rw [Text.doubled_cons_of_ne quote]
      obtain ⟨d, ds, h⟩ := List.exists_cons_of_ne_nil
        (show Text.doubled '\'' cs ++ '\'' :: rest ≠ [] by simp)
      rw [h] at ih
      simp [literalRest, h, Text.singleQuote, quote, ih]

/-- On PostgreSQL a literal with a cast behind it is the default that was quoted. -/
theorem Postgres.readDefault_quoteLiteral (c : Column) (s : String) {cast : String}
    (apart : cast.toList.head? ≠ some '\'') :
    readDefault c (Text.quoteLiteral s ++ cast) =
      { c with default := some (.ofLiteral s c.type) } := by
  have opened : (Text.quoteLiteral s ++ cast).toList =
      '\'' :: (Text.doubled '\'' s.toList ++ '\'' :: cast.toList) := by
    rw [String.toList_append, Text.toList_quoteLiteral]
    simp
  have time := Text.startsWith_asciiUpper_of_quote opened "CURRENT_TIMESTAMP" (by decide)
  have now := Text.startsWith_asciiUpper_of_quote opened "NOW()" (by decide)
  have null := Text.startsWith_asciiUpper_of_quote opened "NULL" (by decide)
  have literal : Text.unquote (String.ofList
      ('\'' :: literalRest (Text.doubled '\'' s.toList ++ '\'' :: cast.toList))) = s := by
    rw [literalRest_doubled apart, ← Text.toList_quoteLiteral, String.ofList_toList,
      Text.unquote_quoteLiteral]
  simp only [readDefault, time, now, null, opened, literal, Bool.or_self, Bool.and_false,
    Bool.false_eq_true, if_false]

/-! ## Bare literals -/

/-- On MySQL a text that is no date is the default of a column exactly when it can stand for
itself. -/
theorem MySql.default_readDefault_iff {c : Column} (text : c.type.isNumeric = false)
    (plain : c.type.isTemporal = false) (none : c.default = none) (s : String) :
    (readDefault c s false).default = some (.text s) ↔ Text.ReadsBare s := by
  unfold readDefault Text.ReadsBare
  simp only [plain, Bool.false_and, Bool.false_eq_true, if_false]
  by_cases null : Text.asciiUpper s = "NULL"
  · simp [null, none]
  · rw [if_neg null]
    simp only [DefaultValue.ofLiteral_eq_text text, Option.some.injEq, DefaultValue.text.injEq]
    by_cases quote : Text.startsWith "'" s = true
    · obtain ⟨rest, opened⟩ := List.isPrefixOf_iff_prefix.1 quote
      replace opened : s.toList = '\'' :: rest := opened.symm
      rw [if_pos quote, Text.unquote_eq_self_iff opened]
      simp [null, opened]
    · rw [if_neg quote]
      have unopened : ∀ rest, s.toList ≠ '\'' :: rest := by
        intro rest opened
        rw [Text.startsWith, opened] at quote
        exact quote rfl
      simp [null, unopened]

end Catalog

end SchemaShift
