import SchemaShift.Column.Basic
import SchemaShift.Proofs.Number.Decimal
import SchemaShift.Sql.Text

/-!
# Literal defaults

An integer, a flag or a text is written as a quoted literal, and the type of the column decides how
the literal is read. The value may come back as another kind of default, but always as one that is
written in the same way.

Results:
* `literalText?_ofLiteral`: reading the literal of a default gives a default with that literal.
* `defaultLiteral_mySql`: on MySQL a default with a literal is that literal, quoted.
* `defaultLiteral_sqlite`, `plain_sqliteText?`: on SQLite so is every default but an expression, and
  only a text can bring quotes and backslashes with it.
-/

namespace SchemaShift

namespace Double

/-! ## Floating-point numbers as literals -/

/-- The characters of numbers in statements other than digits: the sign, the point and the letters
of `inf` and `NaN`. -/
def numberMarks : List Char := ['-', '.', 'i', 'n', 'f', 'N', 'a']

variable {c : Char}

theorem not_mem_plainText (digit : c.isDigit = false) (mark : c ∉ numberMarks) {digits : List Char}
    (h : ∀ d ∈ digits, d.isDigit = true) (exponent : Int) :
    c ∉ plainText false digits exponent := by
  have others : c ∉ digits := fun mem => by simp [h c mem] at digit
  have zero : c ≠ '0' := by rintro rfl; simp at digit
  have point : c ≠ '.' := by rintro rfl; exact mark (by decide)
  have taken : ∀ n, c ∉ digits.take n := fun n mem => others (List.mem_of_mem_take mem)
  have left : ∀ n, c ∉ digits.drop n := fun n mem => others (List.mem_of_mem_drop mem)
  unfold plainText
  dsimp only
  split
  · simp [others, zero]
  · split
    · simp [taken, left, point]
    · simp [others, zero, point]

/-- A number in a statement is made of digits and these characters. -/
theorem not_mem_render (digit : c.isDigit = false) (mark : c ∉ numberMarks) (x : Double) :
    c ∉ (x.render statementLayout).toList := by
  have zero : c ≠ '0' := by rintro rfl; simp at digit
  have magnitude : c ∉ magnitude statementLayout x := by
    unfold magnitude
    split
    · simp [statementLayout, zero]
    · exact not_mem_plainText digit mark
        (fun d mem => Nat.isDigit_of_mem_toDigits (by omega) (by omega) mem) _
  have sign : c ∉ (if x.negative then "-" else "").toList := by
    split
    · rintro mem
      simp at mem
      exact mark (by simp [mem, numberMarks])
    · simp
  simp only [numberMarks, List.mem_cons, List.not_mem_nil, or_false, not_or] at mark
  unfold render
  dsimp only
  split
  · simp [statementLayout, mark]
  · split
    · simpa [sign] using magnitude
    · simp [statementLayout, sign, mark]

end Double

namespace DefaultValue

/-- The text between the quotes of a default that is written as an integer, a flag or a text. -/
def literalText? : DefaultValue → Option String
  | integer i => some i.toInt.repr
  | bool b => some (if b then "1" else "0")
  | text s => some s
  | float _ | raw _ => none

/-! ## Integers as literals -/

/-- The characters of a written integer. -/
def inInteger (c : Char) : Bool := c.isDigit || c == '-'

theorem inInteger_of_mem_repr {i : Int} {c : Char} (h : c ∈ i.repr.toList) :
    inInteger c = true := by
  cases i with
  | ofNat n =>
    have digit := Number.isDigit_of_mem_repr (n := n) h
    simp [inInteger, digit]
  | negSucc n =>
    have written : (Int.negSucc n).repr.toList = '-' :: (n + 1).repr.toList := by
      show ("-" ++ (n + 1).repr).toList = _
      rw [String.toList_append]
      rfl
    rw [written] at h
    rcases List.mem_cons.1 h with rfl | h
    · rfl
    · have digit := Number.isDigit_of_mem_repr h
      simp [inInteger, digit]

theorem toLower_of_inInteger {c : Char} (h : inInteger c = true) : c.toLower = c := by
  have low : c.toNat < 65 := by
    simp only [inInteger, Bool.or_eq_true, beq_iff_eq] at h
    rcases h with digit | rfl
    · have := Number.isDigit_bounds digit
      omega
    · decide
  have small : ¬ (c.val ≥ 65 ∧ c.val ≤ 90) := by
    rintro ⟨h, -⟩
    have : 65 ≤ c.toNat := UInt32.le_iff_toNat_le.1 h
    omega
  exact dif_neg small

theorem asciiLower_repr (i : Int) : Text.asciiLower i.repr = i.repr := by
  have same : i.repr.toList.map Char.toLower = i.repr.toList := by
    refine (List.map_congr_left ?_).trans (List.map_id _)
    intro c hc
    exact toLower_of_inInteger (inInteger_of_mem_repr hc)
  rw [Text.asciiLower, same, String.ofList_toList]

theorem isIntegerLiteral_repr (i : Int) : isIntegerLiteral i.repr.toList = true := by
  cases i with
  | ofNat n =>
    obtain ⟨c, cs, text, digit⟩ := Number.exists_toList_repr n
    have same : unsignedPart n.repr.toList = n.repr.toList := by
      rw [text, unsignedPart.eq_def]
      split
      · rename_i signed
        cases signed
        simp at digit
      · rfl
    show Number.isDigits (unsignedPart n.repr.toList) = true
    rw [same]
    exact Number.isDigits_repr n
  | negSucc n =>
    have written : (Int.negSucc n).repr.toList = '-' :: (n + 1).repr.toList := by
      show ("-" ++ (n + 1).repr).toList = _
      rw [String.toList_append]
      rfl
    rw [isIntegerLiteral, written]
    exact Number.isDigits_repr (n + 1)

/-- A written integer is read back by a numeric column. -/
theorem number?_repr (i : Int64) : number? i.toInt.repr = some (integer i) := by
  rw [number?, isIntegerLiteral_repr, if_pos rfl, Number.readInt64?_repr]

/-- A flag that is read off a written integer is written as that integer. -/
theorem literalText?_flag {i : Int} {b : Bool} (h : flag? i.repr = some b) :
    (bool b).literalText? = some i.repr := by
  have letters : ∀ w ∈ ["true", "t", "false", "f"], i.repr ≠ w := by
    intro w hw same
    have none : ∀ w ∈ ["true", "t", "false", "f"], w.toList.all inInteger = false := by decide
    have all : i.repr.toList.all inInteger = true :=
      List.all_eq_true.2 fun c hc => inInteger_of_mem_repr hc
    rw [same, none w hw] at all
    cases all
  simp only [List.mem_cons, List.not_mem_nil, or_false, forall_eq_or_imp, forall_eq] at letters
  obtain ⟨true', t, false', f⟩ := letters
  rw [flag?, asciiLower_repr] at h
  simp only [List.contains_eq_mem, List.mem_cons, List.not_mem_nil, or_false, decide_eq_true_eq,
    true', t, false', f] at h
  split at h
  · rename_i one
    cases h
    rw [one]
    rfl
  · split at h
    · rename_i zero
      cases h
      rw [zero]
      rfl
    · cases h

theorem literalText?_ofLiteral_repr (i : Int64) (type : ColumnType) :
    (ofLiteral i.toInt.repr type).literalText? = some i.toInt.repr := by
  rw [ofLiteral]
  split
  · rename_i b flag
    split at flag
    · exact literalText?_flag flag
    · cases flag
  · rw [number?_repr]
    split <;> rfl

/-! ## Reading what was written -/

theorem literalText?_bool (b : Bool) :
    (bool b).literalText? = some (if b then (1 : Int64) else 0).toInt.repr := by
  cases b <;> decide

/-- Reading the literal of a default gives a default that is written in the same way. Text is out
of the question on a numeric column, where it can read as a number. -/
theorem literalText?_ofLiteral {v : DefaultValue} {w : String} {type : ColumnType}
    (written : v.literalText? = some w) (text : ∀ s, v = text s → type.isNumeric = false) :
    (ofLiteral w type).literalText? = some w := by
  cases v with
  | integer i =>
    cases written
    exact literalText?_ofLiteral_repr i type
  | bool b =>
    rw [literalText?_bool] at written
    cases written
    exact literalText?_ofLiteral_repr _ type
  | text s =>
    cases written
    rw [ofLiteral_eq_text (text _ rfl)]
    rfl
  | float _ => cases written
  | raw _ => cases written

/-! ## Writing -/

theorem quoteLiteral_of_plain {s : String} (quote : '\'' ∉ s.toList) :
    Text.quoteLiteral s = "'" ++ s ++ "'" := by
  rw [Text.quoteLiteral, Text.quoted, Text.quotedChars, Text.singleQuote,
    Text.doubled_of_not_mem quote]
  apply String.toList_inj.1
  simp

/-- A text without quotes and backslashes is its own literal. -/
theorem quoteMySqlLiteral_of_plain {s : String} (quote : '\'' ∉ s.toList)
    (slash : '\\' ∉ s.toList) : Text.quoteMySqlLiteral s = "'" ++ s ++ "'" := by
  rw [Text.quoteMySqlLiteral, Text.doubled_of_not_mem slash, String.ofList_toList,
    quoteLiteral_of_plain quote]

theorem plain_repr (i : Int) : '\'' ∉ i.repr.toList ∧ '\\' ∉ i.repr.toList :=
  ⟨fun mem => absurd (inInteger_of_mem_repr mem) (by decide),
    fun mem => absurd (inInteger_of_mem_repr mem) (by decide)⟩

/-- On MySQL a default with a literal is that literal, quoted. -/
theorem defaultLiteral_mySql {v : DefaultValue} {w : String} (h : v.literalText? = some w) :
    Dialect.mySql.defaultLiteral v = Text.quoteMySqlLiteral w := by
  cases v with
  | integer i =>
    cases h
    rw [quoteMySqlLiteral_of_plain (plain_repr _).1 (plain_repr _).2]
    rfl
  | bool b =>
    cases h
    cases b
    · rw [if_neg (by simp), quoteMySqlLiteral_of_plain (by decide) (by decide)]
      rfl
    · rw [if_pos rfl, quoteMySqlLiteral_of_plain (by decide) (by decide)]
      rfl
  | text s =>
    cases h
    rfl
  | float _ => cases h
  | raw _ => cases h

/-- The text between the quotes of a default that is written as a literal on SQLite. -/
def sqliteText? : DefaultValue → Option String
  | float x => some (x.render Double.statementLayout)
  | v => v.literalText?

theorem sqliteText?_isSome {v : DefaultValue} (h : ∀ sql, v ≠ raw sql) :
    v.sqliteText?.isSome = true := by
  cases v with
  | raw sql => exact absurd rfl (h sql)
  | _ => rfl

/-- Numbers and flags are written without quotes and backslashes. -/
theorem plain_sqliteText? {v : DefaultValue} {w : String} (h : v.sqliteText? = some w)
    (other : ∀ s, v ≠ text s) : '\'' ∉ w.toList ∧ '\\' ∉ w.toList := by
  cases v with
  | integer i =>
    cases h
    exact plain_repr i.toInt
  | float x =>
    cases h
    exact ⟨x.not_mem_render (by decide) (by decide), x.not_mem_render (by decide) (by decide)⟩
  | bool b =>
    cases h
    cases b <;> decide
  | text s => exact absurd rfl (other s)
  | raw _ => cases h

/-- On SQLite a default with such a text is that text, quoted. -/
theorem defaultLiteral_sqlite {v : DefaultValue} {w : String} (h : v.sqliteText? = some w) :
    Dialect.sqlite.defaultLiteral v = Text.quoteLiteral w := by
  cases v with
  | text s =>
    cases h
    rfl
  | raw _ => cases h
  | integer i =>
    have plain := plain_sqliteText? h (by simp)
    cases h
    rw [quoteLiteral_of_plain plain.1]
    rfl
  | float x =>
    have plain := plain_sqliteText? h (by simp)
    cases h
    rw [quoteLiteral_of_plain plain.1]
    rfl
  | bool b =>
    cases h
    cases b
    · rw [if_neg (by simp), quoteLiteral_of_plain (by decide)]
      rfl
    · rw [if_pos rfl, quoteLiteral_of_plain (by decide)]
      rfl

end DefaultValue

end SchemaShift
