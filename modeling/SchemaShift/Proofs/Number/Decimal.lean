import SchemaShift.Number.Integer
import SchemaShift.Text.Blank

/-!
# Numbers that are written in decimal

Statements hold numbers as decimal text. This file shows that every reader of such a text gets the
number back that was written.

Results:
* `natural?_repr`: a natural number is read back from its decimal text.
* `readUInt32?_repr`, `readInt64?_repr`: so are the words of 32 and of 64 bits.
* `trim_repr`: the decimal text of a natural number has no blanks at its ends.
-/

namespace SchemaShift.Number

/-! ## Runs of digits -/

theorem isDigit_bounds {c : Char} (h : c.isDigit = true) : 48 ≤ c.toNat ∧ c.toNat ≤ 57 :=
  Char.isDigit_iff_toNat.1 h

theorem digitValue?_of_isDigit {c : Char} (h : c.isDigit = true) :
    digitValue? 10 c = some (c.toNat - '0'.toNat) := by
  have bounds := isDigit_bounds h
  have small : c.toNat - '0'.toNat < 10 := by
    show c.toNat - 48 < 10
    omega
  rw [digitValue?]
  simp only [h, if_true]
  rw [Option.filter_some, decide_eq_true small]
  rfl

/-- Reading digits one by one gives the value of the whole run. -/
theorem foldlM_digitValue? {cs : List Char} (digits : ∀ c ∈ cs, c.isDigit = true) :
    ∀ value, cs.foldlM (fun value c => (digitValue? 10 c).map (value * 10 + ·)) value =
      some (Nat.ofDigitChars 10 cs value) := by
  induction cs with
  | nil => intro value; simp
  | cons c cs ih =>
    intro value
    have first := digitValue?_of_isDigit (digits c (by simp))
    rw [List.foldlM_cons, first, Nat.ofDigitChars_cons, Nat.mul_comm 10]
    exact ih (fun d hd => digits d (by simp [hd])) _

theorem natural?_of_digits {cs : List Char} (nonempty : cs ≠ [])
    (digits : ∀ c ∈ cs, c.isDigit = true) : natural? 10 cs = some (Nat.ofDigitChars 10 cs 0) := by
  rw [natural?]
  simp only [List.isEmpty_iff, nonempty, if_false]
  exact foldlM_digitValue? digits 0

/-! ## Written numbers -/

theorem isDigit_of_mem_repr {n : Nat} {c : Char} (h : c ∈ n.repr.toList) : c.isDigit = true := by
  rw [Nat.toList_repr] at h
  exact Nat.isDigit_of_mem_toDigits (by omega) (by omega) h

/-- A written natural number starts with a digit, and so with no sign. -/
theorem exists_toList_repr (n : Nat) : ∃ c cs, n.repr.toList = c :: cs ∧ c.isDigit = true := by
  have nonempty : n.repr.toList ≠ [] := by
    rw [Nat.toList_repr]
    exact Nat.toDigits_ne_nil
  obtain ⟨c, cs, h⟩ := List.exists_cons_of_ne_nil nonempty
  exact ⟨c, cs, h, isDigit_of_mem_repr (n := n) (by simp [h])⟩

theorem isDigits_repr (n : Nat) : isDigits n.repr.toList = true := by
  obtain ⟨c, cs, h, -⟩ := exists_toList_repr n
  rw [isDigits, Bool.and_eq_true, List.all_eq_true]
  exact ⟨by rw [h]; rfl, fun d hd => isDigit_of_mem_repr hd⟩

/-- A natural number is read back from its decimal text. -/
theorem natural?_repr (n : Nat) : natural? 10 n.repr.toList = some n := by
  obtain ⟨c, cs, h, -⟩ := exists_toList_repr n
  rw [natural?_of_digits (by simp [h]) (fun d hd => isDigit_of_mem_repr hd), Nat.toList_repr,
    Nat.ofDigitChars_ten_toDigits]

theorem integer?_repr_nat (n : Nat) : integer? 10 n.repr.toList = some (n : Int) := by
  obtain ⟨c, cs, h, digit⟩ := exists_toList_repr n
  have value := natural?_repr n
  rw [h] at value ⊢
  rw [integer?.eq_def]
  split
  · rename_i signed
    cases signed
    simp at digit
  · rename_i signed
    cases signed
    simp at digit
  · rw [value]
    rfl

/-- An integer is read back from its decimal text. -/
theorem integer?_repr (i : Int) : integer? 10 i.repr.toList = some i := by
  cases i with
  | ofNat n => exact integer?_repr_nat n
  | negSucc n =>
    have written : (Int.negSucc n).repr.toList = '-' :: (n + 1).repr.toList := by
      show ("-" ++ (n + 1).repr).toList = _
      rw [String.toList_append]
      rfl
    rw [written, integer?, natural?_repr]
    rfl

/-- A word of 32 bits is read back from its decimal text. -/
theorem readUInt32?_repr (n : UInt32) : readUInt32? n.toNat.repr = some n := by
  obtain ⟨c, cs, h, digit⟩ := exists_toList_repr n.toNat
  rw [readUInt32?]
  split
  · rename_i signed
    rw [h] at signed
    cases signed
    simp at digit
  · rw [natural?_repr, Option.bind_some, uint32?_toNat]

/-- A signed word of 64 bits is read back from its decimal text. -/
theorem readInt64?_repr (i : Int64) : readInt64? i.toInt.repr = some i := by
  rw [readInt64?, integer?_repr]
  exact int64?_toInt i

/-! ## Blanks -/

theorem not_isBlank_of_isDigit {c : Char} (h : c.isDigit = true) : Text.isBlank c = false := by
  have bounds := isDigit_bounds h
  simp only [Text.isBlank, Bool.or_eq_false_iff, Bool.and_eq_false_iff, decide_eq_false_iff_not,
    beq_eq_false_iff_ne]
  omega

/-- A written natural number has no blanks at its ends. -/
theorem trim_repr (n : Nat) : Text.trim n.repr = n.repr := by
  have clean : ∀ cs : List Char, (∀ c ∈ cs, c.isDigit = true) → Text.dropBlanks cs = cs := by
    intro cs digits
    cases cs with
    | nil => rfl
    | cons c cs => simp [Text.dropBlanks, not_isBlank_of_isDigit (digits c (by simp))]
  have digits : ∀ c ∈ n.repr.toList, c.isDigit = true := fun c hc => isDigit_of_mem_repr hc
  rw [Text.trim, Text.trimChars, clean _ digits,
    clean _ (fun c hc => digits c (List.mem_reverse.1 hc)), List.reverse_reverse,
    String.ofList_toList]

end SchemaShift.Number
