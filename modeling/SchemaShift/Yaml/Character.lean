/-!
# Characters of YAML text

The classes of characters that the presentation of a document depends on. Line breaks are more
than the line feed: a carriage return, the next-line control and the line and paragraph separators
of Unicode end a line too.

* `not_isBreak_of_isSpacing`: spaces and tabs end no line.
* `foldGap_of_not_break`: a gap within a line stays as it is.
-/

namespace SchemaShift.Yaml

/-- The next-line control. -/
def nextLine : Char := Char.ofNat 0x85

/-- The line separator. -/
def lineSeparator : Char := Char.ofNat 0x2028

/-- The paragraph separator. -/
def paragraphSeparator : Char := Char.ofNat 0x2029

/-- The byte order mark. -/
def byteOrderMark : Char := Char.ofNat 0xfeff

/-- The characters that end a line. -/
def isBreak (c : Char) : Bool :=
  c == '\n' || c == '\r' || c == nextLine || c == lineSeparator || c == paragraphSeparator

/-- Spaces and tabs. -/
def isSpacing (c : Char) : Bool := c == ' ' || c == '\t'

/-- What separates words on a line or lines from one another. -/
def isGap (c : Char) : Bool := isSpacing c || isBreak c

/-- Whether a gap or the end of the text comes next. -/
def endsWord : List Char → Bool
  | [] => true
  | c :: _ => isGap c

/-- The characters a document may hold. -/
def isAllowed (c : Char) : Bool :=
  let n := c.toNat
  n == 9 || n == 10 || n == 13 || (0x20 ≤ n && n ≤ 0x7e) || n == 0x85 ||
    (0xa0 ≤ n && n ≤ 0xd7ff) || (0xe000 ≤ n && n ≤ 0xfffd) || 0x10000 ≤ n

/-- The characters that are written as themselves. -/
def isPrintable (c : Char) : Bool :=
  let n := c.toNat
  n == 10 || (0x20 ≤ n && n ≤ 0x7e) || (0xa0 ≤ n && n ≤ 0xd7ff) ||
    (0xe000 ≤ n && n ≤ 0xfffd && n != 0xfeff) || 0x10000 ≤ n

/-! ## Runs of characters -/

/-- Whether two neighbouring characters satisfy two conditions. -/
def hasAdjacent (p q : Char → Bool) : List Char → Bool
  | a :: b :: rest => (p a && q b) || hasAdjacent p q (b :: rest)
  | _ => false

/-- Whether a text ends with a break. -/
def endsLine (cs : List Char) : Bool := (cs.getLast?.map isBreak).getD false

/-- Whether a document starts or ends here, given that a line does. -/
def isDocumentMark (cs : List Char) : Bool :=
  (['-', '-', '-'].isPrefixOf cs || ['.', '.', '.'].isPrefixOf cs) && endsWord (cs.drop 3)

/-- What a gap between two words stands for: a single line feed for a space, several for all but
the first of them. -/
def foldGap (gap : List Char) : List Char :=
  match gap.filter isBreak with
  | [] => gap
  | ['\n'] => [' ']
  | '\n' :: more => more
  | breaks => breaks

/-! ## Laws -/

theorem not_isBreak_of_isSpacing {c : Char} (h : isSpacing c = true) : isBreak c = false := by
  simp only [isSpacing, Bool.or_eq_true, beq_iff_eq] at h
  rcases h with rfl | rfl <;> decide

theorem foldGap_of_not_break {gap : List Char} (h : ∀ c ∈ gap, isBreak c = false) :
    foldGap gap = gap := by
  have none : gap.filter isBreak = [] := by
    rw [List.filter_eq_nil_iff]
    intro c hc
    simp [h c hc]
  simp [foldGap, none]

end SchemaShift.Yaml
