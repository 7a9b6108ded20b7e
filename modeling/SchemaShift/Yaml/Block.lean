import SchemaShift.Yaml.Character

/-!
# Block texts

A block text is indented deeper than what holds it. A literal block keeps its breaks, a folded one
joins neighbouring lines that do not start with a blank. The head of a block may say how far it is
indented and what becomes of the breaks at its end.

* `length_emptyLines_le`: passing empty lines never lengthens what is left, which is why the reader
  ends.
-/

namespace SchemaShift.Yaml.Block

/-! ## Heads -/

/-- What becomes of the breaks at the end of a block. -/
inductive Chomping where
  /-- All are dropped. -/
  | strip
  /-- One is kept. -/
  | clip
  /-- All are kept. -/
  | keep
deriving DecidableEq, Repr

/-- What a sign in a head asks for. -/
def Chomping.ofSign? : Char → Option Chomping
  | '-' => some strip
  | '+' => some keep
  | _ => none

/-- The sign of a head, if it comes next. -/
def chomping : List Char → Chomping × List Char
  | [] => (.clip, [])
  | c :: rest =>
    match Chomping.ofSign? c with
    | some chomping => (chomping, rest)
    | none => (.clip, c :: rest)

/-- The indentation in a head, if it comes next; it must not be zero. -/
def indentation? : List Char → Option (Option Nat × List Char)
  | [] => some (none, [])
  | c :: rest =>
    if !c.isDigit then some (none, c :: rest)
    else if c = '0' then none
    else some (some (c.toNat - '0'.toNat), rest)

/-- The hints of a head, in either order. -/
def hints? (cs : List Char) : Option (Chomping × Option Nat × List Char) := do
  match cs.head?.bind Chomping.ofSign? with
  | some chomping =>
    let (indentation, rest) ← indentation? (cs.drop 1)
    some (chomping, indentation, rest)
  | none =>
    let (indentation, rest) ← indentation? cs
    let (chomping, rest) := if indentation.isSome then chomping rest else (.clip, rest)
    some (chomping, indentation, rest)

/-- The lines behind a head, which may end with a comment. -/
def body? (cs : List Char) : Option (List Char) :=
  let cs := cs.dropWhile isSpacing
  let cs := if cs.head? = some '#' then cs.dropWhile (!isBreak ·) else cs
  match cs with
  | [] => some []
  | c :: rest => if isBreak c then some rest else none

/-! ## Lines -/

/-- The empty lines in front of a line with text. -/
structure Empty where
  breaks : List Char
  /-- The greatest number of spaces in one of the lines. -/
  widest : Nat
  /-- The indentation of the line with text. -/
  column : Nat
  /-- The number of characters in front of it. -/
  width : Nat
  rest : List Char

/-- Whether a column belongs to the indentation. -/
def isMargin (indent : Option Nat) (column : Nat) : Bool :=
  match indent with
  | none => true
  | some indent => column < indent

/-- Passes empty lines and indentation; indentation has no tabs. -/
def emptyLines (indent : Option Nat) (column : Nat) : List Char → Option Empty
  | [] => some ⟨[], column, column, 0, []⟩
  | c :: rest =>
    if isMargin indent column && c == ' ' then
      (emptyLines indent (column + 1) rest).map fun e => { e with width := e.width + 1 }
    else if isMargin indent column && c == '\t' then none
    else if isBreak c then
      (emptyLines indent 0 rest).map fun e =>
        { e with
          breaks := c :: e.breaks
          widest := max column e.widest
          width := e.width + 1 }
    else some ⟨[], column, column, 0, c :: rest⟩

theorem length_emptyLines_le {indent : Option Nat} {column : Nat} {cs : List Char} {e : Empty}
    (h : emptyLines indent column cs = some e) : e.rest.length ≤ cs.length := by
  induction cs generalizing column e with
  | nil => simp only [emptyLines, Option.some.injEq] at h; subst h; simp
  | cons c rest ih =>
    simp only [emptyLines] at h
    split at h
    · obtain ⟨inner, hinner, rfl⟩ := Option.map_eq_some_iff.1 h
      have shorter : inner.rest.length ≤ rest.length := ih hinner
      exact Nat.le_succ_of_le shorter
    split at h
    · simp at h
    split at h
    · obtain ⟨inner, hinner, rfl⟩ := Option.map_eq_some_iff.1 h
      have shorter : inner.rest.length ≤ rest.length := ih hinner
      exact Nat.le_succ_of_le shorter
    · simp only [Option.some.injEq] at h
      subst h
      simp

/-- What stands between two lines: the break behind the first and the empty lines after it. -/
def joint (folded : Bool) (ending : List Char) (indented : Bool) (breaks : List Char) : List Char :=
  if folded && ending == ['\n'] && !indented then if breaks.isEmpty then [' '] else breaks
  else ending ++ breaks

/-- The lines of a block. -/
structure Lines where
  text : List Char
  /-- The break behind the last line. -/
  ending : List Char
  /-- The breaks of the empty lines after it. -/
  breaks : List Char
  /-- The number of characters to the end of those. -/
  width : Nat

/-- The lines that are indented exactly so far, behind empty lines. `ending` is the break behind the
line before and `blank` whether that line starts with a blank. -/
def lines (folded : Bool) (indent : Nat) (ending : List Char) (blank : Bool) (e : Empty) :
    Option Lines :=
  match _hrest : e.rest with
  | [] => some ⟨[], ending, e.breaks, e.width⟩
  | c :: rest =>
    if e.column ≠ indent then some ⟨[], ending, e.breaks, e.width⟩
    else
      let tail := rest.takeWhile (!isBreak ·)
      let after := rest.drop tail.length
      match _hnext : emptyLines (some indent) 0 (after.drop 1) with
      | none => none
      | some next =>
        (lines folded indent (after.take 1) (isSpacing c) next).map fun more =>
          { more with
            text := joint folded ending (blank || isSpacing c) e.breaks ++ c :: tail ++ more.text
            width := e.width + 1 + tail.length + (after.take 1).length + more.width }
termination_by e.rest.length
decreasing_by
  have shorter := length_emptyLines_le _hnext
  have dropped : (after.drop 1).length ≤ rest.length := by
    simp only [after, List.length_drop]
    omega
  simp only [_hrest, List.length_cons]
  omega

/-- Reads a block whose indicator was read, and the number of its characters; `outer` is the
indentation of what holds it. -/
def read (folded : Bool) (outer : Option Nat) (cs : List Char) : Option (List Char × Nat) := do
  let (chomping, indentation, afterHints) ← hints? cs
  let body ← body? afterHints
  let head := (cs.takeWhile (!isBreak ·)).length
  let given := indentation.map (outer.getD 0 + ·)
  let first ← emptyLines given 0 body
  let least := match outer with
    | none => 1
    | some outer => outer + 1
  let indent := given.getD (max first.widest least)
  let lines ← lines folded indent [] false first
  let kept := match chomping with
    | .strip => []
    | .clip => lines.ending
    | .keep => lines.ending ++ lines.breaks
  return (lines.text ++ kept, head + ((cs.drop head).take 1).length + lines.width)

end SchemaShift.Yaml.Block
