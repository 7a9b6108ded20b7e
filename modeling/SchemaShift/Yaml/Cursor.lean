import SchemaShift.Yaml.Character

/-!
# Places in a text

A cursor stands in front of some character of a text and knows its line, its column and the number
of bytes before it. Before a text is read, its breaks are made alike.

* `rest_skip`, `rest_skipWhile`: skipping characters leaves what was behind them.
-/

namespace SchemaShift.Yaml

/-- The text with a line feed for each line feed, carriage return, both of them, or next-line
control. -/
def unifyBreaks : List Char → List Char
  | [] => []
  | '\r' :: '\n' :: cs => '\n' :: unifyBreaks cs
  | c :: cs => (if c = '\r' ∨ c = nextLine then '\n' else c) :: unifyBreaks cs

/-- A place in a text. -/
structure Cursor where
  rest : List Char
  /-- The number of bytes in front. -/
  index : Nat := 0
  line : Nat := 0
  column : Nat := 0

namespace Cursor

/-- The place behind the next character. -/
def next (c : Cursor) : Cursor :=
  match c.rest with
  | [] => c
  | x :: rest =>
    { rest
      index := c.index + x.utf8Size
      line := if isBreak x then c.line + 1 else c.line
      column := if isBreak x then 0 else c.column + 1 }

/-- The place behind some characters. -/
def skip : Nat → Cursor → Cursor
  | 0, c => c
  | n + 1, c => skip n c.next

/-- The place behind the characters that satisfy a condition. -/
def skipWhile (p : Char → Bool) (c : Cursor) : Cursor := c.skip (c.rest.takeWhile p).length

/-- The place where only the given characters are left. -/
def upTo (rest : List Char) (c : Cursor) : Cursor := c.skip (c.rest.length - rest.length)

/-- The start of a text that holds only allowed characters. -/
def ofText? (text : String) : Option Cursor :=
  let cs := text.toList
  if cs.all isAllowed then some { rest := unifyBreaks cs } else none

theorem rest_skip (n : Nat) (c : Cursor) : (c.skip n).rest = c.rest.drop n := by
  induction n generalizing c with
  | zero => rfl
  | succ n ih =>
    rw [skip, ih, next]
    cases h : c.rest <;> simp [h]

theorem rest_skipWhile (p : Char → Bool) (c : Cursor) :
    (c.skipWhile p).rest = c.rest.dropWhile p := by
  rw [skipWhile, rest_skip]
  induction c.rest with
  | nil => rfl
  | cons x rest ih => by_cases h : p x <;> simp [h, ih]

end Cursor

end SchemaShift.Yaml
