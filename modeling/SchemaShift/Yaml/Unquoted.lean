import SchemaShift.Yaml.Character

/-!
# Unquoted texts

A text without quotes goes on over gaps, which are folded, until a mark that has a meaning, a
comment, or a line that is indented too little.
-/

namespace SchemaShift.Yaml.Unquoted

/-- The marks of lists and records between brackets. -/
def flowMarks : List Char := [',', '[', ']', '\x7b', '\x7d']

/-- Whether a word ends in front of a character, given what follows it. -/
def ends (flow : Bool) (c : Char) (rest : List Char) : Bool :=
  isGap c || (c == ':' && endsWord rest) || (flow && flowMarks.contains c)

/-- The characters up to the end of a word. -/
def word (flow : Bool) : List Char → List Char
  | [] => []
  | c :: rest => if ends flow c rest then [] else c :: word flow rest

/-- The number of characters after the last break. -/
def lastColumn (gap : List Char) : Nat := (gap.reverse.takeWhile (!isBreak ·)).length

/-- Whether a tab stands where a line has to be indented with spaces. -/
def hasEarlyTab (indent : Nat) (gap : List Char) : Bool :=
  (List.range gap.length).any fun n =>
    gap[n]? == some '\t' && (gap.take n).any isBreak && lastColumn (gap.take n) < indent

/-- Reads an unquoted text behind a gap, whether it was left over a break, and the number of its
characters with the gaps. -/
def readAfter (flow : Bool) (indent : Nat) (gap : List Char) :
    List Char → Option (List Char × Bool × Nat)
  | [] => some ([], gap.any isBreak, 0)
  | c :: rest =>
    if (endsLine gap && isDocumentMark (c :: rest)) || c == '#' || ends flow c rest then
      some ([], gap.any isBreak, 0)
    else
      let tail := word flow rest
      let after := rest.drop tail.length
      let next := after.takeWhile isGap
      let text := foldGap gap ++ c :: tail
      let width := 1 + tail.length
      if flow && hasAdjacent (· == ':') (fun d => d == '?' || flowMarks.contains d)
          (c :: tail ++ after.take 1) then none
      else if next.isEmpty then some (text, false, width)
      else if hasEarlyTab indent next then none
      else if !flow && next.any isBreak && lastColumn next < indent then
        some (text, true, width + next.length)
      else
        (readAfter flow indent next (after.drop next.length)).map fun (more, crossed, n) =>
          (text ++ more, crossed, width + next.length + n)
termination_by cs => cs.length
decreasing_by simp only [List.length_drop, List.length_cons]; omega

/-- Reads an unquoted text; lines after the first have to be indented so far. -/
def read (flow : Bool) (indent : Nat) (cs : List Char) : Option (List Char × Bool × Nat) :=
  readAfter flow indent [] cs

end SchemaShift.Yaml.Unquoted
