import SchemaShift.Yaml.Escape

/-!
# Quoted texts

A text between quotes is read piece by piece: a character, an escape, a doubled quote or a gap,
which is folded. Between single quotes the only escape is the doubled quote.
-/

namespace SchemaShift.Yaml.Quoted

/-- What stands at some place of a quoted text. -/
inductive Piece where
  /-- The closing quote. -/
  | close
  /-- Text that is written with the character here and so many more. -/
  | text (out : List Char) (more : Nat)

/-- A piece that starts so many characters earlier. -/
def Piece.after (n : Nat) : Piece → Piece
  | close => close
  | text out more => text out (more + n)

/-- A gap that starts with a character; a document must not start or end behind it. -/
def gap? (meaning : List Char → List Char) (c : Char) (rest : List Char) : Option Piece :=
  let gap := c :: rest.takeWhile isGap
  if endsLine gap && isDocumentMark (rest.dropWhile isGap) then none
  else some (.text (meaning gap) (gap.length - 1))

/-- What a backslash stands for, given what follows it. A break after it is no text. -/
def escape? : List Char → Option Piece
  | [] => none
  | letter :: rest =>
    if isBreak letter then
      (gap? (fun gap => (gap.drop 1).filter isBreak) letter rest).map (.after 1)
    else
      match Escape.width? letter with
      | none => (Escape.named? letter).map fun c => .text [c] 1
      | some width =>
        if (rest.take width).length = width then
          (Escape.numbered? (rest.take width)).map fun c => .text [c] (1 + width)
        else none

/-- What a character between quotes stands for, given what follows it. -/
def piece? (quote c : Char) (rest : List Char) : Option Piece :=
  if c = quote then
    if quote = '\'' ∧ rest.head? = some '\'' then some (.text [c] 1) else some .close
  else if quote = '"' ∧ c = '\\' then escape? rest
  else if isGap c then gap? foldGap c rest
  else some (.text [c] 0)

/-- Reads a text whose opening quote was read, and the number of characters to the end of its
closing quote. -/
def read (quote : Char) : List Char → Option (List Char × Nat)
  | [] => none
  | c :: rest =>
    match piece? quote c rest with
    | none => none
    | some .close => some ([], 1)
    | some (.text out more) =>
      (read quote (rest.drop more)).map fun (text, width) => (out ++ text, 1 + more + width)
termination_by cs => cs.length
decreasing_by simp only [List.length_drop, List.length_cons]; omega

end SchemaShift.Yaml.Quoted
