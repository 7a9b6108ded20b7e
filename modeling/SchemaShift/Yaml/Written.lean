import SchemaShift.Datum.Fields
import SchemaShift.Number.Shortest
import SchemaShift.Yaml.Escape
import SchemaShift.Yaml.Plain

/-!
# Writing YAML

Plain data is written in block style, two columns deeper at each level, with the items of a list
right below its name. A text is written without quotes where it would be read back as that text;
otherwise it stands between single quotes, as a literal block if it has several lines, or between
double quotes if it holds what only an escape can write.

* `atom_of_textStyle_plain`: a text without quotes is read back as that text.
-/

namespace SchemaShift.Yaml

/-! ## Styles -/

/-- How a text is written. -/
inductive TextStyle where
  | plain
  | single
  | double
  | literal
deriving DecidableEq, Repr

/-- Whether some colon ends a word. -/
def hasWordEndingColon : List Char → Bool
  | [] => false
  | c :: rest => (c == ':' && endsWord rest) || hasWordEndingColon rest

/-- The characters that mean something at the start of an unquoted text. -/
def indicators : List Char :=
  ['#', ',', '[', ']', '\x7b', '\x7d', '&', '*', '!', '|', '>', '\'', '"', '%', '@', '\x60']

/-- Whether a text starts with something that has a meaning. -/
def startsMeaningful (cs : List Char) : Bool :=
  match cs with
  | [] => false
  | c :: rest =>
    indicators.contains c || ((c == '?' || c == '-') && endsWord rest) ||
      ['-', '-', '-'].isPrefixOf cs || ['.', '.', '.'].isPrefixOf cs

/-- Whether all characters are written as themselves and no space stands before a break. -/
def isPresentable (cs : List Char) : Bool :=
  cs.all isPrintable && !hasAdjacent (· == ' ') isBreak cs

/-- Whether a text can stand between single quotes. -/
def allowsSingle (cs : List Char) : Bool := isPresentable cs && !hasAdjacent isBreak (· == ' ') cs

/-- Whether a text can be a literal block. -/
def allowsLiteral (cs : List Char) : Bool := isPresentable cs && cs.getLast? != some ' '

/-- Whether a text can stand without quotes. -/
def allowsPlain (cs : List Char) : Bool :=
  isPresentable cs && !cs.any isBreak && cs.head? != some ' ' && cs.getLast? != some ' ' &&
    !startsMeaningful cs && !hasWordEndingColon cs && !hasAdjacent isGap (· == '#') cs

/-- Whether an unquoted text would be read as something else. -/
def isAmbiguous (s : String) : Bool :=
  Plain.atom s != .text s || Plain.hasLeadingZero s.toList

/-- The style of a text. -/
def textStyle (s : String) : TextStyle :=
  let cs := s.toList
  if cs.contains '\n' then if allowsLiteral cs then .literal else .double
  else if !isAmbiguous s && allowsPlain cs then .plain
  else if allowsSingle cs then .single
  else .double

theorem atom_of_textStyle_plain {s : String} (h : textStyle s = .plain) :
    Plain.atom s = .text s := by
  have clear : isAmbiguous s = false := by
    dsimp only [textStyle] at h
    split at h
    · split at h <;> cases h
    split at h
    · rename_i bare
      simpa using (Bool.and_eq_true_iff.1 bare).1
    · split at h <;> cases h
  have same := (Bool.or_eq_false_iff.1 clear).1
  simpa using same

example : textStyle "users" = .plain ∧ textStyle "5" = .single := by decide +kernel

/-! ## Texts -/

/-- A number of spaces. -/
def spaces (n : Nat) : List Char := List.replicate n ' '

/-- A text whose lines after the first are indented; empty lines are not. -/
def indentLines (indent : Nat) (fresh : Bool) : List Char → List Char
  | [] => []
  | c :: cs =>
    if isBreak c then c :: indentLines indent true cs
    else (if fresh then spaces indent else []) ++ c :: indentLines indent false cs

/-- A text between single quotes. -/
def singleText (indent : Nat) (cs : List Char) : List Char :=
  let lines := indentLines indent false cs
  let last := if endsLine cs then spaces indent else []
  '\'' :: lines.flatMap (fun c => if c = '\'' then ['\'', '\''] else [c]) ++ last ++ ['\'']

/-- A text between double quotes. -/
def doubleText (cs : List Char) : List Char := '"' :: cs.flatMap escaped ++ ['"']

/-- The hints in the head of a literal block: the indentation where the first line does not show
it, and what happens to the breaks at the end. -/
def literalHints (cs : List Char) : List Char :=
  let indentation := match cs with
    | c :: _ => if c == ' ' || isBreak c then ['2'] else []
    | [] => []
  let chomping := match cs.reverse with
    | last :: rest =>
      if !isBreak last then ['-']
      else
        match rest with
        | [] => ['+']
        | before :: _ => if isBreak before then ['+'] else []
    | [] => ['-']
  indentation ++ chomping

/-- A text as a literal block. -/
def literalText (indent : Nat) (cs : List Char) : List Char :=
  '|' :: literalHints cs ++ '\n' :: indentLines indent true cs

/-- A text in its style. -/
def textText (indent : Nat) (s : String) : List Char :=
  match textStyle s with
  | .plain => s.toList
  | .single => singleText indent s.toList
  | .double => doubleText s.toList
  | .literal => literalText indent s.toList

/-- An atom; its further lines are indented. -/
def atomText (indent : Nat) : Atom → List Char
  | .null => ['n', 'u', 'l', 'l']
  | .bool b => if b then "true".toList else "false".toList
  | .integer i => (toString i).toList
  | .float d => (d.render Double.documentLayout).toList
  | .text s => textText indent s

/-! ## Blocks -/

/-- A text that ends its last line. -/
def closeLine (cs : List Char) : List Char :=
  if endsLine cs then cs else cs ++ ['\n']

mutual

/-- What follows the colon of a field of a record that is indented so far. -/
def valueText (indent : Nat) : Datum → List Char
  | .atom value => ' ' :: closeLine (atomText (indent + 2) value)
  | .list [] => " []\n".toList
  | .list items => '\n' :: spaces indent ++ itemsText indent items
  | .record [] => " \x7b\x7d\n".toList
  | .record fields => '\n' :: spaces (indent + 2) ++ fieldsText (indent + 2) fields

/-- What follows the dash of an item of a list that is indented so far. -/
def itemText (indent : Nat) : Datum → List Char
  | .atom value => ' ' :: closeLine (atomText (indent + 2) value)
  | .list [] => " []\n".toList
  | .list items => ' ' :: itemsText (indent + 2) items
  | .record [] => " \x7b\x7d\n".toList
  | .record fields => ' ' :: fieldsText (indent + 2) fields

/-- The items of a list; the first goes where the text stands. -/
def itemsText (indent : Nat) : List Datum → List Char
  | [] => []
  | [d] => '-' :: itemText indent d
  | d :: ds => '-' :: itemText indent d ++ spaces indent ++ itemsText indent ds

/-- The fields of a record; the first goes where the text stands. -/
def fieldsText (indent : Nat) : List (String × Datum) → List Char
  | [] => []
  | [(name, d)] => name.toList ++ ':' :: valueText indent d
  | (name, d) :: rest =>
    name.toList ++ ':' :: valueText indent d ++ spaces indent ++ fieldsText indent rest

end

/-- The document of a record. -/
def write (fields : Fields) : String := String.ofList (fieldsText 0 fields)

end SchemaShift.Yaml
