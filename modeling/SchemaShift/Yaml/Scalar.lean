import SchemaShift.Text.Utf8
import SchemaShift.Yaml.Plain

/-!
# Scalars

A scalar is a text, the style it is written in, and perhaps a tag that says what kind of value the
text stands for. What a scalar is depends on who reads it. A reader that expects a text takes the
text of any scalar. A reader that expects a flag or a number looks into unquoted texts, and into
literal blocks whose tag says so. A reader that takes any kind of value goes by the tag, and by the
text alone where there is no tag and there are no quotes.

* `value?_quoted`: what stands between quotes without a tag is text.
-/

namespace SchemaShift.Yaml

/-- How a scalar is written. -/
inductive Style where
  /-- Without quotes. -/
  | plain
  /-- Between quotes of either kind. -/
  | quoted
  /-- As a block that keeps its breaks. -/
  | literal
  /-- As a block that joins its lines. -/
  | folded
deriving DecidableEq, Repr

/-- What a tag says of a value: its kind, or a name that only an application understands. -/
inductive Tag where
  | null
  | bool
  | integer
  | float
  | text
  | application (name : String)
deriving DecidableEq, Repr

/-- The tag of a full name. -/
def Tag.ofName (name : String) : Tag :=
  match name with
  | "!" => .application "!"
  | "tag:yaml.org,2002:null" => .null
  | "tag:yaml.org,2002:bool" => .bool
  | "tag:yaml.org,2002:int" => .integer
  | "tag:yaml.org,2002:float" => .float
  | name =>
    match name.toList with
    | '!' :: rest => .application (String.ofList rest)
    | _ => .text

/-- The tag whose full name has the given bytes. Bytes that are no text are no name. -/
def Tag.ofBytes (bytes : List UInt8) : Tag := ((Text.ofUtf8? bytes).map Tag.ofName).getD .text

/-- A text in a document. -/
structure Scalar where
  text : String
  style : Style := .plain
  tag : Option Tag := none
deriving DecidableEq, Repr

namespace Scalar

/-- Nothing, where a value could stand. -/
def blank : Scalar := { text := "" }

/-- Whether nothing is written. A tag does not count. -/
def isBlank (s : Scalar) : Bool := s.style == .plain && s.text.isEmpty

/-- Whether a reader that expects values of a kind looks into the text. -/
def shows (s : Scalar) (kind : Tag) : Bool :=
  s.style == .plain || (s.style == .literal && s.tag == some kind)

/-- The flag, where one is expected. -/
def flag? (s : Scalar) : Option Bool := if s.shows .bool then Plain.flag? s.text else none

/-- The number, where one without a sign is expected. -/
def natural? (s : Scalar) : Option Nat :=
  if s.shows .integer then Plain.unsigned? s.text.toList else none

/-- Whether a value is absent, where one may be; `none` if the tag says so and the text does
not. -/
def isNull? (s : Scalar) : Option Bool :=
  if s.style = .plain then
    match s.tag with
    | none => some (Plain.isNull s.text)
    | some .null => if Plain.nullWords.contains s.text then some true else none
    | some _ => some false
  else some false

/-- Whether nothing is given to the name in front, or null. -/
def isEmpty (s : Scalar) : Bool := s.style == .plain && Plain.isNull s.text

/-- The value, where any kind of value may stand; `none` if the text is not what the tag says, or
if only an application knows. -/
def value? (s : Scalar) : Option Atom :=
  match s.tag with
  | none => some (if s.style = .plain then Plain.atom s.text else .text s.text)
  | some .text => some (.text s.text)
  | some .bool => (Plain.flag? s.text).map .bool
  | some .integer => (Plain.integer? s.text.toList).map .integer
  | some .float => (Plain.float? s.text.toList).map .float
  | some .null => if Plain.nullWords.contains s.text then some .null else none
  | some (.application _) => none

theorem value?_quoted (text : String) : value? ⟨text, .quoted, none⟩ = some (.text text) := by
  simp [value?]

end Scalar

end SchemaShift.Yaml
