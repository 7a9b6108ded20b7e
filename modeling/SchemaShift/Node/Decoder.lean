import SchemaShift.Error
import SchemaShift.Node.Basic

/-!
# Reading values

Readers of values say what is wrong with a value as a `DataFault`. They follow references, and each
reference that is followed counts: a document may not make its readers follow more than a hundred
for each of its events. What no reader asks for is not looked into.

* `decode_of_eq_pure`: a reader that follows nothing gives its result wherever it runs.
-/

namespace SchemaShift

/-- A reader that knows what references stand for, and how many of them it may still follow. -/
abbrev Decoder : Type → Type := ReaderT (List (Nat × Node)) (StateT Nat (Except DataFault))

namespace Node

variable {α : Type}

/-- The number of references that may be followed for each event of a document. -/
def referencesPerEvent : Nat := 100

/-- Runs a reader on the value of a document. -/
def decode (read : Node → Decoder α) (n : Node) : Except DataFault α :=
  ((read n).run n.anchors).run' (referencesPerEvent * n.size)

/-! ## References -/

/-- The value a reference stands for. -/
def follow (number : Nat) : Decoder Node := do
  match ← get with
  | 0 => throw .tooManyReferences
  | left + 1 =>
    set left
    match (← read).lookup number with
    | some n => return n
    | none => throw .malformed

/-- The value itself, where an anchor or a reference stands for it. -/
def resolve : Node → Decoder Node
  | anchored _ n => resolve n
  | reference number => follow number
  | n => pure n

/-- The value without a mark for an application. -/
def unmarked : Node → Node
  | marked _ n => n
  | n => n

/-! ## Atoms -/

/-- A text. -/
def text (n : Node) : Decoder String := do
  match ← n.resolve with
  | scalar s => return s.text
  | native (.atom (.text s)) => return s
  | _ => throw (.expected "text")

/-- A flag. -/
def flag (n : Node) : Decoder Bool := do
  let flag? ← match ← n.resolve with
    | scalar s => pure s.flag?
    | native (.atom (.bool b)) => pure (some b)
    | _ => pure none
  match flag? with
  | some b => return b
  | none => throw (.expected "a flag")

/-- An integer without a sign that a reader accepts. -/
def integer (accept : Int → Option α) (n : Node) : Decoder α := do
  let integer? ← match ← n.resolve with
    | scalar s => pure (s.natural?.map Int.ofNat)
    | native (.atom (.integer i)) => pure (some i)
    | _ => pure none
  match integer? with
  | some i =>
    match accept i with
    | some a => return a
    | none => throw .outOfRange
  | none => throw (.expected "an integer")

/-- An unsigned word of 32 bits. -/
def word32 (n : Node) : Decoder UInt32 := n.integer Number.uint32?

/-- An unsigned word of 16 bits. -/
def word16 (n : Node) : Decoder UInt16 := n.integer Number.uint16?

/-! ## Values with parts -/

/-- The items of a list; a blank stands for none. -/
def items (n : Node) : Decoder (List Node) := do
  match (← n.resolve).unmarked with
  | list items => return items
  | native (.list items) => return items.map native
  | scalar s => if s.isBlank then return [] else throw (.expected "a list")
  | _ => throw (.expected "a list")

/-- A list of values of one kind. -/
def listOf (read : Node → Decoder α) (n : Node) : Decoder (List α) := do
  (← n.items).mapM read

/-- A value or null. -/
def optional (read : Node → Decoder α) (n : Node) : Decoder (Option α) := do
  let n ← n.resolve
  match n with
  | native (.atom .null) => return none
  | scalar s =>
    match s.isNull? with
    | some true => return none
    | some false => return some (← read n)
    | none => throw (.expected "null")
  | n => return some (← read n)

/-! ## Choices -/

/-- The choice of a name. -/
def named (ofName? : String → Option α) (name : String) : Decoder α :=
  match ofName? name with
  | some a => pure a
  | none => throw (.unknownVariant name)

/-- One of several named choices: its name as a text. In plain data, a record that gives the name
nothing is that choice too. -/
def choice (ofName? : String → Option α) (n : Node) : Decoder α := do
  match ← n.resolve with
  | scalar s =>
    match s.value? with
    | some (.text name) => named ofName? name
    | _ => throw (.expected "a name")
  | native (.atom (.text name)) => named ofName? name
  | native (.record [(name, .atom .null)]) => named ofName? name
  | _ => throw (.expected "a name")

/-- One of several named choices: its name, as any scalar or as a tag in front of nothing. -/
def choiceOrTag (ofName? : String → Option α) (n : Node) : Decoder α := do
  match ← n.resolve with
  | scalar s =>
    match s.tag with
    | some (.application name) =>
      if s.isEmpty then named ofName? name else throw (.expected "nothing")
    | _ => named ofName? s.text
  | n => n.choice ofName?

/-! ## Laws -/

theorem decode_of_eq_pure {read : Node → Decoder α} {n : Node} {a : α} (h : read n = pure a) :
    n.decode read = .ok a := by
  rw [decode, h]
  rfl

theorem integer_ofInt {accept : Int → Option α} {i : Int} {a : α} (h : accept i = some a) :
    integer accept (native (.ofInt i)) = pure a := by
  simp only [integer, Datum.ofInt, resolve, pure_bind, h]

theorem named_of_eq_some {ofName? : String → Option α} {name : String} {a : α}
    (h : ofName? name = some a) : named ofName? name = pure a := by
  simp [named, h]

theorem choice_ofText {ofName? : String → Option α} {name : String} {a : α}
    (h : ofName? name = some a) : choice ofName? (native (.ofText name)) = pure a :=
  named_of_eq_some h

theorem choiceOrTag_ofText {ofName? : String → Option α} {name : String} {a : α}
    (h : ofName? name = some a) : choiceOrTag ofName? (native (.ofText name)) = pure a :=
  named_of_eq_some h

end Node

end SchemaShift
