import SchemaShift.Error
import SchemaShift.Node.Basic
import SchemaShift.Yaml.Layout

/-!
# From tokens to values

A text holds one document, and the document one value. Where a value is missing, a blank stands for
it. A reference needs an anchor of its name in front of it.
-/

namespace SchemaShift.Yaml

/-- What the handles of tags stand for where no directive says otherwise. -/
def usualHandles : List (String × List UInt8) :=
  [("!", Property.asciiBytes ['!']),
    ("!!", Property.asciiBytes "tag:yaml.org,2002:".toList)]

/-- Nothing, where a value could stand. -/
def blank : Node := .scalar .blank

/-- A list or a record behind a tag, which matters only to an application. -/
def taggedGroup (tag : Option Tag) (n : Node) : Node :=
  match tag with
  | some (.application name) => .marked name n
  | _ => n

/-! ## Values -/

/-- The tokens that are left, and what names stand for. -/
structure Reading where
  tokens : List Token
  handles : List (String × List UInt8) := []
  /-- The numbers of the anchors so far by their names, each name once. -/
  anchors : List (String × Nat) := []

/-- A reader of tokens. -/
abbrev Reader : Type → Type := StateT Reading Option

namespace Reader

/-- The next token. -/
def peek : Reader (Option Token) := do return (← get).tokens.head?

/-- Passes over the next token. -/
def advance : Reader Unit := modify fun s => { s with tokens := s.tokens.drop 1 }

/-- Passes over a token if it comes next, and whether it did. -/
def accept (t : Token) : Reader Bool := do
  if (← peek) = some t then
    advance
    return true
  else return false

/-- Passes over a token that has to come next. -/
def expect (t : Token) : Reader Unit := do
  if !(← accept t) then failure

/-- A value, or a blank in front of one of some tokens. -/
def orBlank (stops : List Token) (value : Reader Node) : Reader Node := do
  match ← peek with
  | some t => if stops.contains t then return blank else value
  | none => value

/-- The full name of a tag. -/
def meaning (name : TagName) : Reader (List UInt8) := do
  match name.handle with
  | none => return name.suffix
  | some handle =>
    match (← get).handles.lookup handle with
    | some start => return start ++ name.suffix
    | none => failure

/-- A tag, if it comes next. -/
def tag : Reader (Option Tag) := do
  match ← peek with
  | some (.tag name) =>
    advance
    return some (.ofBytes (← meaning name))
  | _ => return none

/-- The name of an anchor, if it comes next. -/
def anchor : Reader (Option String) := do
  match ← peek with
  | some (.anchor name) =>
    advance
    return some name
  | _ => return none

/-- The anchor and the tag of a value, in either order. -/
def properties : Reader (Option String × Option Tag) := do
  match ← anchor with
  | some name => return (some name, ← tag)
  | none =>
    let t ← tag
    let name ← if t.isSome then anchor else pure none
    return (name, t)

/-- Gives the value that starts here a number: how many names of anchors there were. A name that
was used before then stands for the new value. -/
def enter (name : String) : Reader Nat := do
  let anchors := (← get).anchors
  modify fun s => { s with
    anchors := (name, anchors.length) :: anchors.filter fun anchor => anchor.1 != name }
  return anchors.length

mutual

/-- A value. Only a value in a block may be a block, and only the value of a field may be a list
that is not indented deeper. The first argument bounds the work, here and below. -/
def value : Nat → Bool → Bool → Reader Node
  | 0, _, _ => failure
  | n + 1, block, sameColumn => do
    match ← peek with
    | some (.reference name) =>
      advance
      match (← get).anchors.lookup name with
      | some number => return .reference number
      | none => failure
    | _ =>
      let (anchor, tag) ← properties
      let number ← anchor.mapM enter
      let content ← match ← peek with
        | some (.scalar text style) => do
          advance
          pure (.scalar ⟨text, style, tag⟩)
        | some .flowListStart => do
          advance
          pure (taggedGroup tag (.list (← flowItems n true)))
        | some .flowRecordStart => do
          advance
          pure (taggedGroup tag (.record (← flowFields n true)))
        | t => do
          if sameColumn ∧ t = some .item then
            pure (taggedGroup tag (.list (← items n)))
          else if block ∧ t = some .blockListStart then
            advance
            let items ← items n
            expect .blockEnd
            pure (taggedGroup tag (.list items))
          else if block ∧ t = some .blockRecordStart then
            advance
            pure (taggedGroup tag (.record (← fields n)))
          else if anchor.isSome ∨ tag.isSome then pure (.scalar ⟨"", .plain, tag⟩)
          else failure
      return number.elim content (.anchored · content)

/-- The items of a list in a block. -/
def items : Nat → Reader (List Node)
  | 0 => failure
  | n + 1 => do
    if ← accept .item then
      let item ← orBlank [.item, .key, .value, .blockEnd] (value n true false)
      return item :: (← items n)
    else return []

/-- The fields of a record in a block, to its end. -/
def fields : Nat → Reader (List (Node × Node))
  | 0 => failure
  | n + 1 => do
    if ← accept .blockEnd then return []
    else
      expect .key
      let name ← orBlank [.key, .value, .blockEnd] (value n true true)
      let held ← if ← accept .value then orBlank [.key, .value, .blockEnd] (value n true true)
        else pure blank
      return (name, held) :: (← fields n)

/-- The items of a list between brackets, to its end; a comma separates them. A key makes an item a
record of one field. -/
def flowItems : Nat → Bool → Reader (List Node)
  | 0, _ => failure
  | n + 1, first => do
    if ← accept .flowListEnd then return []
    else
      if !first then expect .comma
      if ← accept .flowListEnd then return []
      else if ← accept .key then
        let t ← peek
        let name ←
          if [some .value, some .comma, some .flowListEnd].contains t then do
            advance
            pure blank
          else value n false false
        let held ← if ← accept .value then
            orBlank [.comma, .flowListEnd] (value n false false)
          else pure blank
        return .record [(name, held)] :: (← flowItems n false)
      else
        let item ← value n false false
        return item :: (← flowItems n false)

/-- The fields of a record between brackets, to its end; a comma separates them. -/
def flowFields : Nat → Bool → Reader (List (Node × Node))
  | 0, _ => failure
  | n + 1, first => do
    if ← accept .flowRecordEnd then return []
    else
      if !first then expect .comma
      if ← accept .flowRecordEnd then return []
      else if ← accept .key then
        let name ← orBlank [.value, .comma, .flowRecordEnd] (value n false false)
        let held ← if ← accept .value then
            orBlank [.comma, .flowRecordEnd] (value n false false)
          else pure blank
        return (name, held) :: (← flowFields n false)
      else
        let name ← value n false false
        return (name, blank) :: (← flowFields n false)

end

/-! ## Documents -/

/-- Takes the directives in front of a document and puts the handles they define into effect;
whether there were any. -/
def directives (versioned : Bool) (handles : List (String × List UInt8)) : List Token → Reader Bool
  | .directive .version :: rest => if versioned then failure else directives true handles rest
  | .directive (.handle name meaning) :: rest =>
    if (handles.lookup name).isSome then failure
    else directives versioned ((name, meaning) :: handles) rest
  | tokens => do
    set ({ tokens, handles := handles ++ usualHandles } : Reading)
    return versioned || !handles.isEmpty

/-- Whether the content of a document is missing in front of some token. -/
def endsDocument : Token → Bool
  | .directive _ | .documentStart | .documentEnd => true
  | _ => false

/-- The value of a document that follows its start. -/
def content (fuel : Nat) : Reader Node := do
  match ← peek with
  | none => return blank
  | some t => if endsDocument t then return blank else value fuel true false

/-- The value of the only document. -/
def document : Reader Node := do
  let tokens := (← get).tokens
  let fuel := 4 * tokens.length + 4
  if tokens.isEmpty then return blank
  else
    let instructed ← directives false [] tokens
    let started ← accept .documentStart
    if instructed && !started then failure
    let n ← if started then content fuel else value fuel true false
    modify fun s => { s with tokens := s.tokens.dropWhile (· == .documentEnd) }
    if (← get).tokens.isEmpty then return n else failure

end Reader

/-- The value of the document in a text. -/
def read (text : String) : Except DataFault Node :=
  match do Reader.document.run' { tokens := ← tokens? text } with
  | some n => .ok n
  | none => .error .malformed

end SchemaShift.Yaml
