import SchemaShift.Yaml.Block
import SchemaShift.Yaml.Cursor
import SchemaShift.Yaml.Property
import SchemaShift.Yaml.Quoted
import SchemaShift.Yaml.Unquoted

/-!
# From text to tokens

The layout of a text decides its tokens: a line that is indented deeper opens a block, a line that
is indented less closes the blocks it leaves. A key needs no mark of its own. That some value was a
key shows only at the colon behind it, and its token is then put in front of that value.
-/

namespace SchemaShift.Yaml

/-- A value that turns out to be a key if a colon follows it on its line. -/
structure KeyMark where
  /-- Whether it stands where a block has its keys. -/
  required : Bool
  /-- The number of tokens in front of it. -/
  token : Nat
  place : Cursor

/-- What was read of a text. -/
structure Layout where
  cursor : Cursor
  tokens : Array Token := #[]
  /-- The columns of the open blocks, innermost first. -/
  indents : List Nat := []
  /-- Whether a value here could be a key. -/
  allowsKey : Bool := true
  mark : Option KeyMark := none
  /-- The marks outside the open brackets, innermost first. -/
  outer : List (Option KeyMark) := []

namespace Layout

/-- Whether brackets are open. -/
def isFlow (s : Layout) : Bool := !s.outer.isEmpty

/-- Adds a token. -/
def emit (t : Token) (s : Layout) : Layout := { s with tokens := s.tokens.push t }

/-- Moves over so many characters. -/
def skip (width : Nat) (s : Layout) : Layout := { s with cursor := s.cursor.skip width }

/-- Moves to where only the given characters are left. -/
def upTo (rest : List Char) (s : Layout) : Layout := { s with cursor := s.cursor.upTo rest }

/-- Adds a token that is so many characters long. -/
def emitMark (t : Token) (width : Nat) (s : Layout) : Layout := (s.emit t).skip width

/-- Puts a token behind the given number of tokens. -/
def insert (position : Nat) (t : Token) (s : Layout) : Layout :=
  { s with tokens := s.tokens.insertIdxIfInBounds position t }

/-! ## Blocks -/

/-- Closes the blocks whose columns do not satisfy a condition. -/
def closeBlocks (stays : Nat → Bool) (s : Layout) : Layout :=
  if s.isFlow then s
  else
    { s with
      tokens := s.tokens ++ (s.indents.takeWhile (!stays ·)).map fun _ => Token.blockEnd
      indents := s.indents.dropWhile (!stays ·) }

/-- Closes the blocks that are indented deeper than a column. -/
def closeDeeper (column : Nat) : Layout → Layout := closeBlocks (· ≤ column)

/-- Closes all blocks. -/
def closeAll : Layout → Layout := closeBlocks fun _ => false

/-- Opens a block at a column that is indented deeper; its token goes behind the given number of
tokens. -/
def openBlock (column position : Nat) (t : Token) (s : Layout) : Layout :=
  if s.isFlow || s.indents.head?.any (column ≤ ·) then s
  else { s with indents := column :: s.indents }.insert position t

/-- Opens a block here, where a key is allowed. -/
def openHere? (t : Token) (s : Layout) : Option Layout :=
  if s.isFlow then some s
  else if s.allowsKey then some (s.openBlock s.cursor.column s.tokens.size t)
  else none

/-! ## Keys -/

/-- Forgets a mark that is not required. -/
def clearMark? (s : Layout) : Option Layout :=
  if s.mark.any (·.required) then none else some { s with mark := none }

/-- Marks the value here, if it could be a key. -/
def markKey? (s : Layout) : Option Layout :=
  if s.allowsKey then do
    let s ← s.clearMark?
    return { s with
      mark := some
        { required := !s.isFlow && s.indents.head? == some s.cursor.column
          token := s.tokens.size
          place := s.cursor } }
  else some s

/-- Whether a mark is too far away for a colon here: on another line, or more than 1024 bytes. -/
def isStale (here : Cursor) (m : KeyMark) : Bool :=
  m.place.line < here.line || m.place.index + 1024 < here.index

/-- A mark, unless it is too far away; a required mark must not be. -/
def freshMark? (here : Cursor) : Option KeyMark → Option (Option KeyMark)
  | none => some none
  | some m => if !isStale here m then some (some m) else if m.required then none else some none

/-- Forgets all marks that are too far away. -/
def dropStale? (s : Layout) : Option Layout := do
  let mark ← freshMark? s.cursor s.mark
  let outer ← s.outer.mapM (freshMark? s.cursor)
  return { s with mark, outer }

/-! ## Gaps -/

/-- Passes a byte order mark that starts a line. -/
def skipByteOrderMark (s : Layout) : Layout :=
  if s.cursor.column = 0 ∧ s.cursor.rest.head? = some byteOrderMark then
    { s with cursor := s.cursor.next }
  else s

/-- Passes byte order marks, spaces, tabs where they do not indent, comments and breaks. -/
def skipGaps (s : Layout) : Nat → Layout
  | 0 => s
  | n + 1 =>
    let s := s.skipByteOrderMark
    let tabs := s.isFlow || !s.allowsKey
    let here := s.cursor.skipWhile fun c => c == ' ' || (tabs && c == '\t')
    let here := if here.rest.head? = some '#' then here.skipWhile (!isBreak ·) else here
    if here.rest.head?.any isBreak then
      skipGaps { s with cursor := here.next, allowsKey := s.allowsKey || !s.isFlow } n
    else { s with cursor := here }

/-! ## Tokens -/

/-- The start or the end of a document, or a directive: everything is closed. -/
def outermost? (s : Layout) : Option Layout := do
  let s ← s.closeAll.clearMark?
  return { s with allowsKey := false }

/-- An opening bracket. -/
def openFlow? (t : Token) (s : Layout) : Option Layout := do
  let s ← s.markKey?
  return { s with outer := s.mark :: s.outer, mark := none, allowsKey := true }.emitMark t 1

/-- A closing bracket. -/
def closeFlow? (t : Token) (s : Layout) : Option Layout := do
  let s ← s.clearMark?
  return { s with
    mark := s.outer.head?.join, outer := s.outer.drop 1, allowsKey := false }.emitMark t 1

/-- A comma. -/
def comma? (s : Layout) : Option Layout := do
  let s ← s.clearMark?
  return { s with allowsKey := true }.emitMark .comma 1

/-- The dash of an item. -/
def item? (s : Layout) : Option Layout := do
  let s ← s.openHere? .blockListStart
  let s ← s.clearMark?
  return { s with allowsKey := true }.emitMark .item 1

/-- The question mark of a key. -/
def key? (s : Layout) : Option Layout := do
  let s ← s.openHere? .blockRecordStart
  let s ← s.clearMark?
  return { s with allowsKey := !s.isFlow }.emitMark .key 1

/-- The colon of a value: what is marked was a key. -/
def value? (s : Layout) : Option Layout :=
  match s.mark with
  | some m =>
    let s := (s.insert m.token .key).openBlock m.place.column m.token .blockRecordStart
    some ({ s with mark := none, allowsKey := false }.emitMark .value 1)
  | none => do
    let s ← s.openHere? .blockRecordStart
    return { s with allowsKey := !s.isFlow }.emitMark .value 1

/-- A token that may be a key, or stand in front of one. -/
def content? (read : List Char → Option (Token × List Char)) (s : Layout) : Option Layout := do
  let s ← s.markKey?
  let (t, rest) ← read s.cursor.rest
  return ({ s with allowsKey := false }.upTo rest).emit t

/-- A text between quotes. -/
def quoted? (quote : Char) (s : Layout) : Option Layout := do
  let s ← s.markKey?
  let (text, width) ← Quoted.read quote (s.cursor.rest.drop 1)
  return { s with allowsKey := false }.emitMark (.scalar (String.ofList text) .quoted) (1 + width)

/-- A literal or folded text. -/
def block? (style : Style) (s : Layout) : Option Layout := do
  let s ← s.clearMark?
  let (text, width) ← Block.read (style == .folded) s.indents.head? (s.cursor.rest.drop 1)
  return { s with allowsKey := true }.emitMark (.scalar (String.ofList text) style) (1 + width)

/-- An unquoted text. A key may follow it on a new line. -/
def unquoted? (s : Layout) : Option Layout := do
  let s ← s.markKey?
  let indent := s.indents.head?.elim 0 (· + 1)
  let (text, crossed, width) ← Unquoted.read s.isFlow indent s.cursor.rest
  return { s with allowsKey := crossed }.emitMark (.scalar (String.ofList text) .plain) width

/-- The characters that start no unquoted text, or only in front of another character. -/
def indicators : List Char :=
  ['-', '?', ':', ',', '[', ']', '\x7b', '\x7d', '#', '&', '*', '!', '|', '>', '\'', '"', '%', '@',
    '\x60']

/-- Whether an unquoted text starts with a character, given what follows it. -/
def startsUnquoted (flow : Bool) (c : Char) (rest : List Char) : Bool :=
  !(isGap c || indicators.contains c) || (c == '-' && !rest.head?.any isSpacing) ||
    (!flow && (c == '?' || c == ':') && !endsWord rest)

/-- Reads a token that starts with a character, given what follows it. -/
def token? (c : Char) (rest : List Char) (s : Layout) : Option Layout :=
  let reading {α : Type} (f : α → Token) (read : List Char → Option (α × List Char)) :=
    s.content? fun cs => (read (cs.drop 1)).map fun (a, rest) => (f a, rest)
  if s.cursor.column = 0 ∧ c = '%' then do
    let s ← s.outermost?
    let (directive, rest) ← Property.directive? rest
    return (s.emit (.directive directive)).upTo rest
  else if s.cursor.column = 0 ∧ isDocumentMark (c :: rest) then do
    let s ← s.outermost?
    return s.emitMark (if c = '-' then .documentStart else .documentEnd) 3
  else if c = '[' then s.openFlow? .flowListStart
  else if c = '\x7b' then s.openFlow? .flowRecordStart
  else if c = ']' then s.closeFlow? .flowListEnd
  else if c = '\x7d' then s.closeFlow? .flowRecordEnd
  else if c = ',' then s.comma?
  else if c = '-' ∧ endsWord rest then s.item?
  else if c = '?' ∧ (s.isFlow ∨ endsWord rest) then s.key?
  else if c = ':' ∧ (s.isFlow ∨ endsWord rest) then s.value?
  else if c = '*' then reading .reference Property.anchor?
  else if c = '&' then reading .anchor Property.anchor?
  else if c = '!' then
    s.content? fun cs => (Property.tag? s.isFlow cs).map fun (name, rest) => (.tag name, rest)
  else if c = '|' ∧ !s.isFlow then s.block? .literal
  else if c = '>' ∧ !s.isFlow then s.block? .folded
  else if c = '\'' ∨ c = '"' then s.quoted? c
  else if startsUnquoted s.isFlow c rest then s.unquoted?
  else none

/-- The end of a text: everything is closed. -/
def finish? (s : Layout) : Option Layout := s.closeAll.clearMark?

/-- Reads tokens to the end of the text. The number bounds the characters that are left. -/
def run? : Nat → Layout → Option Layout
  | 0, _ => none
  | n + 1, s => do
    let s ← (s.skipGaps (n + 1)).dropStale?
    let s := s.closeDeeper s.cursor.column
    match s.cursor.rest with
    | [] => s.finish?
    | c :: rest => run? n (← s.token? c rest)

end Layout

/-- The tokens of a text. -/
def tokens? (text : String) : Option (List Token) := do
  let cursor ← Cursor.ofText? text
  let layout ← Layout.run? (cursor.rest.length + 1) { cursor }
  return layout.tokens.toList

end SchemaShift.Yaml
