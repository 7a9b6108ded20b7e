import SchemaShift.Yaml.Character
import SchemaShift.Yaml.Token

/-!
# Names around values

Anchors name a value and aliases refer to it; a tag says what kind of value follows; directives
stand in front of a document. All readers return what follows.
-/

namespace SchemaShift.Yaml.Property

/-- The characters of names. -/
def isNameChar (c : Char) : Bool := c.isAlphanum || c == '_' || c == '-'

/-- Whether one of some characters comes next. -/
def startsWithAny (marks : List Char) : List Char → Bool
  | [] => false
  | c :: _ => marks.contains c

/-- The name of an anchor or an alias. -/
def anchor? (cs : List Char) : Option (String × List Char) :=
  let name := cs.takeWhile isNameChar
  let rest := cs.dropWhile isNameChar
  if name.isEmpty then none
  else if endsWord rest || startsWithAny ['?', ':', ',', ']', '\x7d', '%', '@', '\x60'] rest then
    some (String.ofList name, rest)
  else none

/-! ## Tags -/

/-- The punctuation that may stand in a tag. -/
def tagMarks : List Char :=
  [';', '/', '?', ':', '@', '&', '=', '+', '$', '.', '!', '~', '*', '\'', '(', ')']

/-- Whether a character may stand in a tag; a tag that is written out may hold more. -/
def isTagChar (whole : Bool) (c : Char) : Bool :=
  isNameChar c || c == '%' || tagMarks.contains c || (whole && [',', '[', ']'].contains c)

/-- The bytes of ASCII characters. -/
def asciiBytes (cs : List Char) : List UInt8 := cs.map fun c => UInt8.ofNat c.toNat

/-- The number of bytes that follow the first byte of a character. -/
def following? (first : Nat) : Option Nat :=
  if first < 0x80 then some 0
  else if 0xc0 ≤ first ∧ first < 0xe0 then some 1
  else if 0xe0 ≤ first ∧ first < 0xf0 then some 2
  else if 0xf0 ≤ first ∧ first < 0xf8 then some 3
  else none

/-- Whether a byte follows another in a character. -/
def isFollowing (byte : Nat) : Bool := 0x80 ≤ byte && byte < 0xc0

/-- The bytes of characters, where a percent sign and two digits stand for one byte; so many of
them are missing in the character that was begun. -/
def octets? : Nat → List Char → Option (List UInt8)
  | 0, [] => some []
  | 0, '%' :: high :: low :: rest => do
    let byte ← Number.natural? 16 [high, low]
    return UInt8.ofNat byte :: (← octets? (← following? byte) rest)
  | 0, '%' :: _ => none
  | 0, c :: rest => do return UInt8.ofNat c.toNat :: (← octets? 0 rest)
  | missing + 1, '%' :: high :: low :: rest => do
    let byte ← Number.natural? 16 [high, low]
    if isFollowing byte then return UInt8.ofNat byte :: (← octets? missing rest) else none
  | _ + 1, _ => none

/-- The bytes of a part of a tag without its escapes, and what follows it. A zero ends it. -/
def tagBytes? (whole : Bool) (cs : List Char) : Option (List UInt8 × List Char) := do
  let bytes ← octets? 0 (cs.takeWhile (isTagChar whole))
  return (bytes.takeWhile (· != 0), cs.dropWhile (isTagChar whole))

/-- The bytes of a part of a tag that must not be missing. -/
def someTagBytes? (whole : Bool) (cs : List Char) : Option (List UInt8 × List Char) :=
  if cs.head?.any (isTagChar whole) then tagBytes? whole cs else none

/-- The handle in front of a tag, which starts with an exclamation mark and may end with one. -/
def handle (cs : List Char) : String × List Char :=
  let name := (cs.drop 1).takeWhile isNameChar
  match (cs.drop 1).dropWhile isNameChar with
  | '!' :: rest => (String.ofList ('!' :: name ++ ['!']), rest)
  | rest => (String.ofList ('!' :: name), rest)

/-- The tag that starts with the exclamation mark here. -/
def tagName? (cs : List Char) : Option (TagName × List Char) := do
  match cs with
  | '!' :: '<' :: rest =>
    let (bytes, rest) ← someTagBytes? true rest
    match rest with
    | '>' :: rest => some (⟨none, bytes⟩, rest)
    | _ => none
  | cs =>
    let (handle, rest) := handle cs
    if handle.length > 1 ∧ handle.toList.getLast? = some '!' then
      let (bytes, rest) ← someTagBytes? false rest
      some (⟨some handle, bytes⟩, rest)
    else
      let (bytes, rest) ← tagBytes? false rest
      let suffix := asciiBytes (handle.toList.drop 1) ++ bytes
      some (if suffix.isEmpty then ⟨none, asciiBytes ['!']⟩ else ⟨some "!", suffix⟩, rest)

/-- A tag; only a gap, or a comma between brackets, may follow it. -/
def tag? (flow : Bool) (cs : List Char) : Option (TagName × List Char) := do
  let (name, rest) ← tagName? cs
  if endsWord rest || (flow && rest.head? == some ',') then some (name, rest) else none

/-! ## Directives -/

/-- A number of at most nine digits. -/
def shortNumber? (cs : List Char) : Option (Nat × List Char) := do
  let digits := cs.takeWhile Char.isDigit
  if digits.length > 9 then none
  else return (← Number.natural? 10 digits, cs.dropWhile Char.isDigit)

/-- The version in a directive; there are two of them. -/
def version? (cs : List Char) : Option (List Char) := do
  let (major, rest) ← shortNumber? cs
  match rest with
  | '.' :: rest =>
    let (minor, rest) ← shortNumber? rest
    if major = 1 ∧ (minor = 1 ∨ minor = 2) then some rest else none
  | _ => none

/-- The handle and its meaning in a directive. -/
def handleMeaning? (cs : List Char) : Option (Directive × List Char) := do
  if cs.head? ≠ some '!' then none
  else
    let (name, rest) := handle cs
    if name ≠ "!" ∧ name.toList.getLast? ≠ some '!' then none
    else if !startsWithAny [' ', '\t'] rest then none
    else
      let (meaning, rest) ← someTagBytes? true (rest.dropWhile isSpacing)
      if endsWord rest then some (.handle name meaning, rest) else none

/-- The directive behind a percent sign, and what follows its line. -/
def directive? (cs : List Char) : Option (Directive × List Char) := do
  let name := String.ofList (cs.takeWhile isNameChar)
  let rest := cs.dropWhile isNameChar
  if !endsWord rest then none
  else
    let rest := rest.dropWhile isSpacing
    let (directive, rest) ← match name with
      | "YAML" => (version? rest).map fun rest => (Directive.version, rest)
      | "TAG" => handleMeaning? rest
      | _ => none
    let rest := rest.dropWhile isSpacing
    let rest := if rest.head? = some '#' then rest.dropWhile (!isBreak ·) else rest
    match rest with
    | [] => some (directive, [])
    | c :: after => if isBreak c then some (directive, after) else none

end SchemaShift.Yaml.Property
