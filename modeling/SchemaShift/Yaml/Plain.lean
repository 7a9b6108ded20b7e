import SchemaShift.Datum.Basic

/-!
# Atoms without quotes

What an unquoted text stands for: null, a flag, an integer, a floating-point number, or itself.
Integers may have a sign and may be written in base two, eight or sixteen; digits behind a leading
zero are text, and so is a number too large for floating point.
-/

namespace SchemaShift.Yaml.Plain

/-- The spellings of null. -/
def nullWords : List String := ["null", "Null", "NULL", "~"]

/-- The spellings of a set flag. -/
def trueWords : List String := ["true", "True", "TRUE"]

/-- The spellings of a flag that is not set. -/
def falseWords : List String := ["false", "False", "FALSE"]

/-- The flag a text stands for. -/
def flag? (s : String) : Option Bool :=
  if trueWords.contains s then some true
  else if falseWords.contains s then some false
  else none

/-- The characters after an optional sign. -/
def afterSign : List Char → List Char
  | '+' :: cs | '-' :: cs => cs
  | cs => cs

/-- The characters after an optional plus sign. -/
def afterPlus : List Char → List Char
  | '+' :: cs => cs
  | cs => cs

/-- Whether a text starts with a sign. -/
def isSigned : List Char → Bool
  | '+' :: _ | '-' :: _ => true
  | _ => false

/-- Decimal digits behind a leading zero, with or without a sign. -/
def hasLeadingZero (cs : List Char) : Bool :=
  match afterSign cs with
  | '0' :: rest => Number.isDigits rest
  | _ => false

/-! ## Integers -/

/-- The value of digits whose base is given in front of them. -/
def based? : List Char → Option Nat
  | '0' :: 'x' :: digits => Number.natural? 16 digits
  | '0' :: 'o' :: digits => Number.natural? 8 digits
  | '0' :: 'b' :: digits => Number.natural? 2 digits
  | _ => none

/-- The value of digits in any base. -/
def natural? (cs : List Char) : Option Nat :=
  match based? cs with
  | some n => some n
  | none => if hasLeadingZero cs then none else Number.natural? 10 cs

/-- The number a text without a minus sign stands for. -/
def unsigned? (cs : List Char) : Option Nat := natural? (afterPlus cs)

/-- The integer a text stands for; integers have at most 128 bits. -/
def integer? (cs : List Char) : Option Int :=
  match cs with
  | '-' :: digits =>
    match natural? digits with
    | some n => if n ≤ Nat.pow 2 127 then some (-(n : Int)) else none
    | none => none
  | cs =>
    match unsigned? cs with
    | some n => if n < Nat.pow 2 128 then some n else none
    | none => none

/-! ## Floating-point numbers -/

/-- The spellings of infinity. -/
def infinityWords : List String := [".inf", ".Inf", ".INF"]

/-- The spellings of what is not a number. -/
def nanWords : List String := [".nan", ".NaN", ".NAN"]

/-- The floating-point number a text stands for. -/
def float? (cs : List Char) : Option Double :=
  let positive := afterPlus cs
  if cs.head? = some '+' ∧ isSigned positive then none
  else if infinityWords.contains (String.ofList positive) then some (.infinity false)
  else if cs.head? = some '-' ∧ infinityWords.contains (String.ofList (cs.drop 1)) then
    some (.infinity true)
  else if nanWords.contains (String.ofList cs) then some .nan
  else (Double.readChars? positive).filter (·.isFinite)

/-! ## Atoms -/

/-- Whether a text is null; an empty one is. -/
def isNull (s : String) : Bool := s.isEmpty || nullWords.contains s

/-- What an unquoted text stands for. -/
def atom (s : String) : Atom :=
  let cs := s.toList
  if isNull s then .null
  else
    match flag? s with
    | some b => .bool b
    | none =>
      match integer? cs with
      | some i => .integer i
      | none =>
        match (if hasLeadingZero cs then none else float? cs) with
        | some d => .float d
        | none => .text s

end SchemaShift.Yaml.Plain
