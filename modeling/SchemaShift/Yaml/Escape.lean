import SchemaShift.Number.Integer
import SchemaShift.Yaml.Character

/-!
# Escapes

What a backslash means between double quotes: one letter stands for a character that is hard to
write, and digits in base sixteen for any other.

* `named?_letter?`: the letter of a character stands for that character.
-/

namespace SchemaShift.Yaml

namespace Escape

/-- The letter that stands for a character after a backslash. -/
def letter? (c : Char) : Option Char :=
  match c.toNat with
  | 0 => some '0'
  | 7 => some 'a'
  | 8 => some 'b'
  | 9 => some 't'
  | 10 => some 'n'
  | 11 => some 'v'
  | 12 => some 'f'
  | 13 => some 'r'
  | 27 => some 'e'
  | 34 => some '"'
  | 92 => some '\\'
  | 0x85 => some 'N'
  | 0xa0 => some '_'
  | 0x2028 => some 'L'
  | 0x2029 => some 'P'
  | _ => none

/-- The code of the character that a letter after a backslash stands for. -/
def code? (letter : Char) : Option Nat :=
  match letter with
  | '0' => some 0
  | 'a' => some 7
  | 'b' => some 8
  | 't' | '\t' => some 9
  | 'n' => some 10
  | 'v' => some 11
  | 'f' => some 12
  | 'r' => some 13
  | 'e' => some 27
  | ' ' => some 32
  | '"' => some 34
  | '/' => some 47
  | '\\' => some 92
  | 'N' => some 0x85
  | '_' => some 0xa0
  | 'L' => some 0x2028
  | 'P' => some 0x2029
  | _ => none

/-- The character that a letter after a backslash stands for. -/
def named? (letter : Char) : Option Char := (code? letter).map Char.ofNat

/-- The number of digits that follow a letter after a backslash. -/
def width? (letter : Char) : Option Nat :=
  match letter with
  | 'x' => some 2
  | 'u' => some 4
  | 'U' => some 8
  | _ => none

/-- The character whose code has the given digits in base sixteen. -/
def numbered? (digits : List Char) : Option Char := do
  let code ← Number.natural? 16 digits
  if code.isValidChar then some (Char.ofNat code) else none

theorem named?_letter? {c letter : Char} (h : letter? c = some letter) :
    named? letter = some c := by
  have code : code? letter = some c.toNat := by
    revert h
    simp only [letter?]
    generalize c.toNat = n
    split <;> simp only [Option.some.injEq, reduceCtorEq, false_implies] <;> rintro rfl <;> rfl
  simp [named?, code]

end Escape

/-- The digits of a number in base sixteen, at least so many. -/
def hexText (width n : Nat) : List Char :=
  let digits := (Nat.toDigits 16 n).map Char.toUpper
  List.replicate (width - digits.length) '0' ++ digits

/-- A character as it is written between double quotes. -/
def escaped (c : Char) : List Char :=
  if isPrintable c && !isBreak c && c != '"' && c != '\\' then [c]
  else
    match Escape.letter? c with
    | some letter => ['\\', letter]
    | none =>
      if c.toNat ≤ 0xff then '\\' :: 'x' :: hexText 2 c.toNat
      else if c.toNat ≤ 0xffff then '\\' :: 'u' :: hexText 4 c.toNat
      else '\\' :: 'U' :: hexText 8 c.toNat

end SchemaShift.Yaml
