import SchemaShift.Number.Integer

/-!
# Binary floating point

A `Double` is the bit pattern of an IEEE 754 number of 64 bits, so two of them are equal when they
are the same number written the same way; `Double.same` is the comparison of the arithmetic, in
which both zeros agree and a NaN differs from itself.

Reading rounds an exact quotient to the nearest number, ties to even. All steps are exact
arithmetic on `Nat`.
-/

namespace SchemaShift

/-- A floating-point number of 64 bits, by its bit pattern. -/
structure Double where
  bits : UInt64
deriving DecidableEq, Repr, Inhabited

namespace Double

/-! ## Parts of the pattern -/

/-- The sign bit. -/
def negative (d : Double) : Bool := d.bits.toNat / Nat.pow 2 63 == 1

/-- The exponent field: 0 for subnormal numbers, 2047 for infinities and NaN. -/
def exponentField (d : Double) : Nat := d.bits.toNat / Nat.pow 2 52 % 2048

/-- The fraction field. -/
def fraction (d : Double) : Nat := d.bits.toNat % Nat.pow 2 52

/-- Neither infinite nor NaN. -/
def isFinite (d : Double) : Bool := d.exponentField != 2047

/-- Not a number. -/
def isNaN (d : Double) : Bool := d.exponentField == 2047 && d.fraction != 0

/-- Either zero. -/
def isZero (d : Double) : Bool := d.exponentField == 0 && d.fraction == 0

/-- The integer that a finite number has before scaling by a power of two. -/
def significand (d : Double) : Nat :=
  if d.exponentField = 0 then d.fraction else Nat.pow 2 52 + d.fraction

/-- The power of two that scales the significand. -/
def scale (d : Double) : Int := (max 1 d.exponentField : Nat) - 1075

/-- The absolute value of a finite number as a quotient. -/
def quotient (d : Double) : Nat × Nat :=
  (d.significand * Nat.pow 2 d.scale.toNat, Nat.pow 2 (-d.scale).toNat)

/-! ## Special numbers -/

/-- The number with the given sign and other bits. -/
def ofParts (negative : Bool) (rest : Nat) : Double :=
  ⟨UInt64.ofNat ((if negative then Nat.pow 2 63 else 0) + rest)⟩

/-- A zero. -/
def zero (negative : Bool) : Double := ofParts negative 0

/-- An infinity. -/
def infinity (negative : Bool) : Double := ofParts negative (2047 * Nat.pow 2 52)

/-- The NaN that reading produces. -/
def nan : Double := ofParts false (2047 * Nat.pow 2 52 + Nat.pow 2 51)

/-- Equality of the arithmetic: both zeros agree, and a NaN agrees with nothing. -/
def same (a b : Double) : Bool :=
  !a.isNaN && !b.isNaN && (a == b || (a.isZero && b.isZero))

/-! ## Rounding -/

/-- The integer nearest to a quotient, ties to even. -/
def nearest (num den : Nat) : Nat :=
  let whole := num / den
  let twice := 2 * (num % den)
  if den < twice ∨ (twice = den ∧ whole % 2 = 1) then whole + 1 else whole

/-- The exponent field of the binade that holds a positive quotient, at least 1. -/
def binade (num den : Nat) : Nat :=
  let guess : Int := (Nat.log2 num : Int) - Nat.log2 den
  let reached := den * Nat.pow 2 guess.toNat ≤ num * Nat.pow 2 (-guess).toNat
  (max 1 ((if reached then guess else guess - 1) + 1023)).toNat

/-- The number nearest to a quotient, ties to even; too large a quotient gives an infinity. -/
def ofQuotient (negative : Bool) (num den : Nat) : Double :=
  if num = 0 then zero negative
  else
    let e := binade num den
    let m := nearest (num * Nat.pow 2 (1075 - e)) (den * Nat.pow 2 (e - 1075))
    ofParts negative (min ((e - 1) * Nat.pow 2 52 + m) (2047 * Nat.pow 2 52))

/-- The number nearest to an integer. -/
def ofInt (i : Int) : Double := ofQuotient (i < 0) i.natAbs 1

/-- The number nearest to `digits · 10 ^ exponent`. Exponents far outside the range of the type
are cut short, so no power of ten is larger than the digits call for. -/
def ofDecimal (negative : Bool) (digits : Nat) (exponent : Int) : Double :=
  let length := (Nat.toDigits 10 digits).length
  if digits = 0 ∨ length + exponent < -330 then zero negative
  else if 330 < length + exponent then infinity negative
  else ofQuotient negative (digits * Nat.pow 10 exponent.toNat) (Nat.pow 10 (-exponent).toNat)

/-! ## Whole numbers -/

/-- The value of a number without fraction, cut to the range of a signed word of 64 bits. -/
def toInt? (d : Double) : Option Int64 :=
  let (num, den) := d.quotient
  if d.isFinite ∧ num % den = 0 then
    let value : Int := if d.negative then -(num / den : Nat) else (num / den : Nat)
    some (Int64.ofInt (max Int64.minValue.toInt (min value Int64.maxValue.toInt)))
  else none

/-! ## Reading -/

/-- Reads an exponent: an `e`, an optional sign and digits; nothing stands for zero. -/
def readExponent? : List Char → Option Int
  | [] => some 0
  | c :: cs => if c = 'e' ∨ c = 'E' then Number.integer? 10 cs else none

/-- Reads digits with an optional point and an optional exponent. -/
def readDecimal? (negative : Bool) (cs : List Char) : Option Double :=
  let whole := cs.takeWhile Char.isDigit
  let afterWhole := cs.dropWhile Char.isDigit
  let (part, tail) :=
    match afterWhole with
    | '.' :: rest => (rest.takeWhile Char.isDigit, rest.dropWhile Char.isDigit)
    | rest => ([], rest)
  do
    let digits ← Number.natural? 10 (whole ++ part)
    let exponent ← readExponent? tail
    pure (ofDecimal negative digits (exponent - part.length))

/-- Reads a number without sign: decimal text, `inf`, `infinity` or `nan` in any case. -/
def readUnsigned? (negative : Bool) (cs : List Char) : Option Double :=
  let word := cs.map Char.toLower
  if word = "inf".toList ∨ word = "infinity".toList then some (infinity negative)
  else if word = "nan".toList then some nan
  else readDecimal? negative cs

/-- Reads a floating-point number with an optional sign. -/
def readChars? : List Char → Option Double
  | '-' :: cs => readUnsigned? true cs
  | '+' :: cs => readUnsigned? false cs
  | cs => readUnsigned? false cs

/-- Reads a floating-point number with an optional sign. -/
def read? (s : String) : Option Double := readChars? s.toList

end Double

end SchemaShift
