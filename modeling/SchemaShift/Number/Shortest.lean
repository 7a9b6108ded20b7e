import SchemaShift.Number.Double

/-!
# Shortest decimal text of a floating-point number

A finite number is written with the fewest decimal digits that round back to it, and among those
with the digits nearest to it. Where the point stands and when an exponent is written is the
decision of the format that asks, collected in a `Layout`.
-/

namespace SchemaShift

/-- Decimal digits and the power of ten that scales them. -/
structure Scientific where
  digits : Nat
  exponent : Int
deriving DecidableEq, Repr

namespace Double

/-! ## The digits -/

/-- Bounds of the quotients that round to a positive finite number, over the common denominator
`4 · den` of `quotient`: the numerators of the lower bound, of the number and of the upper
bound. -/
def roundingInterval (d : Double) : Nat × Nat × Nat × Nat :=
  let (num, den) := d.quotient
  let unit := Nat.pow 2 d.scale.toNat
  let below := if d.significand = Nat.pow 2 52 ∧ 1 < d.exponentField then unit else 2 * unit
  (4 * num - below, 4 * num, 4 * num + 2 * unit, 4 * den)

/-- The number of decimal places before the point, possibly negative: the power of ten just above
a positive quotient. -/
def places (num den : Nat) : Int :=
  if den ≤ num then ((Nat.toDigits 10 (num / den)).length : Int)
  else
    let zeros := (Nat.toDigits 10 (den / num)).length
    if den ≤ num * Nat.pow 10 (zeros - 1) then 2 - (zeros : Int) else 1 - (zeros : Int)

/-- Which of two equally near decimals is taken: the upper one, or the one whose last digit is
even. -/
inductive Tie where
  | up
  | even
deriving DecidableEq, Repr

/-- Whether the upper one of two equally near neighbours is taken, given the lower one. -/
def Tie.takesUpper (tie : Tie) (lower : Nat) : Bool :=
  match tie with
  | up => true
  | even => lower % 2 == 1

/-- The nearer neighbour of the number on the grid of `count` digits, of those that round back to
it. -/
def onGrid? (tie : Tie) (d : Double) (count : Nat) : Option Scientific :=
  let (low, mid, high, den) := d.roundingInterval
  let exponent := places mid den - count
  let up := Nat.pow 10 exponent.toNat
  let down := Nat.pow 10 (-exponent).toNat
  let even := d.significand % 2 = 0
  let hits (n : Nat) : Bool :=
    let value := n * up * den
    if even then low * down ≤ value ∧ value ≤ high * down
    else low * down < value ∧ value < high * down
  let floor := mid * down / (up * den)
  let gapBelow := mid * down - floor * up * den
  let gapAbove := (floor + 1) * up * den - mid * down
  let prefersUpper :=
    gapAbove < gapBelow || (gapAbove == gapBelow && tie.takesUpper floor)
  if hits (floor + 1) && (prefersUpper || !hits floor) then some ⟨floor + 1, exponent⟩
  else if hits floor then some ⟨floor, exponent⟩
  else none

/-- Drops the zeros at the end of the digits, at most `fuel` of them. -/
def dropZeros : Nat → Scientific → Scientific
  | 0, s => s
  | fuel + 1, s =>
    if s.digits % 10 = 0 ∧ s.digits ≠ 0 then dropZeros fuel ⟨s.digits / 10, s.exponent + 1⟩
    else s

/-- The fewest digits that round back to a positive finite number; seventeen are always enough. -/
def shortest (tie : Tie) (d : Double) : Scientific :=
  match (List.range 17).findSome? fun n => onGrid? tie d (n + 1) with
  | some s => dropZeros 17 s
  | none => ⟨0, 0⟩

/-! ## The layout -/

/-- How a format writes floating-point numbers. -/
structure Layout where
  /-- The least and the greatest number of places before the point for which no exponent is
  written; `none` when an exponent never is. -/
  plain : Option (Int × Int)
  /-- Whole numbers end in `.0`. -/
  pointZero : Bool
  /-- Which of two equally near decimals is written. -/
  tie : Tie
  /-- The word for infinity. -/
  infinity : String
  /-- The word for NaN. -/
  nan : String

/-- Text without exponent. -/
def plainText (pointZero : Bool) (digits : List Char) (exponent : Int) : List Char :=
  let before := digits.length + exponent
  if 0 ≤ exponent then
    digits ++ List.replicate exponent.toNat '0' ++ (if pointZero then ['.', '0'] else [])
  else if 0 < before then digits.take before.toNat ++ '.' :: digits.drop before.toNat
  else '0' :: '.' :: List.replicate (-before).toNat '0' ++ digits

/-- Text with one digit before the point and an exponent. -/
def exponentText (digits : List Char) (exponent : Int) : List Char :=
  let tail := digits.drop 1
  digits.take 1 ++ (if tail.isEmpty then [] else '.' :: tail) ++
    'e' :: (toString (digits.length + exponent - 1)).toList

/-- The absolute value of a finite number as a layout writes it. -/
def magnitude (layout : Layout) (d : Double) : List Char :=
  if d.isZero then '0' :: (if layout.pointZero then ['.', '0'] else [])
  else
    let s := d.shortest layout.tie
    let digits := Nat.toDigits 10 s.digits
    let before := digits.length + s.exponent
    match layout.plain with
    | none => plainText layout.pointZero digits s.exponent
    | some (least, greatest) =>
      if least ≤ before ∧ before ≤ greatest then plainText layout.pointZero digits s.exponent
      else exponentText digits s.exponent

/-- A number as a layout writes it. -/
def render (layout : Layout) (d : Double) : String :=
  let sign := if d.negative then "-" else ""
  if d.isNaN then layout.nan
  else if d.isFinite then sign ++ String.ofList (magnitude layout d)
  else sign ++ layout.infinity

/-- Numbers in statements and catalogs: positional, without a point when there is no fraction. -/
def statementLayout : Layout :=
  { plain := none, pointZero := false, tie := .up, infinity := "inf", nan := "NaN" }

/-- Numbers in documents: always with a point or an exponent, positional for up to sixteen places
before the point and down to five after it. -/
def documentLayout : Layout :=
  { plain := some (-4, 16), pointZero := true, tie := .even, infinity := ".inf", nan := ".nan" }

end Double

end SchemaShift
