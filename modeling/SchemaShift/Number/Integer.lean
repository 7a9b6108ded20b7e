/-!
# Integers in text

Integers are read from an optional sign and decimal digits, and then have to fit the width the
reader asks for. Digits in other bases occur in documents only.

* `int64?_toInt`, `uint32?_toNat`: a number of the right width is read as itself.
-/

namespace SchemaShift.Number

/-! ## Digits -/

/-- The value of a digit in the bases up to sixteen. -/
def digitValue? (base : Nat) (c : Char) : Option Nat :=
  let value :=
    if c.isDigit then some (c.toNat - '0'.toNat)
    else if 'a' ≤ c ∧ c ≤ 'f' then some (c.toNat - 'a'.toNat + 10)
    else if 'A' ≤ c ∧ c ≤ 'F' then some (c.toNat - 'A'.toNat + 10)
    else none
  value.filter (· < base)

/-- The value of a non-empty run of digits. -/
def natural? (base : Nat) (cs : List Char) : Option Nat :=
  if cs.isEmpty then none
  else cs.foldlM (fun value c => (digitValue? base c).map (value * base + ·)) 0

/-- A non-empty run of decimal digits. -/
def isDigits (cs : List Char) : Bool := !cs.isEmpty && cs.all Char.isDigit

/-- The value of a run of digits after an optional sign. -/
def integer? (base : Nat) : List Char → Option Int
  | '-' :: cs => (natural? base cs).map fun n => -(n : Int)
  | '+' :: cs => (natural? base cs).map Int.ofNat
  | cs => (natural? base cs).map Int.ofNat

/-! ## Widths -/

/-- An integer as a signed word of 64 bits, if it fits. -/
def int64? (i : Int) : Option Int64 :=
  if Int64.minValue.toInt ≤ i ∧ i ≤ Int64.maxValue.toInt then some (Int64.ofInt i) else none

/-- An integer as an unsigned word of 32 bits, if it fits. -/
def uint32? (i : Int) : Option UInt32 :=
  if 0 ≤ i ∧ i < UInt32.size then some (UInt32.ofNat i.toNat) else none

/-- An integer as an unsigned word of 16 bits, if it fits. -/
def uint16? (i : Int) : Option UInt16 :=
  if 0 ≤ i ∧ i < UInt16.size then some (UInt16.ofNat i.toNat) else none

theorem int64?_toInt (i : Int64) : int64? i.toInt = some i := by
  have low : Int64.minValue.toInt ≤ i.toInt := Int64.le_toInt i
  have high : i.toInt ≤ Int64.maxValue.toInt := Int64.toInt_le i
  simp only [int64?, low, high, and_self, if_true, Int64.ofInt_toInt]

theorem uint32?_toNat (n : UInt32) : uint32? n.toNat = some n := by
  have low : (0 : Int) ≤ n.toNat := Int.natCast_nonneg _
  have high : (n.toNat : Int) < UInt32.size := Int.ofNat_lt.2 n.toNat_lt
  simp only [uint32?, low, high, and_self, if_true, Int.toNat_natCast, UInt32.ofNat_toNat]

/-- Decimal text of a signed word of 64 bits. -/
def readInt64? (s : String) : Option Int64 := integer? 10 s.toList >>= int64?

/-- Decimal text of an unsigned word of 32 bits; a plus sign is allowed, a minus sign is not. -/
def readUInt32? (s : String) : Option UInt32 :=
  match s.toList with
  | '+' :: cs => (natural? 10 cs).bind fun n => uint32? n
  | cs => (natural? 10 cs).bind fun n => uint32? n

end SchemaShift.Number
