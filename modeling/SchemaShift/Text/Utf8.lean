/-!
# Text from bytes

Bytes are read as UTF-8. A sequence that is not well formed is cut at its first wrong byte, and
what was read of it stands for one replacement character; the strict reading refuses such bytes
altogether.

* `length_continuation_le`: reading a character never lengthens what is left, which is why the
  decoder ends.
-/

namespace SchemaShift.Text

/-- The number of bytes that follow a leading byte, the range allowed for the first of them and
the bits the leading byte contributes; `none` for a byte that cannot lead. -/
def leadingByte (b : Nat) : Option (Nat × Nat × Nat × Nat) :=
  if b < 0x80 then some (0, 0x80, 0xbf, b)
  else if b < 0xc2 then none
  else if b < 0xe0 then some (1, 0x80, 0xbf, b - 0xc0)
  else if b = 0xe0 then some (2, 0xa0, 0xbf, 0)
  else if b = 0xed then some (2, 0x80, 0x9f, 0xd)
  else if b < 0xf0 then some (2, 0x80, 0xbf, b - 0xe0)
  else if b = 0xf0 then some (3, 0x90, 0xbf, 0)
  else if b < 0xf4 then some (3, 0x80, 0xbf, b - 0xf0)
  else if b = 0xf4 then some (3, 0x80, 0x8f, 4)
  else none

/-- Reads the given number of continuation bytes, the first within the given range. -/
def continuation : Nat → Nat → Nat → Nat → List UInt8 → Option Char × List UInt8
  | 0, _, _, code, bytes => (some (Char.ofNat code), bytes)
  | _ + 1, _, _, _, [] => (none, [])
  | n + 1, low, high, code, b :: rest =>
    if low ≤ b.toNat ∧ b.toNat ≤ high then
      continuation n 0x80 0xbf (code * 64 + (b.toNat - 0x80)) rest
    else (none, b :: rest)

theorem length_continuation_le (n low high code : Nat) (bytes : List UInt8) :
    (continuation n low high code bytes).2.length ≤ bytes.length := by
  induction n generalizing low high code bytes with
  | zero => simp [continuation]
  | succ n ih =>
    cases bytes with
    | nil => simp [continuation]
    | cons b rest =>
      simp only [continuation]
      split
      · exact Nat.le_succ_of_le (ih ..)
      · simp

/-- The characters of a byte sequence, with `none` for each ill-formed stretch. -/
def decodeUtf8 : List UInt8 → List (Option Char)
  | [] => []
  | b :: rest =>
    match leadingByte b.toNat with
    | none => none :: decodeUtf8 rest
    | some (n, low, high, code) =>
      (continuation n low high code rest).1 ::
        decodeUtf8 (continuation n low high code rest).2
termination_by bytes => bytes.length
decreasing_by
  · simp
  · exact Nat.lt_succ_of_le (length_continuation_le ..)

/-- The text of well-formed bytes. -/
def ofUtf8? (bytes : List UInt8) : Option String :=
  ((decodeUtf8 bytes).mapM id).map String.ofList

/-- The text of any bytes, with a replacement character for each ill-formed stretch. -/
def ofUtf8Lossy (bytes : List UInt8) : String :=
  String.ofList ((decodeUtf8 bytes).map (·.getD (Char.ofNat 0xfffd)))

end SchemaShift.Text
