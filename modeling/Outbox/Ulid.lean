/-!
# `Outbox.Ulid` — 128-bit identifiers and their text

An identifier holds a time in milliseconds in its upper 48 bits and chance in its lower 80 bits. Its
text is its 26 base-32 digits, in an alphabet that leaves out I, L, O and U. A text of 26 digits has
130 bits, of which the reader drops the first two.
-/

namespace Outbox

/-- A 128-bit identifier. -/
structure Ulid where
  bits : BitVec 128
  deriving DecidableEq, Repr

namespace Ulid

/-- The identifier with the given number; bits above the 128th are dropped. -/
def ofNat (n : Nat) : Ulid :=
  ⟨BitVec.ofNat 128 n⟩

/-- The number of an identifier. -/
def toNat (u : Ulid) : Nat :=
  u.bits.toNat

instance : Inhabited Ulid := ⟨ofNat 0⟩

/-- Identifiers are ordered by their numbers. -/
instance : Ord Ulid := ⟨fun a b => compare a.toNat b.toNat⟩

/-- What the time part of an identifier counts: 2 to the 80. -/
def chances : Nat :=
  0x1_0000_0000_0000_0000_0000

/-- The identifier of a time in milliseconds, of which 48 bits count, and of chance, of which 80
bits count. -/
def ofParts (milliseconds chance : Nat) : Ulid :=
  ofNat (milliseconds % 0x1_0000_0000_0000 * chances + chance % chances)

/-- The time part of an identifier, in milliseconds. -/
def milliseconds (u : Ulid) : Nat :=
  u.toNat / chances

/-- The 32 digits, from the least to the greatest. -/
def alphabet : List Char :=
  ['0', '1', '2', '3', '4', '5', '6', '7', '8', '9', 'A', 'B', 'C', 'D', 'E', 'F', 'G', 'H', 'J',
    'K', 'M', 'N', 'P', 'Q', 'R', 'S', 'T', 'V', 'W', 'X', 'Y', 'Z']

/-- The digit for a number below 32. -/
def symbol (d : Nat) : Char :=
  alphabet.getD d '0'

/-- The number that a digit of either case stands for. -/
def value? (c : Char) : Option Nat :=
  alphabet.findIdx? (· == c.toUpper)

/-- The last `width` base-32 digits of a number, most significant first. -/
def digits : Nat → Nat → List Char
  | 0, _ => []
  | width + 1, n => digits width (n / 32) ++ [symbol (n % 32)]

/-- The number of digits in the text of an identifier. -/
def width : Nat :=
  26

/-- The text of an identifier. -/
def write (u : Ulid) : List Char :=
  digits width u.toNat

/-- The number that base-32 digits denote, continuing from `n`. -/
def readFrom? (n : Nat) : List Char → Option Nat
  | [] => some n
  | c :: rest => do readFrom? (32 * n + (← value? c)) rest

/-- Reads the text of an identifier. -/
def read? (cs : List Char) : Option Ulid :=
  if cs.length = width then (readFrom? 0 cs).map ofNat else none

@[simp]
theorem length_digits (width n : Nat) : (digits width n).length = width := by
  induction width generalizing n with
  | zero => rfl
  | succ width ih => simp [digits, ih]

/-- Every identifier has a text of 26 digits. -/
@[simp]
theorem length_write (u : Ulid) : u.write.length = width :=
  length_digits width u.toNat

end Ulid

end Outbox
