/-!
# `Outbox.Text.Digits` — numbers in decimal

The decimal digits of a natural number, with and without leading zeros, and the number that a run of
digits denotes. Only the ten ASCII digits count as digits.
-/

namespace Outbox.Text.Digits

/-- Whether a character is one of the ten ASCII digits. -/
def isDigit (c : Char) : Bool :=
  '0' ≤ c && c ≤ '9'

/-- The number that one digit stands for. -/
def value (c : Char) : Nat :=
  c.toNat - 48

/-- The digit for a number below ten. -/
def symbol (d : Nat) : Char :=
  Char.ofNat (48 + d)

/-- The digits of a number, most significant first and without leading zeros. -/
def write (n : Nat) : List Char :=
  if n < 10 then [symbol n] else write (n / 10) ++ [symbol (n % 10)]
termination_by n
decreasing_by omega

/-- The last `width` digits of a number, leading zeros included. -/
def writeFixed : Nat → Nat → List Char
  | 0, _ => []
  | width + 1, n => writeFixed width (n / 10) ++ [symbol (n % 10)]

/-- The digits of a number, with leading zeros where it has fewer than `width`. -/
def writePadded (width n : Nat) : List Char :=
  let ds := write n
  List.replicate (width - ds.length) '0' ++ ds

/-- The decimal form of an integer, with a minus sign where it is negative. -/
def writeInt : Int → List Char
  | .ofNat n => write n
  | .negSucc n => '-' :: write (n + 1)

/-- The number that a run of digits denotes, continuing from `n`. -/
def readFrom (n : Nat) (ds : List Char) : Nat :=
  ds.foldl (fun acc c => 10 * acc + value c) n

/-- The number that a run of digits denotes. -/
def read (ds : List Char) : Nat :=
  readFrom 0 ds

/-- Splits a text after its leading digits, taking at most `limit` of them. -/
def spanUpTo : Nat → List Char → List Char × List Char
  | 0, cs => ([], cs)
  | _ + 1, [] => ([], [])
  | limit + 1, c :: cs =>
    if isDigit c then
      let (ds, rest) := spanUpTo limit cs
      (c :: ds, rest)
    else ([], c :: cs)

@[simp]
theorem length_writeFixed (width n : Nat) : (writeFixed width n).length = width := by
  induction width generalizing n with
  | zero => rfl
  | succ width ih => simp [writeFixed, ih]

end Outbox.Text.Digits
