import Outbox.Number.Double
import Outbox.Text.Digits
/-!
# `Outbox.Number.Shortest` — the decimal text of a double

A double is written with the fewest significant digits that read back as the same double, and of the
texts with that many digits the nearest to its value. The magnitude stands for an interval of real
numbers, the ones that round to it, and for each number of digits only the two decimal neighbours of
the value can lie in it.
-/

namespace Outbox

namespace Double

/-- A value `digits * 10 ^ exponent`. -/
structure Decimal where
  digits : Nat
  exponent : Int
  deriving DecidableEq, Repr

/-- The value of a magnitude and the ends of the interval that rounds to it, over one denominator;
the ends belong to the interval where `closed` says so. -/
structure Interval where
  low : Nat
  value : Nat
  high : Nat
  denominator : Nat
  closed : Bool

/-- The numbers that round to a magnitude. Below a power of two the doubles lie twice as dense, so
the interval reaches half as far down. -/
def interval (magnitude : Nat) : Interval :=
  let (m, q) := parts magnitude
  let below := if m = binade ∧ 2 * binade ≤ magnitude then 1 else 2
  let (scale, denominator) := fraction 1 1 (q - 2)
  ⟨(4 * m - below) * scale, 4 * m * scale, (4 * m + 2) * scale, denominator, m % 2 = 0⟩

/-- `10 ^ e` as a fraction. -/
def tenTo (e : Int) : Nat × Nat :=
  if 0 ≤ e then (Nat.pow 10 e.toNat, 1) else (1, Nat.pow 10 (-e).toNat)

/-- Moves an exponent up, at most `steps` times, while the next power of ten is at most `n / d`. -/
def climb (n d : Nat) : Nat → Int → Int
  | 0, e => e
  | steps + 1, e =>
    let (a, b) := tenTo (e + 1)
    if a * d ≤ n * b then climb n d steps (e + 1) else e

/-- The exponent of the greatest power of ten that is at most `n / d`. -/
def exponent10 (n d : Nat) : Int :=
  climb n d 4 ((exponent2 n d * 30103).fdiv 100000 - 1)

/-- Whether the fraction `n / d` lies in the interval. -/
def Interval.contains (i : Interval) (n d : Nat) : Bool :=
  if i.closed then i.low * d ≤ n * i.denominator && n * i.denominator ≤ i.high * d
  else i.low * d < n * i.denominator && n * i.denominator < i.high * d

/-- The neighbour of the value among the multiples of `10 ^ e` that lies in the interval, the nearer
one if both do; a tie goes to the even multiple. -/
def Interval.onGrid? (i : Interval) (e : Int) : Option Nat :=
  let (a, b) := tenTo e
  let c := i.value * b / (i.denominator * a)
  let lower := i.contains (c * a) b
  let upper := i.contains ((c + 1) * a) b
  let twice := 2 * i.value * b
  let middle := (2 * c + 1) * a * i.denominator
  if lower && upper then
    if twice < middle ∨ (twice = middle ∧ c % 2 = 0) then some c else some (c + 1)
  else if lower then some c
  else if upper then some (c + 1)
  else none

/-- The first hit on the grids of `digits`, `digits + 1`, … significant digits. -/
def Interval.search (i : Interval) (top : Int) : (steps digits : Nat) → Decimal
  | 0, digits => ⟨0, top - digits⟩
  | steps + 1, digits =>
    match i.onGrid? (top + 1 - digits) with
    | some c => ⟨c, top + 1 - digits⟩
    | none => i.search top steps (digits + 1)

/-- Takes at most `steps` zeros off the end of the digits. -/
def Decimal.trimZeros (d : Decimal) : Nat → Decimal
  | 0 => d
  | steps + 1 =>
    if d.digits % 10 = 0 then Decimal.trimZeros ⟨d.digits / 10, d.exponent + 1⟩ steps else d

/-- The shortest decimal that reads back as the magnitude; seventeen digits are always enough. -/
def shortest (magnitude : Nat) : Decimal :=
  let i := interval magnitude
  (i.search (exponent10 i.value i.denominator) 17 1).trimZeros 17

/-- How a double is laid out: the decimal exponents written in full lie from `leastPositional` to
below `endPositional`, and an exponent is written with its sign. -/
structure Layout where
  leastPositional : Int
  endPositional : Int

/-- Numbers from `0.00001` to below `10 ^ 16` are written in full, all others with an exponent. -/
def layout : Layout :=
  ⟨-5, 16⟩

/-- The digits with a point after the first `whole` of them, and a zero where a side is empty. -/
def withPoint (ds : List Char) (whole : Nat) : List Char :=
  let front := ds.take whole ++ List.replicate (whole - ds.length) '0'
  let back := ds.drop whole
  (if front.isEmpty then ['0'] else front) ++ ['.'] ++ (if back.isEmpty then ['0'] else back)

/-- The text of a decimal in the given layout. -/
def Decimal.write (l : Layout) (d : Decimal) : List Char :=
  let ds := Text.Digits.write d.digits
  let e : Int := d.exponent + ds.length - 1
  if l.leastPositional ≤ e ∧ e < l.endPositional then
    if 0 ≤ e then withPoint ds (e.toNat + 1)
    else ['0', '.'] ++ List.replicate ((-e).toNat - 1) '0' ++ ds
  else
    let significand := if ds.length = 1 then ds else withPoint ds 1
    let sign := if e < 0 then '-' else '+'
    significand ++ ['e', sign] ++ Text.Digits.write e.natAbs

/-- The text of a double. -/
def write (x : Double) : List Char :=
  let body := if x.magnitude = 0 then ['0', '.', '0'] else (shortest x.magnitude).write layout
  if x.negative then '-' :: body else body

end Double

end Outbox
