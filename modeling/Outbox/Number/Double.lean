/-!
# `Outbox.Number.Double` — double-precision numbers, by their place in the order

A finite double is kept as its sign and its *magnitude*: its place when the non-negative doubles are
counted upwards from zero. The magnitude is the bit pattern without the sign bit, so the exponent is
its quotient by `2 ^ 52` and the fraction the remainder. All arithmetic is on natural numbers, and
every operation rounds to the nearest double, a tie going to the even magnitude.
-/

namespace Outbox

/-- A finite double-precision number. -/
structure Double where
  negative : Bool
  magnitude : Nat
  deriving DecidableEq, Repr

namespace Double

/-- How many magnitudes have the same exponent: 2 to the 52. -/
def binade : Nat :=
  0x10_0000_0000_0000

/-- The magnitude that would be infinity: one more than that of the greatest double. -/
def infinity : Nat :=
  2047 * binade

/-- The value of a magnitude is `m * 2 ^ q`. -/
def parts (magnitude : Nat) : Nat × Int :=
  let field : Nat := magnitude / binade
  if field = 0 then (magnitude, -1074)
  else (magnitude % binade + binade, (field : Int) - 1075)

/-- `n * 2 ^ q / d` as a fraction of natural numbers. -/
def fraction (n d : Nat) (q : Int) : Nat × Nat :=
  if 0 ≤ q then (n * Nat.pow 2 q.toNat, d) else (n, d * Nat.pow 2 (-q).toNat)

/-- The exponent of the greatest power of two that is at most `n / d`. -/
def exponent2 (n d : Nat) : Int :=
  let k : Int := (Nat.log2 n : Int) - Nat.log2 d
  let (a, b) := fraction 1 1 k
  if n * b < d * a then k - 1 else k

/-- The quotient rounded to the nearest natural number, a tie going to the even one. -/
def roundQuotient (n d : Nat) : Nat :=
  let m := n / d
  let r := 2 * (n % d)
  if d < r ∨ (r = d ∧ m % 2 = 1) then m + 1 else m

/-- The magnitude nearest to `n / d`; it is at least `infinity` where `n / d` is too large. -/
def nearest (n d : Nat) : Nat :=
  if n = 0 then 0
  else
    let q := max (exponent2 n d - 52) (-1074)
    let (a, b) := fraction n d (-q)
    (q + 1074).toNat * binade + roundQuotient a b

/-- The magnitude nearest to `10 ^ e`. -/
def powerOfTen (e : Nat) : Nat :=
  nearest (Nat.pow 10 e) 1

/-- The magnitude nearest to the product of two. -/
def mul (a b : Nat) : Nat :=
  let (m, p) := parts a
  let (n, q) := parts b
  let (x, y) := fraction (m * n) 1 (p + q)
  nearest x y

/-- The magnitude nearest to the quotient of two. -/
def div (a b : Nat) : Nat :=
  let (m, p) := parts a
  let (n, q) := parts b
  let (x, y) := fraction m n (p - q)
  nearest x y

/-- Divides by `10 ^ e`, in steps of at most `10 ^ 308`, each step rounded; two full steps leave
nothing of any double below `10 ^ 20`. -/
def scaleDown (magnitude : Nat) (e : Nat) : Nat :=
  if e ≤ 308 then div magnitude (powerOfTen e)
  else
    let once := div magnitude (powerOfTen 308)
    if e ≤ 616 then div once (powerOfTen (e - 308)) else 0

/-- Multiplies by `10 ^ e`, unless that is too large. -/
def scaleUp (magnitude : Nat) (e : Nat) : Option Nat :=
  if magnitude = 0 then some 0
  else if 308 < e then none
  else
    let product := mul magnitude (powerOfTen e)
    if product < infinity then some product else none

/-- `significand * 10 ^ e`: the significand is rounded first, then the scaled value. -/
def ofScientific (negative : Bool) (significand : Nat) (e : Int) : Option Double :=
  let base := nearest significand 1
  let scaled := if 0 ≤ e then scaleUp base e.toNat else some (scaleDown base (-e).toNat)
  scaled.map fun magnitude => ⟨negative, magnitude⟩

end Double

end Outbox
