import Outbox.Json.Basic
import Outbox.Text.Digits
/-!
# `Outbox.Json.Numeral` — reading JSON numbers

A numeral without fraction and exponent stays an integer where it lies from `-2 ^ 63` to below
`2 ^ 64`, except `-0`, which has no integer. Every other numeral is a double. Its digits are
gathered into a significand as long as that stays below `2 ^ 64`; the digits of the whole part that
do not fit each count for a power of ten, the digits of the fraction that do not fit count for
nothing.
-/

namespace Outbox.Json

open Text.Digits

/-- The parts of a numeral. -/
structure Numeral where
  negative : Bool
  whole : List Char
  fraction : Option (List Char)
  exponent : Option (Bool × List Char)
  deriving DecidableEq, Repr

namespace Numeral

/-- Gathers digits into a significand while it stays below `2 ^ 64`; gives the digits left over. -/
def gather (significand : Nat) : List Char → Nat × List Char
  | [] => (significand, [])
  | c :: rest =>
    let next := 10 * significand + Text.Digits.value c
    if next < 0x1_0000_0000_0000_0000 then gather next rest else (significand, c :: rest)

/-- The double that a numeral stands for, unless it is too large for one. -/
def toDouble? (n : Numeral) : Option Double :=
  let (whole, excess) := gather 0 n.whole
  let fraction := n.fraction.getD []
  let (significand, unused) := gather whole fraction
  let shift : Int := excess.length - (fraction.length - unused.length : Nat)
  let exponent : Int := match n.exponent with
    | none => 0
    | some (true, ds) => -(Text.Digits.read ds : Int)
    | some (false, ds) => Text.Digits.read ds
  Double.ofScientific n.negative significand (shift + exponent)

/-- The number that a numeral stands for, unless it is too large for a double. -/
def number? (n : Numeral) : Option Number :=
  let whole := Text.Digits.read n.whole
  if n.fraction.isNone && n.exponent.isNone then
    if n.negative then
      if 0 < whole && whole ≤ 0x8000_0000_0000_0000 then some (.integer (-(whole : Int)))
      else n.toDouble?.map .double
    else if whole < 0x1_0000_0000_0000_0000 then some (.integer whole)
    else n.toDouble?.map .double
  else n.toDouble?.map .double

/-- The exponent that ends a numeral, if there is one: whether it is negative, and its digits. -/
def readExponent? : List Char → Option (Option (Bool × List Char))
  | [] => some none
  | e :: rest =>
    if e = 'e' ∨ e = 'E' then
      let (negative, ds) := match rest with
        | '-' :: ds => (true, ds)
        | '+' :: ds => (false, ds)
        | ds => (false, ds)
      if !ds.isEmpty && ds.all isDigit then some (some (negative, ds)) else none
    else none

/-- The fraction of a numeral, if there is one, and what follows it. -/
def readFraction? : List Char → Option (Option (List Char) × List Char)
  | '.' :: rest =>
    let ds := rest.takeWhile isDigit
    if ds.isEmpty then none else some (some ds, rest.dropWhile isDigit)
  | rest => some (none, rest)

/-- The whole part of a numeral, without needless zeros, and what follows it. -/
def readWhole? (cs : List Char) : Option (List Char × List Char) :=
  let ds := cs.takeWhile isDigit
  if ds.isEmpty || (ds.head? == some '0' && ds.length != 1) then none
  else some (ds, cs.dropWhile isDigit)

/-- Reads the parts of a numeral. -/
def read? (cs : List Char) : Option Numeral := do
  let (negative, cs) := match cs with
    | '-' :: rest => (true, rest)
    | cs => (false, cs)
  let (whole, cs) ← readWhole? cs
  let (fraction, cs) ← readFraction? cs
  let exponent ← readExponent? cs
  return ⟨negative, whole, fraction, exponent⟩

end Numeral

end Outbox.Json
