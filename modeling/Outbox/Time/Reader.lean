import Outbox.Text.Blank
import Outbox.Text.Digits
import Outbox.Time.Instant
/-!
# `Outbox.Time.Reader` — reading times

The reader is looser than the printer. White space may stand before each number and each separator
of the date and the time. Numbers may lack leading zeros, and a year with a sign may have any number
of digits. Date and time are parted by `T`, `t` or a space. The offset from UTC is `Z`, `z`, `UTC`
in any case, or a sign and four digits with any white space and colons after the second; the minus
sign may be the mathematical one. Digits of a second beyond the ninth place are dropped.
-/

namespace Outbox.Time

open Text Text.Digits

/-- Reads a number of one to `limit` digits, after any white space. -/
def number? (limit : Nat) (cs : List Char) : Option (Nat × List Char) :=
  let (ds, rest) := spanUpTo limit (trimStart cs)
  if ds.isEmpty then none else some (read ds, rest)

/-- Reads a mark, after any white space. -/
def mark? (c : Char) (cs : List Char) : Option (List Char) :=
  match trimStart cs with
  | d :: rest => if d = c then some rest else none
  | [] => none

/-- Reads a number of any length that follows its sign directly. -/
def unlimited? (cs : List Char) : Option (Nat × List Char) :=
  let ds := cs.takeWhile isDigit
  if ds.isEmpty then none else some (read ds, cs.dropWhile isDigit)

/-- Reads a year: up to four digits, or a sign and any number of them. -/
def year? (cs : List Char) : Option (Int × List Char) :=
  match trimStart cs with
  | '-' :: rest => (unlimited? rest).map fun (n, rest) => (-(n : Int), rest)
  | '+' :: rest => (unlimited? rest).map fun (n, rest) => ((n : Int), rest)
  | rest => (number? 4 rest).map fun (n, rest) => ((n : Int), rest)

/-- Reads a date. -/
def date? (cs : List Char) : Option (Date × List Char) := do
  let (year, cs) ← year? cs
  let cs ← mark? '-' cs
  let (month, cs) ← number? 2 cs
  let cs ← mark? '-' cs
  let (day, cs) ← number? 2 cs
  return (⟨year, month, day⟩, cs)

/-- Reads the separator of date and time. -/
def separator? : List Char → Option (List Char)
  | c :: rest => if c = 'T' ∨ c = 't' ∨ c = ' ' then some rest else none
  | [] => none

/-- Reads the fraction of a second in nanoseconds, if there is one. -/
def fraction? : List Char → Option (Nat × List Char)
  | '.' :: cs =>
    let (ds, rest) := spanUpTo 9 cs
    if ds.isEmpty then none else some (read ds * Nat.pow 10 (9 - ds.length), rest.dropWhile isDigit)
  | cs => some (0, cs)

/-- A time of day as it is written; its second may be 60. -/
structure TimeOfDay where
  hour : Nat
  minute : Nat
  second : Nat
  nanos : Nat
  deriving DecidableEq, Repr

/-- Whether a day has such a time. -/
def TimeOfDay.Valid (c : TimeOfDay) : Prop :=
  c.hour < 24 ∧ c.minute < 60 ∧ c.second ≤ 60

instance (c : TimeOfDay) : Decidable c.Valid :=
  inferInstanceAs (Decidable (_ ∧ _))

/-- Reads a time of day. -/
def timeOfDay? (cs : List Char) : Option (TimeOfDay × List Char) := do
  let (hour, cs) ← number? 2 cs
  let cs ← mark? ':' cs
  let (minute, cs) ← number? 2 cs
  let cs ← mark? ':' cs
  let (second, cs) ← number? 2 cs
  let (nanos, cs) ← fraction? cs
  return (⟨hour, minute, second, nanos⟩, trimStart cs)

/-- Whether a text begins with `UTC` in any case. -/
def isUtc : List Char → Bool
  | a :: b :: c :: _ => a.toUpper == 'U' && b.toUpper == 'T' && c.toUpper == 'C'
  | _ => false

/-- Reads an offset of hours and minutes, in minutes. -/
def minutes? : List Char → Option (Nat × List Char)
  | a :: b :: cs =>
    if isDigit a && isDigit b then
      match cs.dropWhile fun c => c == ':' || isBlank c with
      | c :: d :: rest =>
        if isDigit c && isDigit d && value c < 6 then some (read [a, b] * 60 + read [c, d], rest)
        else none
      | _ => none
    else none
  | _ => none

/-- Reads an offset from UTC, in minutes. -/
def offset? (cs : List Char) : Option (Int × List Char) :=
  if isUtc cs then some (0, cs.drop 3)
  else match cs with
    | 'Z' :: rest => some (0, rest)
    | 'z' :: rest => some (0, rest)
    | '+' :: rest => (minutes? rest).map fun (n, rest) => ((n : Int), rest)
    | '-' :: rest => (minutes? rest).map fun (n, rest) => (-(n : Int), rest)
    | '\u2212' :: rest => (minutes? rest).map fun (n, rest) => (-(n : Int), rest)
    | _ => none

/-- The instant of a date and a time of day at an offset, which must be shorter than a day. The
second 60 is the leap second after the second 59, and the date must be one that an instant can
have, also before the offset is taken off. -/
def instant? (date : Date) (time : TimeOfDay) (offset : Int) : Option Instant :=
  if date.Valid ∧ time.Valid ∧ offset.natAbs < 1440 then
    let (second, nanos) :=
      if time.second = 60 then (59, time.nanos + 1_000_000_000) else (time.second, time.nanos)
    let seconds := date.toDays * 86400 + (time.hour * 3600 + time.minute * 60 + second : Nat)
    if Instant.leastSeconds ≤ seconds ∧ seconds ≤ Instant.greatestSeconds then
      Instant.make? (seconds - offset * 60) nanos
    else none
  else none

/-- Reads an instant. -/
def read? (text : List Char) : Option Instant := do
  let (date, cs) ← date? text
  let cs ← separator? cs
  let (time, cs) ← timeOfDay? cs
  let (offset, cs) ← offset? cs
  if (trimStart cs).isEmpty then instant? date time offset else none

end Outbox.Time
