import Outbox.Text.Digits
import Outbox.Time.Instant
/-!
# `Outbox.Time.Printer` — the text of an instant

Date, time and the letter Z. A year outside 0 to 9999 has a sign; the seconds have a fraction of
three, six or nine digits if they need one; a leap second is written as second 60.
-/

namespace Outbox

open Text.Digits

namespace Time

/-- The text of a year. -/
def writeYear (year : Int) : List Char :=
  if 0 ≤ year ∧ year ≤ 9999 then writeFixed 4 year.toNat
  else (if year < 0 then '-' else '+') :: writePadded 4 year.natAbs

/-- The text of a date. -/
def Date.write (d : Date) : List Char :=
  writeYear d.year ++ ['-'] ++ writeFixed 2 d.month ++ ['-'] ++ writeFixed 2 d.day

/-- The text of the fraction of a second: none, three, six or nine digits. -/
def writeFraction (nanos : Nat) : List Char :=
  if nanos = 0 then []
  else if nanos % 1_000_000 = 0 then '.' :: writeFixed 3 (nanos / 1_000_000)
  else if nanos % 1000 = 0 then '.' :: writeFixed 6 (nanos / 1000)
  else '.' :: writeFixed 9 nanos

end Time

/-- The text of an instant. -/
def Instant.write (t : Instant) : List Char :=
  let date := Time.Date.ofDays (t.seconds / 86400)
  let secondOfDay := (t.seconds % 86400).toNat
  let (second, nanos) :=
    if t.nanos < 1_000_000_000 then (secondOfDay % 60, t.nanos)
    else (secondOfDay % 60 + 1, t.nanos - 1_000_000_000)
  date.write ++ ['T'] ++ writeFixed 2 (secondOfDay / 3600) ++ [':'] ++
    writeFixed 2 (secondOfDay / 60 % 60) ++ [':'] ++ writeFixed 2 second ++
    Time.writeFraction nanos ++ ['Z']

/-- The text of an instant. -/
def Instant.print (t : Instant) : String :=
  String.ofList t.write

end Outbox
