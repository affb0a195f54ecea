/-!
# `Outbox.Time.Calendar` — dates and day numbers

The Gregorian calendar, extended without end in both directions. Days are counted from 1970-01-01,
and the count goes through years that begin in March, so that the leap day is the last day of a year
and the months have the lengths 31, 30, 31, 30, 31, 31, 30, 31, 30, 31, 31 and the rest.
-/

namespace Outbox.Time

/-- A day of the calendar. -/
structure Date where
  year : Int
  month : Nat
  day : Nat
  deriving DecidableEq, Repr

/-- Whether a year has a 29th of February. -/
def isLeap (year : Int) : Bool :=
  year % 4 == 0 && (year % 100 != 0 || year % 400 == 0)

/-- The number of days of a month. -/
def daysIn (year : Int) (month : Nat) : Nat :=
  if month = 2 then (if isLeap year then 29 else 28)
  else if month = 4 ∨ month = 6 ∨ month = 9 ∨ month = 11 then 30
  else 31

/-- Whether a date is in the calendar. -/
def Date.Valid (d : Date) : Prop :=
  1 ≤ d.month ∧ d.month ≤ 12 ∧ 1 ≤ d.day ∧ d.day ≤ daysIn d.year d.month

instance (d : Date) : Decidable d.Valid :=
  inferInstanceAs (Decidable (_ ∧ _))

/-- The days from the 1st of March of the year zero to that of the given year. -/
def daysToMarch (year : Int) : Int :=
  365 * year + year / 4 - year / 100 + year / 400

/-- The days from the 1st of March of the year zero to 1970-01-01. -/
def epochDays : Int :=
  719468

/-- The year beginning in March that holds a day, counted from the 1st of March of the year zero.
The mean length of a year gives it but for one. -/
def marchYear (days : Int) : Int :=
  let year := days * 400 / 146097
  if daysToMarch (year + 1) ≤ days then year + 1
  else if days < daysToMarch year then year - 1
  else year

/-- The date with the given day number. -/
def Date.ofDays (days : Int) : Date :=
  let days := days + epochDays
  let year := marchYear days
  let dayOfYear := (days - daysToMarch year).toNat
  let m := (5 * dayOfYear + 2) / 153
  let day := dayOfYear - (153 * m + 2) / 5 + 1
  if m < 10 then ⟨year, m + 3, day⟩ else ⟨year + 1, m - 9, day⟩

/-- The day number of a date. -/
def Date.toDays (d : Date) : Int :=
  let (year, m) := if d.month ≤ 2 then (d.year - 1, d.month + 9) else (d.year, d.month - 3)
  daysToMarch year + ((153 * m + 2) / 5 : Nat) + d.day - 1 - epochDays

end Outbox.Time
