import Outbox.Proofs.Text.Digits
import Outbox.Proofs.Time.Calendar
import Outbox.Time.Printer
import Outbox.Time.Reader
/-!
# `Proofs.Time.Text` — instants are read as they were written

What is written of an instant are a date, a time of day and the letter Z. The reader takes each part
back as it was written, and date and time make the instant again: of a year with a sign as of one
without, and of a leap second, which stands in the text as second 60.
-/

namespace Outbox

open Text Text.Digits

namespace Time

variable {rest : List Char}

/-! ## Numbers and marks -/

/-- A number with a fixed number of digits is read whatever follows it. -/
theorem number?_writeFixed {width n : Nat} (hwidth : 0 < width) (h : n < 10 ^ width) :
    number? width (writeFixed width n ++ rest) = some (n, rest) := by
  have hdigits : ∀ c ∈ writeFixed width n, isDigit c = true := fun _ => isDigit_of_mem_writeFixed
  have hlength := length_writeFixed width n
  have hne := writeFixed_ne_nil hwidth n
  rw [number?, trimStart_of_isDigit hne hdigits,
    spanUpTo_append hdigits (Nat.le_of_eq hlength) fun hlt => absurd hlength (Nat.ne_of_lt hlt)]
  simp [hne, read_writeFixed_of_lt h]

theorem trimStart_cons {c : Char} (h : isBlank c = false) : trimStart (c :: rest) = c :: rest := by
  simp [trimStart, h]

theorem mark?_cons {c : Char} (h : isBlank c = false) : mark? c (c :: rest) = some rest := by
  simp [mark?, trimStart_cons h]

/-- A number of any length is read up to the mark after it. -/
theorem unlimited?_writePadded (width n : Nat) :
    unlimited? (writePadded width n ++ '-' :: rest) = some (n, '-' :: rest) := by
  have hdigits : ∀ c ∈ writePadded width n, isDigit c = true :=
    fun _ => isDigit_of_mem_writePadded
  rw [unlimited?, takeWhile_append hdigits rfl, dropWhile_append hdigits rfl]
  simp [writePadded_ne_nil]

/-! ## Dates -/

/-- A year is read as it was written, with a sign or without. -/
theorem year?_writeYear (year : Int) :
    year? (writeYear year ++ '-' :: rest) = some (year, '-' :: rest) := by
  rw [writeYear]
  split
  · next h =>
    have hdigits : ∀ c ∈ writeFixed 4 year.toNat, isDigit c = true :=
      fun _ => isDigit_of_mem_writeFixed
    have hne : writeFixed 4 year.toNat ≠ [] := writeFixed_ne_nil (by decide) _
    have hnumber : number? 4 (writeFixed 4 year.toNat ++ '-' :: rest) =
        some (year.toNat, '-' :: rest) := number?_writeFixed (by decide) (by omega)
    rw [year?, trimStart_of_isDigit hne hdigits]
    -- a sign is no digit
    split
    · next heq => exact absurd heq (append_ne_cons hne hdigits rfl)
    · next heq => exact absurd heq (append_ne_cons hne hdigits rfl)
    · simp only [hnumber, Option.map_some, Int.toNat_of_nonneg h.1]
  · split
    · next h =>
      have hyear : -(year.natAbs : Int) = year := by omega
      rw [year?, List.cons_append, trimStart_cons rfl]
      simp only [unlimited?_writePadded, Option.map_some, hyear]
    · next h =>
      have hyear : (year.natAbs : Int) = year := by omega
      rw [year?, List.cons_append, trimStart_cons rfl]
      simp only [unlimited?_writePadded, Option.map_some, hyear]

/-- A date of the calendar is read as it was written. -/
theorem date?_write {d : Date} (h : d.Valid) : date? (d.write ++ rest) = some (d, rest) := by
  obtain ⟨-, hmonth, -, hday⟩ := h
  have hdays : daysIn d.year d.month ≤ 31 := by
    simp only [daysIn]
    split
    · split <;> omega
    · split <;> omega
  have htwo {n : Nat} (hn : n < 10 ^ 2) {rest : List Char} :
      number? 2 (writeFixed 2 n ++ rest) = some (n, rest) := number?_writeFixed (by decide) hn
  simp only [Date.write, List.append_assoc, List.cons_append, List.nil_append, date?, year?_writeYear,
    mark?_cons (show isBlank '-' = false from rfl), htwo (n := d.month) (by omega),
    htwo (n := d.day) (by omega), Option.bind_eq_bind, Option.bind_some, Option.pure_def]

/-! ## Times of day -/

/-- A fraction of a second is read in nanoseconds. -/
theorem fraction?_writeFixed {width n : Nat} (hwidth : 0 < width) (hle : width ≤ 9)
    (h : n < 10 ^ width) :
    fraction? ('.' :: (writeFixed width n ++ ['Z'])) = some (n * 10 ^ (9 - width), ['Z']) := by
  have hdigits : ∀ c ∈ writeFixed width n, isDigit c = true := fun _ => isDigit_of_mem_writeFixed
  have hlength := length_writeFixed width n
  have hne := writeFixed_ne_nil hwidth n
  have hspan : spanUpTo 9 (writeFixed width n ++ ['Z']) = (writeFixed width n, ['Z']) :=
    spanUpTo_append hdigits (hlength.symm ▸ hle) fun _ c hc => by
      cases hc
      rfl
  simp only [fraction?, hspan]
  simp [hne, read_writeFixed_of_lt h, isDigit]

theorem fraction?_writeFraction {nanos : Nat} (h : nanos < 1_000_000_000) :
    fraction? (writeFraction nanos ++ ['Z']) = some (nanos, ['Z']) := by
  rw [writeFraction]
  split
  · next hzero =>
    rw [hzero]
    rfl
  · split
    · rw [List.cons_append, fraction?_writeFixed (by decide) (by decide) (by omega)]
      simp only [Option.some.injEq, Prod.mk.injEq, and_true]
      omega
    · split
      · rw [List.cons_append, fraction?_writeFixed (by decide) (by decide) (by omega)]
        simp only [Option.some.injEq, Prod.mk.injEq, and_true]
        omega
      · rw [List.cons_append, fraction?_writeFixed (by decide) (by decide) h]
        simp

/-- The text of a time of day. -/
def TimeOfDay.write (c : TimeOfDay) : List Char :=
  writeFixed 2 c.hour ++ [':'] ++ writeFixed 2 c.minute ++ [':'] ++ writeFixed 2 c.second ++
    writeFraction c.nanos

/-- A time of day is read as it was written. -/
theorem timeOfDay?_write {c : TimeOfDay} (h : c.Valid) (hnanos : c.nanos < 1_000_000_000) :
    timeOfDay? (c.write ++ ['Z']) = some (c, ['Z']) := by
  obtain ⟨hhour, hminute, hsecond⟩ := h
  have htwo {n : Nat} (hn : n < 10 ^ 2) {rest : List Char} :
      number? 2 (writeFixed 2 n ++ rest) = some (n, rest) := number?_writeFixed (by decide) hn
  simp only [TimeOfDay.write, List.append_assoc, List.cons_append, List.nil_append, timeOfDay?,
    mark?_cons (show isBlank ':' = false from rfl), htwo (n := c.hour) (by omega),
    htwo (n := c.minute) (by omega), htwo (n := c.second) (by omega),
    fraction?_writeFraction hnanos, Option.bind_eq_bind, Option.bind_some, Option.pure_def]
  rfl

end Time

/-! ## Instants -/

namespace Instant

open Time

/-- The time of day that is written of an instant: the leap second after second 59 is second 60. -/
def timeOfDay (t : Instant) : TimeOfDay :=
  let secondOfDay := (t.seconds % 86400).toNat
  let leaps := 1_000_000_000 ≤ t.nanos
  { hour := secondOfDay / 3600
    minute := secondOfDay / 60 % 60
    second := if leaps then 60 else secondOfDay % 60
    nanos := if leaps then t.nanos - 1_000_000_000 else t.nanos }

/-- A leap second is the last of its minute. -/
theorem second_of_leaps {t : Instant} (h : 1_000_000_000 ≤ t.nanos) :
    (t.seconds % 86400).toNat % 60 = 59 := by
  rcases t.valid.2.2 with hnanos | ⟨-, hsecond⟩ <;> omega

theorem write_eq (t : Instant) :
    t.write = (Date.ofDays (t.seconds / 86400)).write ++ 'T' :: (t.timeOfDay.write ++ ['Z']) := by
  by_cases h : 1_000_000_000 ≤ t.nanos
  · have hlt : ¬t.nanos < 1_000_000_000 := Nat.not_lt_of_le h
    simp [write, timeOfDay, TimeOfDay.write, h, hlt, second_of_leaps h]
  · have hlt : t.nanos < 1_000_000_000 := Nat.lt_of_not_le h
    simp [write, timeOfDay, TimeOfDay.write, h, hlt]

theorem valid_timeOfDay (t : Instant) : t.timeOfDay.Valid ∧ t.timeOfDay.nanos < 1_000_000_000 := by
  have hnanos : t.nanos < 2_000_000_000 := by
    rcases t.valid.2.2 with hnanos | ⟨hnanos, -⟩ <;> omega
  simp only [timeOfDay, TimeOfDay.Valid]
  refine ⟨⟨by omega, by omega, ?_⟩, ?_⟩ <;> split <;> omega

/-- The date and the time of day of an instant make that instant. -/
theorem instant?_timeOfDay (t : Instant) :
    instant? (Date.ofDays (t.seconds / 86400)) t.timeOfDay 0 = some t := by
  have hmake : make? t.seconds t.nanos = some t := dif_pos t.valid
  have hvalid : (Date.ofDays (t.seconds / 86400)).Valid ∧ t.timeOfDay.Valid ∧
      (0 : Int).natAbs < 1440 := ⟨Date.valid_ofDays _, t.valid_timeOfDay.1, by decide⟩
  have hseconds (second : Nat) (h : second = (t.seconds % 86400).toNat % 60) :
      (Date.ofDays (t.seconds / 86400)).toDays * 86400 +
        (t.timeOfDay.hour * 3600 + t.timeOfDay.minute * 60 + second : Nat) = t.seconds := by
    simp only [Date.toDays_ofDays, timeOfDay]
    omega
  rw [instant?, if_pos hvalid]
  by_cases h : 1_000_000_000 ≤ t.nanos
  · have hnanos : t.nanos - 1_000_000_000 + 1_000_000_000 = t.nanos := Nat.sub_add_cancel h
    have hsecond : t.timeOfDay.second = 60 := if_pos h
    have hwritten : t.timeOfDay.nanos = t.nanos - 1_000_000_000 := if_pos h
    simp only [hsecond, if_true, hwritten, hnanos, hseconds 59 (second_of_leaps h).symm,
      t.valid.1, t.valid.2.1, and_self, Int.zero_mul, Int.sub_zero, hmake]
  · have hsecond : t.timeOfDay.second = (t.seconds % 86400).toNat % 60 := if_neg h
    have hwritten : t.timeOfDay.nanos = t.nanos := if_neg h
    have hne : t.timeOfDay.second ≠ 60 := by omega
    simp only [hne, if_false, hwritten, hseconds _ hsecond, t.valid.1, t.valid.2.1, and_self,
      if_true, Int.zero_mul, Int.sub_zero, hmake]

end Instant

/-- Every instant is read as it was written. -/
@[simp]
theorem Time.read?_write (t : Instant) : Time.read? t.write = some t := by
  have htime := t.valid_timeOfDay
  rw [t.write_eq, read?, date?_write (Date.valid_ofDays _)]
  simp only [Option.bind_eq_bind, Option.bind_some, separator?, true_or, if_true,
    timeOfDay?_write htime.1 htime.2]
  exact t.instant?_timeOfDay

end Outbox
