import Outbox.Time.Calendar
/-!
# `Proofs.Time.Calendar` — every day number has a date

The date of a day number is in the calendar and has that day number, in all years before and after
1970. Both are shown of the day of a year that begins in March: there the leap day comes last, and
the month is a quotient of the day.
-/

namespace Outbox.Time

/-! ## Years that begin in March -/

/-- The number of days from the 1st of March of a year to that of the next. -/
def daysFromMarch (year : Int) : Nat :=
  if isLeap (year + 1) then 366 else 365

theorem daysToMarch_succ (year : Int) :
    daysToMarch (year + 1) = daysToMarch year + daysFromMarch year := by
  simp only [daysToMarch, daysFromMarch, isLeap, Bool.and_eq_true, Bool.or_eq_true, beq_iff_eq,
    bne_iff_ne]
  split <;> omega

/-- The year of a day begins on that day or before it, and the next year after it. -/
theorem marchYear_spec (days : Int) :
    daysToMarch (marchYear days) ≤ days ∧ days < daysToMarch (marchYear days + 1) := by
  simp only [marchYear]
  split
  · simp only [daysToMarch] at *
    omega
  · split <;> simp only [daysToMarch] at * <;> omega

theorem daysFromMarch_le (year : Int) : daysFromMarch year ≤ 366 := by
  rw [daysFromMarch]
  split <;> omega

/-- February has what the other eleven months leave of a year. -/
theorem daysFromMarch_eq (year : Int) : daysFromMarch year = 337 + daysIn (year + 1) 2 := by
  rw [daysFromMarch, daysIn, if_pos rfl]
  split <;> rfl

/-! ## Days of such a year -/

namespace Date

/-- The date of a day of a year that begins in March, of which the 1st of March is day 0. -/
def ofMarch (year : Int) (dayOfYear : Nat) : Date :=
  let m := (5 * dayOfYear + 2) / 153
  let day := dayOfYear - (153 * m + 2) / 5 + 1
  if m < 10 then ⟨year, m + 3, day⟩ else ⟨year + 1, m - 9, day⟩

/-- The day of the month is at least the first and at most the last. -/
theorem valid_ofMarch {year : Int} {k : Nat} (h : k < daysFromMarch year) :
    (ofMarch year k).Valid := by
  have hk := daysFromMarch_le year
  simp only [ofMarch]
  split
  · next hm =>
    simp only [Valid, daysIn]
    refine ⟨by omega, by omega, by omega, ?_⟩
    rw [if_neg (by omega)]
    split <;> omega
  · next hm =>
    simp only [Valid]
    refine ⟨by omega, by omega, by omega, ?_⟩
    -- January has 31 days, February as many as the year allows
    rcases Nat.lt_or_ge k 337 with hjanuary | hfebruary
    · have hmonth : (5 * k + 2) / 153 - 9 = 1 := by omega
      rw [hmonth]
      show _ ≤ 31
      omega
    · have hmonth : (5 * k + 2) / 153 - 9 = 2 := by omega
      rw [daysFromMarch_eq] at h
      rw [hmonth]
      omega

theorem toDays_ofMarch {year : Int} {k : Nat} (h : k < 366) :
    (ofMarch year k).toDays = daysToMarch year + k - epochDays := by
  simp only [ofMarch]
  split
  · simp only [toDays]
    rw [if_neg (by omega)]
    simp only []
    omega
  · simp only [toDays]
    rw [if_pos (by omega)]
    simp only [Int.add_sub_cancel]
    omega

/-! ## Day numbers -/

/-- The date of a day number is that of a day of its year. -/
theorem ofDays_cases (days : Int) : ∃ year k, k < daysFromMarch year ∧
    daysToMarch year + k = days + epochDays ∧ ofDays days = ofMarch year k := by
  obtain ⟨hbegin, hend⟩ := marchYear_spec (days + epochDays)
  rw [daysToMarch_succ] at hend
  exact ⟨marchYear (days + epochDays),
    (days + epochDays - daysToMarch (marchYear (days + epochDays))).toNat, by omega, by omega, rfl⟩

/-- Every day number has a date of the calendar. -/
theorem valid_ofDays (days : Int) : (ofDays days).Valid := by
  obtain ⟨year, k, hk, -, hdate⟩ := ofDays_cases days
  exact hdate ▸ valid_ofMarch hk

/-- The date of a day number has that day number. -/
@[simp]
theorem toDays_ofDays (days : Int) : (ofDays days).toDays = days := by
  obtain ⟨year, k, hk, hdays, hdate⟩ := ofDays_cases days
  rw [hdate, toDays_ofMarch (Nat.lt_of_lt_of_le hk (daysFromMarch_le year)), hdays]
  omega

end Date

end Outbox.Time
