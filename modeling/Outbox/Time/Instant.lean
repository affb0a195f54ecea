import Outbox.Time.Calendar
/-!
# `Outbox.Time.Instant` — points in time

An instant is a number of seconds since 1970-01-01T00:00:00Z and a number of nanoseconds. The
nanoseconds of a leap second go on from those of the second before it, so they may reach from one to
below two thousand million at the last second of a minute.
-/

namespace Outbox

namespace Instant

/-- The seconds of the first instant, the beginning of the year -262143. -/
def leastSeconds : Int :=
  (Time.Date.mk (-262143) 1 1).toDays * 86400

/-- The seconds of the last instant, the end of the year 262142. -/
def greatestSeconds : Int :=
  (Time.Date.mk 262142 12 31).toDays * 86400 + 86399

/-- The seconds and nanoseconds that make an instant. -/
def Valid (seconds : Int) (nanos : Nat) : Prop :=
  leastSeconds ≤ seconds ∧ seconds ≤ greatestSeconds ∧
    (nanos < 1_000_000_000 ∨ (nanos < 2_000_000_000 ∧ seconds % 60 = 59))

instance (seconds : Int) (nanos : Nat) : Decidable (Valid seconds nanos) :=
  inferInstanceAs (Decidable (_ ∧ _))

end Instant

/-- A point in time. -/
structure Instant where
  seconds : Int
  nanos : Nat
  valid : Instant.Valid seconds nanos

namespace Instant

instance : DecidableEq Instant := fun a b =>
  decidable_of_iff (a.seconds = b.seconds ∧ a.nanos = b.nanos)
    ⟨fun h => by cases a; cases b; simp_all, fun h => h ▸ ⟨rfl, rfl⟩⟩

/-- The instant with the given seconds and nanoseconds. -/
def make? (seconds : Int) (nanos : Nat) : Option Instant :=
  if h : Valid seconds nanos then some ⟨seconds, nanos, h⟩ else none

/-- 1970-01-01T00:00:00Z. -/
def epoch : Instant :=
  ⟨0, 0, by decide⟩

instance : Inhabited Instant := ⟨epoch⟩

/-- The instant a number of milliseconds after 1970-01-01T00:00:00Z. -/
def ofMilliseconds? (ms : Int) : Option Instant :=
  make? (ms / 1000) ((ms % 1000).toNat * 1_000_000)

/-- The whole milliseconds since 1970-01-01T00:00:00Z, rounded down. -/
def milliseconds (t : Instant) : Int :=
  t.seconds * 1000 + (t.nanos / 1_000_000 : Nat)

end Instant

end Outbox
