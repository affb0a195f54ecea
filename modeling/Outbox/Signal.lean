/-!
# `Outbox.Signal` — telling a loop to stop

A signal has a value that its owner sets as often as it likes; who watches it notices every setting,
also one of the same value, since the watcher knows which setting it has seen last. An owner that
gives its signal up sets it no more, which means to stop as well.
-/

namespace Outbox

/-- A stop signal. -/
structure Signal where
  value : Bool
  /-- How often it was set. -/
  version : Nat
  givenUp : Bool
  deriving DecidableEq, Repr, Inhabited

namespace Signal

/-- A signal that does not tell to stop. -/
def fresh : Signal :=
  ⟨false, 0, false⟩

/-- Sets the value. -/
def set (s : Signal) (value : Bool) : Signal :=
  { s with value, version := s.version + 1 }

/-- The owner gives the signal up. -/
def giveUp (s : Signal) : Signal :=
  { s with givenUp := true }

/-- Whether the signal tells to stop. -/
def stops (s : Signal) : Bool :=
  s.value || s.givenUp

/-- Whether the signal was set after the setting that was seen last. -/
def hasNews (s : Signal) (seen : Nat) : Bool :=
  s.version != seen

/-- Whether somebody who waits for the signal to change need not wait: it has been set, or it never
will be again. -/
def wakes (s : Signal) (seen : Nat) : Bool :=
  s.hasNews seen || s.givenUp

/-- Whether the signal tells somebody to stop who has waited for it to change or for time to pass. A
setting that was not seen yet counts before the end of the signal. -/
def halts (s : Signal) (seen : Nat) : Bool :=
  s.value || (s.givenUp && !s.hasNews seen)

/-- Who has waited is told to stop only by a signal that tells so. -/
theorem stops_of_halts {s : Signal} {seen : Nat} (h : s.halts seen = true) : s.stops = true := by
  simp only [halts, stops, Bool.or_eq_true, Bool.and_eq_true] at h ⊢
  exact h.imp_right And.left

/-- A signal that tells to stop, but not who has waited for it, was given up. -/
theorem givenUp_of_stops {s : Signal} {seen : Nat} (stops : s.stops = true)
    (h : s.halts seen = false) : s.givenUp = true := by
  simp only [Signal.halts, Bool.or_eq_false_iff] at h
  rw [Signal.stops, h.1, Bool.false_or] at stops
  exact stops

/-- A signal that was given up tells to stop, whatever its value. -/
@[simp]
theorem stops_giveUp (s : Signal) : s.giveUp.stops = true := by
  simp [giveUp, stops]

/-- Every setting is news to who has seen the one before. -/
@[simp]
theorem hasNews_set (s : Signal) (value : Bool) : (s.set value).hasNews s.version = true := by
  simp [set, hasNews]

end Signal

end Outbox
