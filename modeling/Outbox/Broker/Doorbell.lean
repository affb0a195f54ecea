/-!
# `Outbox.Broker.Doorbell` — waking those who wait for messages

All who wait for a message, on whatever exchange, listen to one doorbell. One ring wakes one
listener, the one that has listened longest; if nobody listens, the ring is kept for the next one to
come. A listener that was woken and leaves before it went on passes the ring to the next.
-/

namespace Outbox

/-- The listeners by number, and the rings on their way. -/
structure Doorbell where
  /-- Whether a ring is kept for the next listener. -/
  kept : Bool
  /-- The listeners that wait, the one that has waited longest first. -/
  waiting : List Nat
  /-- The listeners that were woken and have not gone on yet. -/
  woken : List Nat
  deriving DecidableEq, Repr, Inhabited

namespace Doorbell

/-- A doorbell that nobody listens to. -/
def silent : Doorbell :=
  ⟨false, [], []⟩

/-- Rings once. -/
def ring (d : Doorbell) : Doorbell :=
  match d.waiting with
  | [] => { d with kept := true }
  | listener :: rest => { d with waiting := rest, woken := d.woken ++ [listener] }

/-- Begins to listen; a kept ring wakes the listener at once. -/
def listen (d : Doorbell) (listener : Nat) : Doorbell :=
  if d.kept then { d with kept := false, woken := d.woken ++ [listener] }
  else { d with waiting := d.waiting ++ [listener] }

/-- Whether a listener has been woken. -/
def hasWoken (d : Doorbell) (listener : Nat) : Bool :=
  d.woken.contains listener

/-- A woken listener goes on. -/
def goOn (d : Doorbell) (listener : Nat) : Doorbell :=
  { d with woken := d.woken.filter (· ≠ listener) }

/-- A listener leaves; if it had been woken, the ring goes to the next. -/
def leave (d : Doorbell) (listener : Nat) : Doorbell :=
  if d.hasWoken listener then (d.goOn listener).ring
  else { d with waiting := d.waiting.filter (· ≠ listener) }

end Doorbell

end Outbox
