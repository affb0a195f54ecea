import Outbox.Status
/-!
# `Outbox.Tally` — messages counted by status

How many messages have each status: the funnel from pending to delivered.
-/

namespace Outbox

/-- The number of messages with each status. -/
structure Tally where
  pending : Nat
  enqueued : Nat
  notEnqueued : Nat
  delivered : Nat
  deliveredFailed : Nat
  deriving DecidableEq, Repr, Inhabited

namespace Tally

/-- No messages. -/
def zero : Tally :=
  ⟨0, 0, 0, 0, 0⟩

/-- Counts one more message with a status. -/
def add (t : Tally) : Status → Tally
  | .pending => { t with pending := t.pending + 1 }
  | .enqueued => { t with enqueued := t.enqueued + 1 }
  | .notEnqueued => { t with notEnqueued := t.notEnqueued + 1 }
  | .delivered => { t with delivered := t.delivered + 1 }
  | .deliveredFailed => { t with deliveredFailed := t.deliveredFailed + 1 }

/-- The tally of a list of statuses. -/
def ofList (statuses : List Status) : Tally :=
  statuses.foldl add zero

/-- The number of all messages. -/
def total (t : Tally) : Nat :=
  t.pending + t.enqueued + t.notEnqueued + t.delivered + t.deliveredFailed

/-- The number of messages whose life has ended. -/
def terminal (t : Tally) : Nat :=
  t.notEnqueued + t.delivered + t.deliveredFailed

/-- One more message is one more of all. -/
@[simp]
theorem total_add (t : Tally) (s : Status) : (t.add s).total = t.total + 1 := by
  cases s <;> simp +arith [add, total]

end Tally

end Outbox
