import Outbox.Status
/-!
# `Outbox.BatchSummary` — what became of a batch

A batch ends in a count of what became of its messages, and perhaps in an outcome that could not be
written down and is carried over to the next batch.
-/

namespace Outbox

/-- How many messages of a batch had which fate. -/
structure BatchSummary where
  /-- Messages claimed for the batch. -/
  fetched : Nat
  /-- Messages that the broker took. -/
  enqueued : Nat
  /-- Messages that the broker did not take. -/
  notEnqueued : Nat
  /-- Messages that were gone or had made another step. -/
  dropped : Nat
  /-- Messages whose outcome could not be written down. -/
  storeFailures : Nat
  /-- Messages whose claim was given back before they were published. -/
  released : Nat
  /-- Outcomes of earlier batches that were written down after all. -/
  recovered : Nat
  deriving DecidableEq, Repr, Inhabited

namespace BatchSummary

/-- The summary of a batch to which nothing has happened. -/
def blank : BatchSummary :=
  ⟨0, 0, 0, 0, 0, 0, 0⟩

/-- Counts a message that the broker took or did not take. -/
def countPublished (r : BatchSummary) (target : Status) : BatchSummary :=
  if target = .enqueued then { r with enqueued := r.enqueued + 1 }
  else { r with notEnqueued := r.notEnqueued + 1 }

/-- Counts a message that was gone or had made another step. -/
def countDropped (r : BatchSummary) : BatchSummary :=
  { r with dropped := r.dropped + 1 }

/-- Counts a message whose outcome could not be written down. -/
def countStoreFailure (r : BatchSummary) : BatchSummary :=
  { r with storeFailures := r.storeFailures + 1 }

/-- Counts messages whose claim was given back. -/
def countReleased (r : BatchSummary) (n : Nat) : BatchSummary :=
  { r with released := r.released + n }

/-- Counts an outcome of an earlier batch that was written down. -/
def countRecovered (r : BatchSummary) : BatchSummary :=
  { r with recovered := r.recovered + 1 }

end BatchSummary

end Outbox
