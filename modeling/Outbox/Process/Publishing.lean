import Outbox.Process.Batching
/-!
# `Outbox.Process.Publishing` — publishing batch after batch

The loop publishes batches until it is to stop. After a batch that found no message it waits for a
while, and after a failure for another while. When it stops, it gives back the claims of the
outcomes that it could not record.
-/

namespace Outbox

/-- Where the publisher's loop is. -/
inductive Publishing
  | starting
  | batching (batch : Batching)
  | pausing (milliseconds : Nat)
  /-- Waits until it can take the carried outcomes away. -/
  | abandoning
  | releasing (ids : List MessageId)
  deriving DecidableEq, Inhabited

namespace Publishing

/-- What the loop waits for. -/
def request (c : Config) : Publishing → Request
  | .starting => .proceed
  | .batching batch => batch.request c
  | .pausing milliseconds => .pause milliseconds
  | .abandoning => .enter
  | .releasing ids => .release ids

/-- Whether the loop has the carried outcomes to itself. -/
def isInside : Publishing → Bool
  | .batching batch => batch.isInside
  | .starting | .pausing _ | .abandoning | .releasing _ => false

/-- Begins the next batch, unless the loop is to stop. -/
def goOn (stop : Bool) : Turn Publishing Unit :=
  if stop then .wait .abandoning else .wait (.batching .opening)

/-- Comes to the end of the loop. -/
def stopped : Turn Publishing Unit :=
  .after .publisherStopped (.finish ())

/-- Goes on after a batch. -/
def afterBatch (c : Config) (stop : Bool) :
    Except StoreFailure BatchSummary → Turn Publishing Unit
  | .ok summary =>
    if 0 < summary.storeFailures then .wait (.pausing c.errorBackoff)
    else if summary.fetched = 0 then .wait (.pausing c.idleBackoff)
    else .after (.batchDone summary) (goOn stop)
  | .error failure => .after (.batchFailed failure) (.wait (.pausing c.errorBackoff))

/-- The turn after an answer. `stop` tells whether the loop is to stop, and `carried` are the
carried outcomes before the turn; those after it are given along with it. -/
def resume (c : Config) (stop : Bool) (carried : List Outcome) :
    (s : Publishing) → (s.request c).Answer → List Outcome × Turn Publishing Unit
  | .starting, _ => (carried, .after (.publisherStarted c.exchange c.batchSize) (goOn stop))
  | .batching batch, answer =>
    let (carried, turn) := batch.resume c stop carried answer
    (carried, turn.andThen .batching (afterBatch c stop))
  | .pausing _, answer =>
    let stopNow : Bool := answer
    (carried, if stopNow then .wait .abandoning else goOn stop)
  | .abandoning, _ =>
    if carried.isEmpty then ([], stopped)
    else
      ([], .after (.outcomesAbandoned carried.length) (.wait (.releasing (carried.map Outcome.id))))
  | .releasing ids, answer =>
    match (answer : Except StoreFailure Unit) with
    | .ok () => (carried, stopped)
    | .error failure => (carried, .after (.releaseFailed ids.length failure) stopped)

end Publishing

end Outbox
