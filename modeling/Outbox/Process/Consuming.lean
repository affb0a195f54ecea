import Outbox.Process.Handling
/-!
# `Outbox.Process.Consuming` — taking in the receipts

The loop takes receipts from its subscription one by one. A receipt that could not be recorded is
handled again after a while, before any other. When the subscription is lost the loop subscribes
anew; when it was closed in good order the loop ends. Only the waits are cut short when the loop is
to stop, never the handling of a receipt.
-/

namespace Outbox

/-- Where the consumer's loop is. `stream` is the subscription that it holds. -/
inductive Consuming
  | starting (stream : StreamId)
  | listening (stream : StreamId)
  | handling (stream : StreamId) (work : Handling)
  /-- Waits before it handles again a receipt that could not be recorded. -/
  | pausing (stream : StreamId) (r : Receipt)
  /-- Waits before it subscribes anew. -/
  | reconnecting (stream : StreamId)
  | subscribing (stream : StreamId)
  deriving DecidableEq, Inhabited

namespace Consuming

/-- The subscription that the loop holds. -/
def stream : Consuming → StreamId
  | .starting stream => stream
  | .listening stream => stream
  | .handling stream _ => stream
  | .pausing stream _ => stream
  | .reconnecting stream => stream
  | .subscribing stream => stream

/-- What the loop waits for. -/
def request (c : Config) : Consuming → Request
  | .starting _ => .proceed
  | .listening stream => .receive stream
  | .handling _ work => work.request c
  | .pausing _ _ => .pause c.errorBackoff
  | .reconnecting _ => .pause c.errorBackoff
  | .subscribing _ => .subscribe c.receiptQueue

/-- Comes to the end of the loop. -/
def stopped : Turn Consuming Unit :=
  .after .consumerStopped (.finish ())

/-- Waits for the next receipt, unless the loop is to stop. -/
def goOn (stop : Bool) (stream : StreamId) : Turn Consuming Unit :=
  if stop then stopped else .wait (.listening stream)

/-- Goes on with what was heard. -/
def hear (c : Config) (stop : Bool) (stream : StreamId) : Heard → Turn Consuming Unit
  | .receipt r => .wait (.handling stream (.begin r))
  | .lost failure => .after (.streamLost c.receiptQueue failure) (.wait (.reconnecting stream))
  | .ended => .after (.streamClosed c.receiptQueue) stopped
  | .signal true => stopped
  | .signal false => goOn stop stream

/-- The turn after an answer; `stop` tells whether the loop is to stop. -/
def resume (c : Config) (stop : Bool) :
    (s : Consuming) → (s.request c).Answer → Turn Consuming Unit
  | .starting stream, _ => .after (.consumerStarted c.receiptQueue) (goOn stop stream)
  | .listening stream, answer => hear c stop stream answer
  | .handling stream work, answer =>
    (work.resume c answer).andThen (.handling stream) fun
      | .storeFailed => .wait (.pausing stream work.receipt)
      | _ => goOn stop stream
  | .pausing stream r, answer =>
    let stopNow : Bool := answer
    if stopNow then .after (.receiptAbandoned r.messageId r.success) stopped
    else .wait (.handling stream (.begin r))
  | .reconnecting stream, answer =>
    let stopNow : Bool := answer
    if stopNow then stopped else .wait (.subscribing stream)
  | .subscribing stream, answer =>
    match (answer : Except BrokerFailure StreamId) with
    | .ok fresh => .after (.resubscribed c.receiptQueue) (goOn stop fresh)
    | .error failure =>
      .after (.resubscribeFailed c.receiptQueue failure) (.wait (.reconnecting stream))

end Consuming

end Outbox
