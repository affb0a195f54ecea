import Outbox.Config
import Outbox.Process.Roster
/-!
# `Outbox.Process.Starting` — setting the loops of a pipeline going

A start sets going the loops that are not running, after it has made sure of the broker: for a
publisher that it can be reached, for a consumer by subscribing to the receipts. Either all missing
loops are set going or none. While it is at it, the start has the roster to itself.
-/

namespace Outbox

/-- Where a start is. -/
inductive Starting
  | opening
  /-- Makes sure that the publisher will reach the broker. -/
  | probing
  /-- Gets a subscription for the consumer. -/
  | subscribing
  | launching (publisher : Bool) (consumer : Option StreamId)
  deriving DecidableEq, Repr, Inhabited

namespace Starting

/-- What the start waits for. -/
def request (c : Config) : Starting → Request
  | .opening => .enter
  | .probing => .ready
  | .subscribing => .subscribe c.receiptQueue
  | .launching publisher consumer => .launch publisher consumer

/-- Whether the start has the roster to itself. -/
def isInside : Starting → Bool
  | .opening => false
  | .probing | .subscribing | .launching .. => true

/-- A turn of a start. -/
abbrev StartTurn := Turn Starting (Except StartFailure Unit)

/-- Strikes off the loops that have ended and sees which are missing. -/
def survey (ended : TaskId → Option Ending) (roster : Roster) : Roster × StartTurn :=
  let (roster, notices) := roster.reapAll ended
  let progress := match roster.publisher, roster.consumer with
    | some _, some _ => .finished (.error .alreadyRunning)
    | some _, none => .waiting .subscribing
    | none, _ => .waiting .probing
  (roster, ⟨notices, progress⟩)

/-- The turn after an answer. `ended` tells how each task ended that has ended, and `roster` is the
roster before the turn; the one after it is given along with it. -/
def resume (c : Config) (ended : TaskId → Option Ending) (roster : Roster) :
    (s : Starting) → (s.request c).Answer → Roster × StartTurn
  | .opening, _ => survey ended roster
  | .probing, answer =>
    match (answer : Except BrokerFailure Unit) with
    | .error failure => (roster, .finish (.error (.publisher failure)))
    | .ok () =>
      match roster.consumer with
      | none => (roster, .wait .subscribing)
      | some _ => (roster, .wait (.launching true none))
  | .subscribing, answer =>
    match (answer : Except BrokerFailure StreamId) with
    | .error failure => (roster, .finish (.error (.consumer failure)))
    | .ok stream => (roster, .wait (.launching roster.publisher.isNone (some stream)))
  | .launching publisher consumer, answer =>
    let loops : Option Launched × Option Launched := answer
    (⟨loops.1.or roster.publisher, loops.2.or roster.consumer⟩,
      .after (.pipelineStarted c.receiptQueue publisher consumer.isSome) (.finish (.ok ())))

end Starting

end Outbox
