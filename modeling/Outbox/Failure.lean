import Outbox.Identifier
import Outbox.Status
/-!
# `Outbox.Failure` — what can go wrong

Failures of the store and of the broker, by cause, with the one wording that each has. Their kind
decides what becomes of the work: a transient failure is noted and passed over, a permanent one
cannot be helped by trying again, and after a failure of the infrastructure the work is tried again.
-/

namespace Outbox

/-- How a failure is dealt with. -/
inductive FailureKind
  | transient
  | permanent
  | infrastructure
  deriving DecidableEq, Repr

/-- The name of a kind of failure. -/
def FailureKind.name : FailureKind → String
  | .transient => "Transient"
  | .permanent => "Permanent"
  | .infrastructure => "Infrastructure"

/-- Why the store or the history did not do what was asked. -/
inductive StoreFailure
  | notFound (id : MessageId)
  | conflict (id : MessageId) (current requested : Status)
  | unavailable (reason : String)
  deriving DecidableEq, Repr, Inhabited

namespace StoreFailure

/-- The wording of a failure. -/
def message : StoreFailure → String
  | .notFound id => "message not found: " ++ id.display
  | .conflict id current requested =>
    "illegal status transition for " ++ id.display ++ ": " ++ current.name ++ " -> " ++
      requested.name
  | .unavailable reason => "store unavailable: " ++ reason

/-- How the failure is dealt with. -/
def kind : StoreFailure → FailureKind
  | .notFound _ => .transient
  | .conflict .. => .permanent
  | .unavailable _ => .infrastructure

/-- The name of the cause. -/
def cause : StoreFailure → String
  | .notFound _ => "NotFound"
  | .conflict .. => "Conflict"
  | .unavailable _ => "Unavailable"

instance : ToString StoreFailure := ⟨message⟩

end StoreFailure

/-- Why the broker did not do what was asked. -/
inductive BrokerFailure
  | unavailable (reason : String)
  | rejected (reason : String)
  | connectionLost (reason : String)
  | encode (reason : String)
  deriving DecidableEq, Repr, Inhabited

namespace BrokerFailure

/-- The wording of a failure. -/
def message : BrokerFailure → String
  | .unavailable reason => "broker unreachable: " ++ reason
  | .rejected reason => "publish rejected: " ++ reason
  | .connectionLost reason => "connection lost: " ++ reason
  | .encode reason => "encode failed: " ++ reason

/-- How the failure is dealt with. -/
def kind : BrokerFailure → FailureKind
  | .rejected _ | .encode _ => .permanent
  | .unavailable _ | .connectionLost _ => .infrastructure

/-- The name of the cause. -/
def cause : BrokerFailure → String
  | .unavailable _ => "Unavailable"
  | .rejected _ => "Rejected"
  | .connectionLost _ => "ConnectionLost"
  | .encode _ => "Encode"

instance : ToString BrokerFailure := ⟨message⟩

end BrokerFailure

/-- Why a pipeline did not start. -/
inductive StartFailure
  | publisher (failure : BrokerFailure)
  | consumer (failure : BrokerFailure)
  | alreadyRunning
  deriving DecidableEq, Repr, Inhabited

namespace StartFailure

/-- The wording of a failure. -/
def message : StartFailure → String
  | .publisher failure => "publisher could not start: " ++ failure.message
  | .consumer failure => "consumer could not start: " ++ failure.message
  | .alreadyRunning => "pipeline is already running"

/-- The failure of the broker that was the reason, if there was one. -/
def reason : StartFailure → Option BrokerFailure
  | .publisher failure => some failure
  | .consumer failure => some failure
  | .alreadyRunning => none

/-- The name of the cause. -/
def cause : StartFailure → String
  | .publisher _ => "PublisherStart"
  | .consumer _ => "ConsumerStart"
  | .alreadyRunning => "AlreadyRunning"

end StartFailure

end Outbox
