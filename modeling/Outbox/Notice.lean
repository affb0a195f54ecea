import Outbox.Failure
import Outbox.Message
import Outbox.BatchSummary
/-!
# `Outbox.Notice` — what the loops say about their work

Everything worth telling is a notice with a severity, a wording and named values. Its line begins
with the severity, then comes the wording, then each value after its name and an equals sign.
-/

namespace Outbox

/-- How much a notice matters. -/
inductive Severity
  | debug
  | info
  | warning
  | error
  deriving DecidableEq, Repr

/-- What a line says for a severity. -/
def Severity.name : Severity → String
  | .debug => "DEBUG"
  | .info => "INFO"
  | .warning => "WARN"
  | .error => "ERROR"

/-- The two writes that make a recorded step. -/
inductive Write
  | status
  | entry
  deriving DecidableEq, Repr

/-- What a write is called. -/
def Write.name : Write → String
  | .status => "update_status"
  | .entry => "append_history"

/-- The two loops of a pipeline. -/
inductive Role
  | publisher
  | consumer
  deriving DecidableEq, Repr

/-- What a loop is called. -/
def Role.name : Role → String
  | .publisher => "publisher"
  | .consumer => "consumer"

/-- Something worth telling. -/
inductive Notice
  | writeRetried (write : Write) (attempt limit : Nat) (failure : StoreFailure)
  | entryLost (change : Transition) (failure : StoreFailure)
  | statusChanged (change : Transition) (detail : Option String)
  | publisherStarted (exchange : String) (batchSize : Nat)
  | publisherStopped
  | batchDone (summary : BatchSummary)
  | batchFailed (failure : StoreFailure)
  | publishFailed (id : MessageId) (failure : BrokerFailure)
  | outcomeUnrecorded (id : MessageId) (target : Status) (failure : StoreFailure)
  | claimedMessageGone (id : MessageId) (target : Status)
  | outcomeConflict (id : MessageId) (current requested : Status)
  | outcomesAbandoned (count : Nat)
  | releaseFailed (count : Nat) (failure : StoreFailure)
  | consumerStarted (queue : String)
  | consumerStopped
  | streamClosed (queue : String)
  | streamLost (queue : String) (failure : BrokerFailure)
  | resubscribed (queue : String)
  | resubscribeFailed (queue : String) (failure : BrokerFailure)
  | unknownMessage (id : MessageId)
  | duplicateIgnored (id : MessageId) (current requested : Status)
  | receiptEarly (id : MessageId) (recheck : Nat)
  | receiptConflict (id : MessageId) (current requested : Status)
  | receiptUnrecorded (id : MessageId) (target : Status) (failure : StoreFailure)
  | receiptAbandoned (id : MessageId) (success : Bool)
  | loopStopped (role : Role)
  | loopCrashed (role : Role)
  | pipelineStarted (queue : String) (publisher consumer : Bool)
  | pipelineShutDown
  deriving DecidableEq, Repr, Inhabited

namespace Notice

/-- How much a notice matters; a step that went badly is told as a warning. -/
def severity : Notice → Severity
  | .writeRetried .. => .warning
  | .entryLost .. => .error
  | .statusChanged change _ =>
    match change.new.level with
    | .success => .info
    | .failed => .warning
  | .publisherStarted .. => .info
  | .publisherStopped => .info
  | .batchDone _ => .debug
  | .batchFailed _ => .error
  | .publishFailed .. => .warning
  | .outcomeUnrecorded .. => .error
  | .claimedMessageGone .. => .warning
  | .outcomeConflict .. => .warning
  | .outcomesAbandoned _ => .warning
  | .releaseFailed .. => .error
  | .consumerStarted _ => .info
  | .consumerStopped => .info
  | .streamClosed _ => .info
  | .streamLost .. => .warning
  | .resubscribed _ => .info
  | .resubscribeFailed .. => .warning
  | .unknownMessage _ => .info
  | .duplicateIgnored .. => .debug
  | .receiptEarly .. => .debug
  | .receiptConflict .. => .warning
  | .receiptUnrecorded .. => .error
  | .receiptAbandoned .. => .warning
  | .loopStopped _ => .info
  | .loopCrashed _ => .error
  | .pipelineStarted .. => .info
  | .pipelineShutDown => .info

/-- The wording of a notice. -/
def message : Notice → String
  | .writeRetried .. => "store write failed, retrying"
  | .entryLost .. => "status changed but history entry was not written"
  | .statusChanged .. => "message status changed"
  | .publisherStarted .. => "publisher started"
  | .publisherStopped => "publisher stopped"
  | .batchDone _ => "publisher batch done"
  | .batchFailed _ => "publisher batch failed"
  | .publishFailed .. => "publish failed"
  | .outcomeUnrecorded .. => "failed to record publish outcome, will retry"
  | .claimedMessageGone .. => "claimed message disappeared, update dropped"
  | .outcomeConflict .. => "illegal status transition, update dropped"
  | .outcomesAbandoned _ => "stopping with unrecorded publish outcomes, releasing claims"
  | .releaseFailed .. => "failed to release claimed messages"
  | .consumerStarted _ => "consumer started"
  | .consumerStopped => "consumer stopped"
  | .streamClosed _ => "result stream closed by transport"
  | .streamLost .. => "result stream failed, resubscribing"
  | .resubscribed _ => "resubscribed to result queue"
  | .resubscribeFailed .. => "resubscribe failed"
  | .unknownMessage _ => "result for unknown message discarded"
  | .duplicateIgnored .. => "duplicate-ignored"
  | .receiptEarly .. => "result arrived before ENQUEUED, rechecking"
  | .receiptConflict .. => "illegal status transition, result dropped"
  | .receiptUnrecorded .. => "failed to record delivery result"
  | .receiptAbandoned .. => "stopping with an unrecorded delivery result"
  | .loopStopped _ => "loop stopped"
  | .loopCrashed _ => "loop terminated abnormally"
  | .pipelineStarted .. => "pipeline started"
  | .pipelineShutDown => "pipeline shut down"

/-- The named values of a notice, in their order. -/
def fields : Notice → List (String × String)
  | .writeRetried write attempt limit failure =>
    [("op", write.name), ("attempt", toString attempt), ("max_attempts", toString limit),
      ("error", failure.message)]
  | .entryLost change failure =>
    [("message_id", change.id.display), ("from", change.old.name), ("to", change.new.name),
      ("error", failure.message)]
  | .statusChanged change detail =>
    [("message_id", change.id.display), ("from", change.old.name), ("to", change.new.name),
      ("log_level", change.new.level.name)] ++
    match change.new.level with
    | .success => []
    | .failed => [("detail", detail.getD "")]
  | .publisherStarted exchange batchSize =>
    [("exchange", exchange), ("batch_size", toString batchSize)]
  | .publisherStopped => []
  | .batchDone summary =>
    [("fetched", toString summary.fetched), ("enqueued", toString summary.enqueued),
      ("not_enqueued", toString summary.notEnqueued), ("dropped", toString summary.dropped),
      ("released", toString summary.released), ("recovered", toString summary.recovered)]
  | .batchFailed failure => [("error", failure.message)]
  | .publishFailed id failure => [("message_id", id.display), ("error", failure.message)]
  | .outcomeUnrecorded id target failure =>
    [("message_id", id.display), ("to", target.name), ("error", failure.message)]
  | .claimedMessageGone id target => [("message_id", id.display), ("to", target.name)]
  | .outcomeConflict id current requested =>
    [("message_id", id.display), ("current", current.name), ("requested", requested.name)]
  | .outcomesAbandoned count => [("count", toString count)]
  | .releaseFailed count failure => [("count", toString count), ("error", failure.message)]
  | .consumerStarted queue => [("queue", queue)]
  | .consumerStopped => []
  | .streamClosed queue => [("queue", queue)]
  | .streamLost queue failure => [("queue", queue), ("error", failure.message)]
  | .resubscribed queue => [("queue", queue)]
  | .resubscribeFailed queue failure => [("queue", queue), ("error", failure.message)]
  | .unknownMessage id => [("message_id", id.display)]
  | .duplicateIgnored id current requested =>
    [("message_id", id.display), ("current", current.name), ("requested", requested.name)]
  | .receiptEarly id recheck => [("message_id", id.display), ("recheck", toString recheck)]
  | .receiptConflict id current requested =>
    [("message_id", id.display), ("current", current.name), ("requested", requested.name)]
  | .receiptUnrecorded id target failure =>
    [("message_id", id.display), ("to", target.name), ("error", failure.message)]
  | .receiptAbandoned id success =>
    [("message_id", id.display), ("success", if success then "true" else "false")]
  | .loopStopped role => [("pipeline_loop", role.name)]
  | .loopCrashed role => [("pipeline_loop", role.name)]
  | .pipelineStarted queue publisher consumer =>
    [("result_queue", queue), ("publisher", if publisher then "true" else "false"),
      ("consumer", if consumer then "true" else "false")]
  | .pipelineShutDown => []

/-- The line for a notice. -/
def line (n : Notice) : String :=
  n.severity.name ++ " " ++ n.message ++
    String.join (n.fields.map fun (name, value) => " " ++ name ++ "=" ++ value)

end Notice

end Outbox
