import Outbox.Process.Recording
/-!
# `Outbox.Process.Batching` — publishing one batch

A batch begins with the outcomes carried over from earlier batches: while one of them cannot be
recorded, nothing is fetched. Then pending messages are claimed and handed to the broker one by one,
and each outcome is recorded before the next message. The batch ends early when an outcome cannot be
recorded, which is then carried over, or when the loop is to stop, which is looked at before every
message but the first; the claims on the messages not yet published are given back.

The carried outcomes belong to the publisher and outlive the batch. While they are being recorded
the batch has them to itself.
-/

namespace Outbox

/-- Where the publication of a batch is. -/
inductive Batching
  /-- Waits until it has the carried outcomes to itself. -/
  | opening
  /-- Records the first of the carried outcomes. -/
  | recovering (summary : BatchSummary) (outcome : Outcome) (record : Recording)
  /-- Ends the claim on a message whose carried outcome turned out not to be a step. -/
  | freeing (summary : BatchSummary) (outcome : Outcome) (result : RecordResult)
  | fetching (summary : BatchSummary)
  | publishing (summary : BatchSummary) (m : Message) (rest : List Message)
  | recording (summary : BatchSummary) (outcome : Outcome) (rest : List Message)
      (record : Recording)
  /-- Waits until it can add to the carried outcomes. -/
  | keeping (summary : BatchSummary) (outcome : Outcome) (rest : List Message)
  /-- Ends the claims on messages that will not be published in this batch. -/
  | releasing (summary : BatchSummary) (rest : List Message)
  deriving DecidableEq, Inhabited

namespace Batching

/-- What the batch waits for. -/
def request (c : Config) : Batching → Request
  | .opening => .enter
  | .recovering _ _ record => record.request c
  | .freeing _ outcome _ => .release [outcome.id]
  | .fetching _ => .fetch c.batchSize
  | .publishing _ m _ => .publish c.exchange m
  | .recording _ _ _ record => record.request c
  | .keeping _ _ _ => .enter
  | .releasing _ rest => .release (rest.map Message.id)

/-- Whether the batch has the carried outcomes to itself. -/
def isInside : Batching → Bool
  | .recovering .. | .freeing .. => true
  | .opening | .fetching _ | .publishing .. | .recording .. | .keeping .. | .releasing .. => false

/-- A turn of a batch. -/
abbrev BatchTurn := Turn Batching (Except StoreFailure BatchSummary)

/-- Counts what came of recording an outcome, and tells it if the outcome was dropped. -/
def settle (outcome : Outcome) (result : RecordResult) (summary : BatchSummary) :
    BatchSummary × List Notice :=
  match result with
  | .recorded _ => (summary.countPublished outcome.target, [])
  | .notFound =>
    (summary.countDropped,
      [.claimedMessageGone outcome.id outcome.target])
  | .conflict current =>
    (summary.countDropped,
      [.outcomeConflict outcome.id current outcome.target])

/-- Goes on with the carried outcomes, or with new messages if there are none. -/
def recoverNext (summary : BatchSummary) : List Outcome → BatchTurn
  | [] => .wait (.fetching summary)
  | outcome :: _ => .wait (.recovering summary outcome (.begin outcome))

/-- Gives the rest of the batch back and ends. -/
def giveBack (summary : BatchSummary) : List Message → BatchTurn
  | [] => .finish (.ok summary)
  | m :: rest => .wait (.releasing summary (m :: rest))

/-- Goes on with the rest of the batch, unless the loop is to stop. -/
def publishNext (stop : Bool) (summary : BatchSummary) : List Message → BatchTurn
  | [] => .finish (.ok summary)
  | m :: rest =>
    if stop then .wait (.releasing summary (m :: rest)) else .wait (.publishing summary m rest)

/-- The outcome of handing a message to the broker. -/
def outcomeOf (m : Message) : Except BrokerFailure Unit → Outcome
  | .ok () => ⟨m.id, .enqueued, none⟩
  | .error failure => ⟨m.id, .notEnqueued, some failure.message⟩

/-- A carried outcome has been recorded, and the claim on its message has ended: it is carried no
longer, and the batch goes on with those after it. -/
def recovered (summary : BatchSummary) (outcome : Outcome) (result : RecordResult)
    (carried : List Outcome) : List Outcome × BatchTurn :=
  let (summary, notices) := settle outcome result summary
  let turn := recoverNext summary.countRecovered carried
  (carried, ⟨notices ++ turn.notices, turn.progress⟩)

/-- The turn after an answer. `stop` tells whether the loop is to stop, and `carried` are the
carried outcomes before the turn; those after it are given along with it. -/
def resume (c : Config) (stop : Bool) (carried : List Outcome) :
    (s : Batching) → (s.request c).Answer → List Outcome × BatchTurn
  | .opening, _ => (carried, recoverNext .blank carried)
  | .recovering summary outcome record, answer =>
    let turn := record.resume c answer
    match turn.progress with
    | .waiting record => (carried, ⟨turn.notices, .waiting (.recovering summary outcome record)⟩)
    | .finished (.error failure) => (carried, ⟨turn.notices, .finished (.error failure)⟩)
    | .finished (.ok (.recorded change)) =>
      let (carried, next) := recovered summary outcome (.recorded change) carried.tail
      (carried, ⟨turn.notices ++ next.notices, next.progress⟩)
    | .finished (.ok result) =>
      (carried.tail, ⟨turn.notices, .waiting (.freeing summary outcome result)⟩)
  | .freeing summary outcome result, answer =>
    match (answer : Except StoreFailure Unit) with
    | .ok () => recovered summary outcome result carried
    | .error failure =>
      let (carried, next) := recovered summary outcome result carried
      (carried, .after (.releaseFailed 1 failure) next)
  | .fetching summary, answer =>
    match (answer : Except StoreFailure (List Message)) with
    | .ok batch => (carried, publishNext false { summary with fetched := batch.length } batch)
    | .error failure => (carried, .finish (.error failure))
  | .publishing summary m rest, answer =>
    let answer : Except BrokerFailure Unit := answer
    let outcome := outcomeOf m answer
    let next : BatchTurn := .wait (.recording summary outcome rest (.begin outcome))
    match answer with
    | .ok () => (carried, next)
    | .error failure => (carried, .after (.publishFailed m.id failure) next)
  | .recording summary outcome rest record, answer =>
    (carried, (record.resume c answer).andThen (.recording summary outcome rest) fun
      | .ok result =>
        let (summary, notices) := settle outcome result summary
        let next := publishNext stop summary rest
        ⟨notices ++ next.notices, next.progress⟩
      | .error failure =>
        .after (.outcomeUnrecorded outcome.id outcome.target failure)
          (.wait (.keeping summary.countStoreFailure outcome rest)))
  | .keeping summary outcome rest, _ => (carried ++ [outcome], giveBack summary rest)
  | .releasing summary rest, answer =>
    let next : BatchTurn := .finish (.ok (summary.countReleased rest.length))
    match (answer : Except StoreFailure Unit) with
    | .ok () => (carried, next)
    | .error failure => (carried, .after (.releaseFailed rest.length failure) next)

end Batching

end Outbox
