import Outbox.Config
import Outbox.Process.Basic
/-!
# `Outbox.Process.Recording` — recording the steps of messages

A step is recorded by two writes: the status in the store, then an entry in the history. Each write
is tried again after a failure of the infrastructure, up to a number of times of its own and with a
wait before each. That a message is unknown, or in a status from which the step is not legal, is no
failure of recording but an outcome of it.
-/

namespace Outbox

/-- What became of a message, to be recorded as a step. -/
structure Outcome where
  id : MessageId
  target : Status
  detail : Option String
  deriving DecidableEq, Repr, Inhabited

/-- The outcome that a receipt reports. -/
def Receipt.outcome (r : Receipt) : Outcome :=
  ⟨r.messageId, r.target, r.detail⟩

/-- What came of recording. -/
inductive RecordResult
  | recorded (change : Transition)
  | notFound
  | conflict (current : Status)
  deriving DecidableEq, Repr, Inhabited

/-- Where the recording of an outcome is. `tries` is the number of times that the present write has
been tried again. -/
inductive Recording
  | updating (outcome : Outcome) (tries : Nat)
  | updatePause (outcome : Outcome) (tries : Nat)
  | appending (change : Transition) (entry : HistoryEntry) (tries : Nat)
  | appendPause (change : Transition) (entry : HistoryEntry) (tries : Nat)
  deriving DecidableEq, Inhabited

namespace Recording

/-- Begins to record an outcome. -/
def begin (outcome : Outcome) : Recording :=
  .updating outcome 0

/-- What the recording waits for. -/
def request (c : Config) : Recording → Request
  | .updating outcome _ => .update outcome.id outcome.target
  | .updatePause _ _ => .sleep c.errorBackoff
  | .appending _ entry _ => .append entry
  | .appendPause _ _ _ => .sleep c.errorBackoff

/-- Whether a write that failed is tried again. -/
def triesAgain (c : Config) (failure : StoreFailure) (tries : Nat) : Bool :=
  failure.kind = .infrastructure ∧ tries < c.storeRetries

/-- What comes of recording when the status could not be written. -/
def refused : StoreFailure → Except StoreFailure RecordResult
  | .notFound _ => .ok .notFound
  | .conflict _ current _ => .ok (.conflict current)
  | .unavailable reason => .error (.unavailable reason)

/-- The turn after an answer. -/
def resume (c : Config) : (s : Recording) → (s.request c).Answer →
    Turn Recording (Except StoreFailure RecordResult)
  | .updating outcome tries, answer =>
    match (answer : Except StoreFailure (Transition × Stamp)) with
    | .ok (change, stamp) =>
      .wait (.appending change
        (.make stamp.entryId outcome.id change.new outcome.detail stamp.time) 0)
    | .error failure =>
      if triesAgain c failure tries then
        .after (.writeRetried .status (tries + 1) c.storeRetries failure)
          (.wait (.updatePause outcome (tries + 1)))
      else .finish (refused failure)
  | .updatePause outcome tries, _ => .wait (.updating outcome tries)
  | .appending change entry tries, answer =>
    match (answer : Except StoreFailure Unit) with
    | .ok () => .after (.statusChanged change entry.detail) (.finish (.ok (.recorded change)))
    | .error failure =>
      if triesAgain c failure tries then
        .after (.writeRetried .entry (tries + 1) c.storeRetries failure)
          (.wait (.appendPause change entry (tries + 1)))
      else .after (.entryLost change failure) (.finish (.error failure))
  | .appendPause change entry tries, _ => .wait (.appending change entry tries)

end Recording

end Outbox
