import Outbox.Broker.Basic
import Outbox.History
import Outbox.Message
import Outbox.Notice
/-!
# `Outbox.Process.Basic` — how a process talks with its surroundings

A process is a state that waits for the answer to one request. Given the answer it takes a *turn*:
it tells what is worth telling, and then waits for the answer to its next request or has come to its
end. Between a request and its answer other processes may take turns; a turn itself is not
interrupted.

What an answer can be depends on the request, so a process never meets an answer that does not fit.
-/

namespace Outbox

/-- What the history entry for a step will carry; it is given out when the step is made. -/
structure Stamp where
  entryId : EntryId
  time : Instant
  deriving DecidableEq, Inhabited

/-- How a task ended. -/
inductive Ending
  | done
  | crashed
  deriving DecidableEq, Repr, Inhabited

/-- What comes of waiting for a receipt, or for a change of the stop signal before that. -/
inductive Heard
  | receipt (r : Receipt)
  | lost (failure : BrokerFailure)
  | ended
  /-- The signal changed, or it was given up and can change no more. -/
  | signal (givenUp : Bool)
  deriving DecidableEq, Repr, Inhabited

/-- The number of a task. -/
abbrev TaskId := Nat

/-- The number of a stop signal. -/
abbrev SignalId := Nat

/-- A loop that was set going: its task and the signal that stops it. -/
structure Launched where
  task : TaskId
  signal : SignalId
  deriving DecidableEq, Repr, Inhabited

/-- What a process asks of its surroundings. -/
inductive Request
  /-- To go on. -/
  | proceed
  /-- To have what it shares with others to itself. -/
  | enter
  /-- To claim pending messages. -/
  | fetch (limit : Nat)
  /-- To move a message to a status. -/
  | update (id : MessageId) (status : Status)
  /-- To end the claims on messages. -/
  | release (ids : List MessageId)
  /-- To add an entry to the history. -/
  | append (entry : HistoryEntry)
  /-- To hand a message to the broker. -/
  | publish (exchange : String) (m : Message)
  /-- To know whether the broker can be reached. -/
  | ready
  /-- To subscribe to a queue of receipts. -/
  | subscribe (queue : String)
  /-- To wait. -/
  | sleep (milliseconds : Nat)
  /-- To wait, but not beyond the next change of the stop signal. -/
  | pause (milliseconds : Nat)
  /-- To wait for a receipt, but not beyond the next change of the stop signal. -/
  | receive (stream : StreamId)
  /-- To take the oldest message from an exchange. -/
  | take (exchange : String)
  /-- To wait for the doorbell until a moment. -/
  | listen (deadline : Nat)
  /-- To set loops going: a publisher, and a consumer that reads from a subscription. -/
  | launch (publisher : Bool) (consumer : Option StreamId)
  /-- To tell loops to stop. -/
  | halt (loops : List Launched)
  /-- To wait for the end of a loop. -/
  | join (loop : Launched)
  deriving Inhabited

/-- What the answer to a request can be. -/
def Request.Answer : Request → Type
  | .proceed => Unit
  | .enter => Unit
  | .fetch _ => Except StoreFailure (List Message)
  | .update _ _ => Except StoreFailure (Transition × Stamp)
  | .release _ => Except StoreFailure Unit
  | .append _ => Except StoreFailure Unit
  | .publish _ _ => Except BrokerFailure Unit
  | .ready => Except BrokerFailure Unit
  | .subscribe _ => Except BrokerFailure StreamId
  | .sleep _ => Unit
  /- Whether to stop. -/
  | .pause _ => Bool
  | .receive _ => Heard
  | .take _ => Option Publication
  /- Whether the doorbell rang. -/
  | .listen _ => Bool
  | .launch _ _ => Option Launched × Option Launched
  | .halt _ => Unit
  | .join _ => Ending

/-- Where a process is after a turn: it waits in a state, or it has come to its end. -/
inductive Progress (σ α : Type)
  | waiting (state : σ)
  | finished (outcome : α)
  deriving Inhabited

/-- A turn of a process. -/
structure Turn (σ α : Type) where
  notices : List Notice
  progress : Progress σ α
  deriving Inhabited

namespace Turn

variable {σ τ α β : Type}

/-- Goes on to wait in a state. -/
def wait (state : σ) : Turn σ α :=
  ⟨[], .waiting state⟩

/-- Comes to an end. -/
def finish (outcome : α) : Turn σ α :=
  ⟨[], .finished outcome⟩

/-- Tells something first. -/
def after (notice : Notice) (t : Turn σ α) : Turn σ α :=
  ⟨notice :: t.notices, t.progress⟩

/-- A turn of a part of a larger process: while the part waits the larger process does too, and when
the part comes to its end the larger process goes on with its outcome. -/
def andThen (t : Turn σ α) (wrap : σ → τ) (next : α → Turn τ β) : Turn τ β :=
  match t.progress with
  | .waiting state => ⟨t.notices, .waiting (wrap state)⟩
  | .finished outcome => ⟨t.notices ++ (next outcome).notices, (next outcome).progress⟩

@[simp]
theorem progress_wait (state : σ) : (wait state : Turn σ α).progress = .waiting state := rfl

@[simp]
theorem progress_finish (outcome : α) : (finish outcome : Turn σ α).progress = .finished outcome :=
  rfl

@[simp]
theorem progress_after (notice : Notice) (t : Turn σ α) :
    (t.after notice).progress = t.progress := rfl

/-- The larger process waits where its part does. -/
theorem andThen_of_waiting {t : Turn σ α} {state : σ} (h : t.progress = .waiting state)
    (wrap : σ → τ) (next : α → Turn τ β) :
    t.andThen wrap next = ⟨t.notices, .waiting (wrap state)⟩ := by
  simp [andThen, h]

/-- The larger process goes on where its part has come to its end. -/
theorem andThen_of_finished {t : Turn σ α} {outcome : α} (h : t.progress = .finished outcome)
    (wrap : σ → τ) (next : α → Turn τ β) :
    t.andThen wrap next = ⟨t.notices ++ (next outcome).notices, (next outcome).progress⟩ := by
  simp [andThen, h]

end Turn

end Outbox
