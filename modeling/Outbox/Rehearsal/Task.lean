import Outbox.Rehearsal.Action
/-!
# `Outbox.Rehearsal.Task` — the tasks of a rehearsal

A task carries out one action, or runs a loop of a pipeline. It waits for the answer to its request,
and the wait remembers when it began, until when it lasts and what the script does to the call.
-/

namespace Outbox.Rehearsal

/-- What only one task at a time can have to itself. -/
inductive Room
  /-- The carried outcomes of a publisher. -/
  | carried (publisher : Nat)
  /-- The roster of the pipeline. -/
  | roster
  deriving DecidableEq, Repr, Inhabited

/-- A stop signal, and the last setting of it that was seen. -/
structure Watch where
  signal : SignalId
  seen : Nat
  deriving DecidableEq, Repr, Inhabited

/-- What a task is doing. -/
inductive Activity
  /-- Has not begun yet. -/
  | acting (action : Action)
  | popping (s : Popping)
  /-- Takes messages and delivers receipts; `served` counts them. -/
  | serving (exchange queue : String) (served : Nat) (s : Popping)
  /-- Waits for the next receipt of a subscription, which goes by a name. -/
  | awaiting (name : Name) (stream : StreamId)
  | sleeping
  /-- Waits for the end of another task. -/
  | joining (name : Name) (task : TaskId)
  | recording (s : Recording)
  | handling (s : Handling)
  | batching (publisher : Nat) (s : Batching)
  | publishing (publisher : Nat) (s : Publishing)
  | consuming (s : Consuming)
  /-- Waits until it can put a new pipeline in place of the one before. -/
  | building (omitted : List Part)
  | starting (s : Starting)
  /-- A stop, or the stop of both loops in order to shut the pipeline down. -/
  | stopping (s : Stopping) (shutDown : Bool)
  deriving Inhabited

namespace Activity

/-- What the task waits for, if it is the answer to a request. -/
def request? (c : Config) : Activity → Option Request
  | .popping s => some s.request
  | .serving _ _ _ s => some s.request
  | .recording s => some (s.request c)
  | .handling s => some (s.request c)
  | .batching _ s => some (s.request c)
  | .publishing _ s => some (s.request c)
  | .consuming s => some (s.request c)
  | .building _ => some .enter
  | .starting s => some (s.request c)
  | .stopping s _ => some s.request
  | .acting _ | .awaiting .. | .sleeping | .joining .. => none

/-- What the task shares with others. -/
def room? : Activity → Option Room
  | .batching publisher _ => some (.carried publisher)
  | .publishing publisher _ => some (.carried publisher)
  | .building _ | .starting _ | .stopping .. => some .roster
  | _ => none

/-- Whether the task has what it shares with others to itself. -/
def isInside : Activity → Bool
  | .batching _ s => s.isInside
  | .publishing _ s => s.isInside
  | .starting s => s.isInside
  | .stopping s _ => s.isInside
  | _ => false

end Activity

/-- A wait. -/
structure Wait where
  /-- The number of the wait; earlier waits have smaller numbers. -/
  arrival : Nat
  /-- Until when it lasts, if time ends it. -/
  due : Option Nat
  /-- What the script does to the call that is waited for. -/
  interference : Interference
  deriving Inhabited

/-- How far a task is. -/
inductive TaskState
  | running (activity : Activity) (wait : Wait)
  | ended (reply : Reply) (moment : Nat)
  deriving Inhabited

/-- The subscription that a consumer's loop holds. -/
def TaskState.stream? : TaskState → Option StreamId
  | .running (.consuming s) _ => some s.stream
  | _ => none

/-- A task. -/
structure Task where
  config : Config
  watch : Option Watch
  state : TaskState
  deriving Inhabited

namespace Task

/-- How the task ended, if it has ended. -/
def ending? (t : Task) : Option Ending :=
  match t.state with
  | .running .. => none
  | .ended .crashed _ => some .crashed
  | .ended _ _ => some .done

/-- When time next changes something for the task. -/
def due? (t : Task) : Option Nat :=
  match t.state with
  | .running _ wait => wait.due
  | .ended .. => none

end Task

end Outbox.Rehearsal
