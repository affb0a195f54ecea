import Outbox.Assembly
import Outbox.Process.Consuming
import Outbox.Process.Popping
import Outbox.Process.Publishing
import Outbox.Process.Starting
import Outbox.Process.Stopping
/-!
# `Outbox.Rehearsal.Action` — what can be done in a rehearsal, and what is seen of it

A rehearsal runs the parts of a pipeline in virtual time. It is a list of actions, each of which
gets a reply; after each one the rehearsal can be looked at from outside.

The loops reach the store, the history and the broker through a script that can delay their calls,
make them fail and make the caller crash. The actions that name an operation reach it directly.
-/

namespace Outbox.Rehearsal

/-- What actions call streams, signals, publishers and tasks. -/
abbrev Name := String

/-! ## Scripts -/

/-- The calls that a script can interfere with. -/
inductive Target
  | fetch
  | update
  | release
  | append
  | publish
  | consume
  | ready
  deriving DecidableEq, Repr, Inhabited

/-- A failure of the store or the history, but for what the call itself determines. -/
inductive StoreFault
  | unavailable (reason : String)
  | notFound
  | conflict (current : Status)
  deriving DecidableEq, Repr, Inhabited

/-- The failure of a call about a message, in which a status was asked for. -/
def StoreFault.failure (id : MessageId) (requested : Status) : StoreFault → StoreFailure
  | .unavailable reason => .unavailable reason
  | .notFound => .notFound id
  | .conflict current => .conflict id current requested

/-- How a call is made to fail. -/
inductive Fault
  | store (fault : StoreFault)
  | broker (failure : BrokerFailure)
  deriving DecidableEq, Repr, Inhabited

/-- What a script does to one call: a delay, then perhaps a crash, then perhaps a failure. -/
structure Interference where
  delay : Nat
  crash : Bool
  fault : Option Fault
  deriving DecidableEq, Repr, Inhabited

/-- What a script does to a call when it does nothing. -/
def Interference.none : Interference :=
  ⟨0, false, .none⟩

/-! ## Actions -/

/-- The parts from which a pipeline is put together. -/
inductive Part
  | component (component : Component)
  | config
  | clock
  | identifiers
  deriving DecidableEq, Repr, Inhabited

/-- What can be done. Where an exchange or a queue is not named, it is the one of the settings. -/
inductive Action
  | insert (draft : Draft)
  | insertMany (n : Nat)
  | fetch (limit : Nat)
  | update (id : MessageId) (status : Status)
  | release (ids : List MessageId)
  | get (id : MessageId)
  | tally
  | failOperations (n : Nat)
  | failUpdates (n : Nat)
  | append (outcome : Outcome)
  | entriesOf (id : MessageId)
  | allEntries
  | historyIsEmpty
  | setReachable (reachable : Bool)
  | reject (id : MessageId)
  | failPublications (n : Nat)
  | ready
  | publish (id : MessageId) (exchange : Option String)
  | pop (exchange : Option String) (timeout : Nat)
  | deliver (r : Receipt) (queue : Option String)
  /-- Takes up to `n` messages and delivers a receipt for each: a failure for those listed. -/
  | serve (n : Nat) (failing : List MessageId) (detail : String) (exchange queue : Option String)
  /-- Takes messages and delivers a receipt for each without end: a failure for every fifth one. -/
  | serveForever (exchange queue : Option String)
  | close (queue : Option String)
  | cut (reason : String) (queue : Option String)
  | subscribers (queue : Option String)
  | subscribe (name : Name) (queue : Option String)
  | next (name : Name) (timeout : Nat)
  | unsubscribe (name : Name)
  | record (outcome : Outcome)
  | batch (publisher : Name) (signal : Name)
  | runPublisher (publisher : Name) (signal : Name)
  | handle (r : Receipt)
  | runConsumer (stream : Name) (signal : Name)
  | setSignal (name : Name) (value : Bool)
  | dropSignal (name : Name)
  | build (omitted : List Part)
  | start
  | stop (choice : StopChoice)
  | shutDown
  | advance (milliseconds : Nat)
  | setClock (milliseconds : Int)
  | script (target : Target) (interferences : List Interference)
  | spawn (name : Name) (action : Action)
  | join (name : Name)
  | isFinished (name : Name)
  /-- What nobody can do. -/
  | impossible
  deriving Inhabited

/-! ## Replies -/

/-- What comes of an action. -/
inductive Reply
  | done
  /-- The action cannot be taken. -/
  | refused
  | timedOut
  | crashed
  | stopped
  | truth (b : Bool)
  | count (n : Nat)
  | identifier (id : MessageId)
  /-- The first and the last of some identifiers. -/
  | range (first last : Option MessageId)
  | identifiers (ids : List MessageId)
  | message (m : Option Message)
  | messages (ms : List Message)
  | change (change : Transition)
  | tally (tally : Tally)
  | entries (entries : List HistoryEntry)
  /-- A message from an exchange, or that none came. -/
  | publication (p : Option Publication)
  | receipt (r : Receipt)
  | closed
  | recorded (result : RecordResult)
  | summary (summary : BatchSummary)
  | disposition (disposition : Disposition)
  /-- Whether the pipeline publishes and whether it consumes. -/
  | running (publishing consuming : Bool)
  /-- The reply of a task, and when it came. -/
  | joined (reply : Reply) (moment : Nat)
  | storeFailure (failure : StoreFailure)
  | brokerFailure (failure : BrokerFailure)
  | startFailure (failure : StartFailure)
  | assemblyFailure (failure : AssemblyFailure)
  deriving Inhabited

namespace Reply

/-- The reply for an operation of the store. -/
def ofStore {α : Type} (reply : α → Reply) : Except StoreFailure α → Reply
  | .ok a => reply a
  | .error failure => .storeFailure failure

/-- The reply for an operation of the broker. -/
def ofBroker {α : Type} (reply : α → Reply) : Except BrokerFailure α → Reply
  | .ok a => reply a
  | .error failure => .brokerFailure failure

/-- The reply for a start. -/
def ofStart : Except StartFailure Unit → Reply
  | .ok () => .done
  | .error failure => .startFailure failure

end Reply

/-- What is seen of a rehearsal from outside. -/
structure Snapshot where
  now : Nat
  writes : Nat
  claimed : Nat
  published : Nat
  entries : Nat
  subscribers : Nat
  /-- Whether the pipeline publishes; unknown while it is being started or stopped. -/
  publishing : Option Bool
  /-- Whether the pipeline consumes; unknown while it is being started or stopped. -/
  consuming : Option Bool
  deriving DecidableEq, Repr, Inhabited

end Outbox.Rehearsal
