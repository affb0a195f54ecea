import Outbox.Broker.Doorbell
import Outbox.History
import Outbox.Rehearsal.Task
import Outbox.Signal
import Outbox.Store
/-!
# `Outbox.Rehearsal.World` — everything there is in a rehearsal

The store, the history and the broker, the clock and the supplies of identifiers, the pipeline, and
the tasks with all that they share. Time is a number of milliseconds since the beginning; the clock
may be set, time may not.
-/

namespace Outbox.Rehearsal

/-- A pipeline that was put together. -/
structure Pipeline where
  config : Config
  /-- The number of its publisher. -/
  publisher : Nat
  roster : Roster
  deriving Inhabited

/-- The state of a rehearsal. -/
structure World where
  config : Config
  /-- Milliseconds since the beginning. -/
  now : Nat
  /-- What the clock would have read at the beginning, in milliseconds. -/
  clockStart : Int
  /-- Identifiers that the next messages get. -/
  givenIds : List MessageId
  /-- The number of the next message after those. -/
  nextMessage : Nat
  /-- The number of the next entry of the history. -/
  nextEntry : Nat
  store : Store
  history : History
  broker : Broker
  doorbell : Doorbell
  /-- Every message as it was inserted. -/
  inserted : Table MessageId Message
  scripts : Table Target (List Interference)
  signals : Table SignalId Signal
  signalNames : Table Name SignalId
  streamNames : Table Name StreamId
  /-- The carried outcomes of each publisher. -/
  carried : Table Nat (List Outcome)
  publisherNames : Table Name Nat
  taskNames : Table Name TaskId
  pipeline : Option Pipeline
  tasks : Table TaskId Task
  /-- The tasks that were woken and have not gone on yet, the one woken first first. -/
  woken : List TaskId
  /-- A number that nothing has yet: no task, signal, publisher or wait. -/
  fresh : Nat
  /-- What was told, the latest first. -/
  told : List Notice
  deriving Inhabited

namespace World

/-- The world in which a rehearsal begins. -/
def initial (config : Config) (clockStart : Int) (givenIds : List MessageId) : World where
  config
  now := 0
  clockStart
  givenIds
  nextMessage := 1
  nextEntry := 1
  store := .empty
  history := .empty
  broker := .idle
  doorbell := .silent
  inserted := .empty
  scripts := .empty
  signals := .empty
  signalNames := .empty
  streamNames := .empty
  carried := .empty
  publisherNames := .empty
  taskNames := .empty
  pipeline := none
  tasks := .empty
  woken := []
  fresh := 0
  told := []

/-! ## Time, identifiers and notices -/

/-- What the clock reads. -/
def clock (w : World) : Instant :=
  (Instant.ofMilliseconds? (w.clockStart + w.now)).getD .epoch

/-- Sets the clock, in milliseconds. -/
def setClock (w : World) (milliseconds : Int) : World :=
  { w with clockStart := milliseconds - w.now }

/-- Takes a number that nothing has yet. -/
def takeFresh (w : World) : Nat × World :=
  (w.fresh, { w with fresh := w.fresh + 1 })

/-- Takes the identifier for a new message. -/
def takeMessageId (w : World) : MessageId × World :=
  match w.givenIds with
  | id :: rest => (id, { w with givenIds := rest })
  | [] => (.ofNat w.nextMessage, { w with nextMessage := w.nextMessage + 1 })

/-- Takes the stamp for a step that is made now. -/
def takeStamp (w : World) : Stamp × World :=
  (⟨.ofNat w.nextEntry, w.clock⟩, { w with nextEntry := w.nextEntry + 1 })

/-- Tells something. -/
def tell (w : World) (notices : List Notice) : World :=
  { w with told := notices.reverse ++ w.told }

/-- Inserts a new message. -/
def insert (w : World) (draft : Draft) : MessageId × World :=
  let (id, w) := w.takeMessageId
  let m := Message.ofDraft id draft w.clock
  (id, { w with store := w.store.insert m, inserted := w.inserted.put id m })

/-! ## Names -/

/-- The publisher with a name; it comes into being when it is first named. -/
def publisherOf (w : World) (name : Name) : Nat × World :=
  match w.publisherNames.get? name with
  | some publisher => (publisher, w)
  | none =>
    let (publisher, w) := w.takeFresh
    (publisher, { w with publisherNames := w.publisherNames.put name publisher })

/-- A new signal that does not tell to stop. -/
def addSignal (w : World) : SignalId × World :=
  let (signal, w) := w.takeFresh
  (signal, { w with signals := w.signals.put signal .fresh })

/-- The signal with a name; it comes into being when it is first named. -/
def signalOf (w : World) (name : Name) : SignalId × World :=
  match w.signalNames.get? name with
  | some signal => (signal, w)
  | none =>
    let (signal, w) := w.addSignal
    (signal, { w with signalNames := w.signalNames.put name signal })

/-- The state of a signal. -/
def signal (w : World) (signal : SignalId) : Signal :=
  w.signals.getD signal .fresh

/-- Changes a signal. -/
def changeSignal (w : World) (signal : SignalId) (change : Signal → Signal) : World :=
  { w with signals := w.signals.put signal (change (w.signal signal)) }

/-- Begins to watch the signal with a name; what it says now counts as seen. -/
def watch (w : World) (name : Name) : Watch × World :=
  let (signal, w) := w.signalOf name
  (⟨signal, (w.signal signal).version⟩, w)

/-- Gives a stream a name; the stream that had the name is given up. -/
def nameStream (w : World) (name : Name) (stream : StreamId) : World :=
  let broker := match w.streamNames.get? name with
    | some old => w.broker.drop old
    | none => w.broker
  { w with broker, streamNames := w.streamNames.put name stream }

/-! ## Tasks -/

/-- How a task ended, if it has ended. -/
def ended (w : World) (task : TaskId) : Option Ending :=
  w.tasks.get? task >>= Task.ending?

/-- The activities that go on, with their waits. -/
def activities (w : World) : List (TaskId × Activity × Wait) :=
  w.tasks.entries.filterMap fun (id, t) =>
    match t.state with
    | .running activity wait => some (id, activity, wait)
    | .ended .. => none

/-- Wakes a task. -/
def wake (w : World) (id : TaskId) : World :=
  if w.woken.contains id then w else { w with woken := w.woken ++ [id] }

/-- Adds a task that is about to begin. -/
def addTask (w : World) (config : Config) (watch : Option Watch) (activity : Activity) :
    TaskId × World :=
  let (id, w) := w.takeFresh
  let task : Task := ⟨config, watch, .running activity ⟨id, none, .none⟩⟩
  (id, { w with tasks := w.tasks.put id task })

/-- Whether nobody has the roster to itself. -/
def rosterIsFree (w : World) : Bool :=
  w.activities.all fun (_, activity, _) =>
    !(activity.room? == some .roster && activity.isInside)

/-- What is seen of the world from outside. -/
def snapshot (w : World) : Snapshot :=
  let running (loop : Roster → Option Launched) : Option Bool :=
    match w.pipeline with
    | none => some false
    | some pipeline =>
      if w.rosterIsFree then some (Roster.isRunning w.ended (loop pipeline.roster))
      else none
  { now := w.now
    writes := w.store.writes
    claimed := w.store.claimed.length
    published := w.broker.published
    entries := w.history.size
    subscribers := (w.broker.listeners w.config.receiptQueue).length
    publishing := running Roster.publisher
    consuming := running Roster.consumer }

end World

end Outbox.Rehearsal
