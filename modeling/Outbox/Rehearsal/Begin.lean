import Outbox.Rehearsal.Answer
/-!
# `Outbox.Rehearsal.Begin` — taking actions

Most actions are taken at once and have their reply at once. The others make their task wait, and go
on when it is answered.
-/

namespace Outbox.Rehearsal.World

/-! ## Going on and coming to an end -/

/-- Changes how far a task is. A subscription that a consumer's loop no longer holds is given up. -/
def setState (w : World) (id : TaskId) (state : TaskState) : World :=
  match w.tasks.get? id with
  | none => w
  | some task =>
    { w with
      broker := w.broker.giveUp task.state.stream? state.stream?
      tasks := w.tasks.put id { task with state } }

/-- A task comes to its end. -/
def finish (w : World) (id : TaskId) (reply : Reply) : World :=
  w.setState id (.ended reply w.now)

/-- A task goes on to do something that waits for the answer to a request. -/
def await (w : World) (id : TaskId) (activity : Activity) : World :=
  match w.tasks.get? id >>= fun task => activity.request? task.config with
  | none => w
  | some request =>
    let (wait, w) := w.arrive id request
    w.setState id (.running activity wait)

/-- A task goes on to do something for at most so many milliseconds. -/
def awaitUntil (w : World) (id : TaskId) (activity : Activity) (milliseconds : Nat) : World :=
  let (arrival, w) := w.takeFresh
  w.setState id (.running activity ⟨arrival, some (w.now + milliseconds), .none⟩)

/-- The turn of a process that a task runs. -/
def settle {σ α : Type} (w : World) (id : TaskId) (wrap : σ → Activity) (reply : α → Reply)
    (turn : Turn σ α) : World :=
  let w := w.tell turn.notices
  match turn.progress with
  | .waiting s => w.await id (wrap s)
  | .finished outcome => w.finish id (reply outcome)

/-! ## Operations that are done at once -/

/-- Does an operation of the store. -/
def onStore {α : Type} (w : World) (reply : α → Reply)
    (operation : Store → Except StoreFailure α × Store) : Reply × World :=
  let (answer, store) := operation w.store
  (.ofStore reply answer, { w with store })

/-- Inserts `n` messages whose content is their number, counted from `next`; gives their
identifiers. -/
def insertMany (w : World) (next : Nat) : Nat → List MessageId × World
  | 0 => ([], w)
  | n + 1 =>
    let draft : Draft :=
      ⟨"d/" ++ toString next, .ofJson (.object [("i", .number (.integer next))]), .empty⟩
    let (id, w) := w.insert draft
    let (ids, w) := w.insertMany (next + 1) n
    (id :: ids, w)

/-- Takes up to `n` messages and delivers a receipt for each; gives their identifiers. -/
def serve (w : World) (failing : List MessageId) (detail exchange queue : String) :
    Nat → List MessageId × World
  | 0 => ([], w)
  | n + 1 =>
    match w.broker.take exchange with
    | (none, broker) => ([], { w with broker })
    | (some p, broker) =>
      let r : Receipt :=
        if failing.contains p.messageId then .failed p.messageId detail else .delivered p.messageId
      let w := { w with broker := broker.deliver queue r }
      let (ids, w) := w.serve failing detail exchange queue n
      (p.messageId :: ids, w)

/-- Puts a new pipeline in the place of the one before, whose loops see their signals given up. -/
def build (w : World) (omitted : List Part) : Reply × World :=
  let components := [Component.store, .history, .broker].filter fun component =>
    !omitted.contains (.component component)
  let assembly : Assembly :=
    ⟨components, if omitted.contains .config then none else some w.config⟩
  match assembly.build with
  | .error failure => (.assemblyFailure failure, w)
  | .ok config =>
    let loops := match w.pipeline with
      | none => []
      | some pipeline => pipeline.roster.toList
    let w := loops.foldl (fun w loop => w.changeSignal loop.signal Signal.giveUp) w
    let (publisher, w) := w.takeFresh
    (.running false false, { w with pipeline := some ⟨config, publisher, .empty⟩ })

/-- Does an action that needs no waiting; none for the others. -/
def actAtOnce? (w : World) : Action → Option (Reply × World)
  | .insert draft =>
    let (id, w) := w.insert draft
    some (.identifier id, w)
  | .insertMany n =>
    let (ids, w) := w.insertMany 0 n
    some (.range ids.head? ids.getLast?, w)
  | .fetch limit =>
    match w.store.fetch? limit with
    | some (answer, store) => some (.ofStore .messages answer, { w with store })
    | none => some (.crashed, w)
  | .update id status => some (w.onStore .change (·.update id status w.clock))
  | .release ids => some (w.onStore (fun _ => .done) (·.release ids))
  | .get id => some (w.onStore .message (·.get id))
  | .tally => some (w.onStore .tally Store.tally)
  | .failOperations n => some (.done, { w with store := w.store.failOperations n })
  | .failUpdates n => some (.done, { w with store := w.store.failUpdates n })
  | .append outcome =>
    let (stamp, w) := w.takeStamp
    let entry : HistoryEntry :=
      .make stamp.entryId outcome.id outcome.target outcome.detail stamp.time
    some (.done, { w with history := w.history.append entry })
  | .entriesOf id => some (.entries (w.history.entriesOf id), w)
  | .allEntries => some (.entries w.history.entries, w)
  | .historyIsEmpty => some (.truth w.history.isEmpty, w)
  | .setReachable reachable => some (.done, { w with broker := w.broker.setReachable reachable })
  | .reject id => some (.done, { w with broker := w.broker.reject id })
  | .failPublications n => some (.done, { w with broker := w.broker.failPublications n })
  | .ready => some (.ofBroker (fun _ => .done) w.broker.ready, w)
  | .publish id exchange =>
    match w.inserted.get? id with
    | none => some (.refused, w)
    | some m =>
      let (answer, w) := w.publish (exchange.getD w.config.exchange) m
      some (.ofBroker (fun _ => .done) answer, w)
  | .deliver r queue =>
    some (.done, { w with broker := w.broker.deliver (queue.getD w.config.receiptQueue) r })
  | .serve n failing detail exchange queue =>
    let (ids, w) :=
      w.serve failing detail (exchange.getD w.config.exchange) (queue.getD w.config.receiptQueue) n
    some (.identifiers ids, w)
  | .close queue =>
    some (.done, { w with broker := w.broker.close (queue.getD w.config.receiptQueue) })
  | .cut reason queue =>
    some (.done, { w with broker := w.broker.cut (queue.getD w.config.receiptQueue) reason })
  | .subscribers queue =>
    some (.count (w.broker.listeners (queue.getD w.config.receiptQueue)).length, w)
  | .subscribe name queue =>
    match w.broker.subscribe (queue.getD w.config.receiptQueue) with
    | (.ok stream, broker) => some (.done, { w with broker }.nameStream name stream)
    | (.error failure, broker) => some (.brokerFailure failure, { w with broker })
  | .unsubscribe name =>
    match w.streamNames.get? name with
    | none => some (.truth false, w)
    | some stream =>
      some (.truth true,
        { w with broker := w.broker.drop stream, streamNames := w.streamNames.erase name })
  | .setSignal name value =>
    let (signal, w) := w.signalOf name
    some (.done, w.changeSignal signal (·.set value))
  | .dropSignal name =>
    match w.signalNames.get? name with
    | none => some (.truth false, w)
    | some signal =>
      some (.truth true,
        { w.changeSignal signal Signal.giveUp with signalNames := w.signalNames.erase name })
  | .setClock milliseconds => some (.done, w.setClock milliseconds)
  | .script target interferences =>
    some (.done, { w with scripts := w.scripts.put target interferences })
  | .spawn name action =>
    let (task, w) := w.addTask w.config none (.acting action)
    some (.done, { w with taskNames := w.taskNames.put name task })
  | .isFinished name =>
    match w.taskNames.get? name with
    | none => some (.refused, w)
    | some task => some (.truth (w.ended task).isSome, w)
  | _ => none

/-! ## Actions that may have to wait -/

/-- Makes a task watch the signal with a name. -/
def watchFor (w : World) (id : TaskId) (signal : Name) : World :=
  let (watch, w) := w.watch signal
  match w.tasks.get? id with
  | some task => { w with tasks := w.tasks.put id { task with watch := some watch } }
  | none => w

/-- Makes a task go on with something that needs a pipeline. -/
def withPipeline (w : World) (id : TaskId) (activity : Activity) : World :=
  match w.pipeline with
  | none => w.finish id .refused
  | some pipeline =>
    match w.tasks.get? id with
    | some task =>
      { w with tasks := w.tasks.put id { task with config := pipeline.config } }.await id activity
    | none => w

/-- For how long a join waits, in milliseconds. -/
def joinLimit : Nat :=
  60000

/-- For how long who serves without end waits for a message before it looks again, in milliseconds.
-/
def serveLimit : Nat :=
  1000

/-- A task begins with its action. -/
def begin (w : World) (id : TaskId) (action : Action) : World :=
  match action with
  | .pop exchange timeout =>
    w.await id (.popping (.looking (exchange.getD w.config.exchange) (w.now + timeout)))
  | .serveForever exchange queue =>
    let exchange := exchange.getD w.config.exchange
    let queue := queue.getD w.config.receiptQueue
    w.await id (.serving exchange queue 0 (.looking exchange (w.now + serveLimit)))
  | .next name timeout =>
    match w.streamNames.get? name with
    | none => w.finish id .refused
    | some stream =>
      { w with streamNames := w.streamNames.erase name }.awaitUntil id (.awaiting name stream)
        timeout
  | .record outcome => w.await id (.recording (.begin outcome))
  | .batch publisher signal =>
    let (publisher, w) := w.publisherOf publisher
    (w.watchFor id signal).await id (.batching publisher .opening)
  | .runPublisher publisher signal =>
    let (publisher, w) := w.publisherOf publisher
    (w.watchFor id signal).await id (.publishing publisher .starting)
  | .handle r => w.await id (.handling (.begin r))
  | .runConsumer name signal =>
    match w.streamNames.get? name with
    | none => w.finish id .refused
    | some stream =>
      ({ w with streamNames := w.streamNames.erase name }.watchFor id signal).await id
        (.consuming (.starting stream))
  | .build omitted => w.await id (.building omitted)
  | .start => w.withPipeline id (.starting .opening)
  | .stop choice => w.withPipeline id (.stopping (.opening choice) false)
  | .shutDown => w.withPipeline id (.stopping (.opening .both) true)
  | .advance milliseconds => w.awaitUntil id .sleeping milliseconds
  | .join name =>
    match w.taskNames.get? name with
    | none => w.finish id .refused
    | some task => w.awaitUntil id (.joining name task) joinLimit
  | _ =>
    match w.actAtOnce? action with
    | some (reply, w) => w.finish id reply
    | none => w.finish id .refused

end Outbox.Rehearsal.World
