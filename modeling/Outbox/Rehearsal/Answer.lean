import Outbox.Rehearsal.World
/-!
# `Outbox.Rehearsal.Answer` — how the world answers requests

`arrive` is what happens when a task comes to wait for an answer: it is then that the script takes
hold of a call, that a time limit is set, and that a listener begins to listen. `answer?` gives the
answer as soon as there is one.
-/

namespace Outbox.Rehearsal

/-- The call that a request makes, if it is one that a script can interfere with. -/
def target? : Request → Option Target
  | .fetch _ => some .fetch
  | .update _ _ => some .update
  | .release _ => some .release
  | .append _ => some .append
  | .publish _ _ => some .publish
  | .subscribe _ => some .consume
  | .ready => some .ready
  | _ => none

namespace World

/-! ## Coming to wait -/

/-- Takes the next entry of the script for a call. -/
def takeInterference (w : World) (target : Target) : Interference × World :=
  match w.scripts.getD target [] with
  | [] => (.none, w)
  | entry :: rest => (entry, { w with scripts := w.scripts.put target rest })

/-- A task comes to wait for the answer to a request. -/
def arrive (w : World) (id : TaskId) (request : Request) : Wait × World :=
  let (arrival, w) := w.takeFresh
  match target? request with
  | some target =>
    let (entry, w) := w.takeInterference target
    (⟨arrival, some (w.now + entry.delay), entry⟩, w)
  | none =>
    match request with
    | .sleep milliseconds => (⟨arrival, some (w.now + milliseconds), .none⟩, w)
    | .pause milliseconds => (⟨arrival, some (w.now + milliseconds), .none⟩, w)
    | .listen deadline =>
      (⟨arrival, some deadline, .none⟩, { w with doorbell := w.doorbell.listen id })
    | _ => (⟨arrival, none, .none⟩, w)

/-! ## Answers -/

/-- Whether a wait has lasted as long as time makes it last. -/
def isDue (w : World) (wait : Wait) : Bool :=
  wait.due.all (· ≤ w.now)

/-- What a call comes to: an answer, or a crash of the caller. -/
abbrev Response (α : Type) := Option (World × Option α)

/-- Makes a call, as far as the script lets it. An operation that comes to nothing crashes the
caller. -/
def callOrCrash {ε α : Type} (w : World) (wait : Wait) (fault : Fault → Option ε)
    (operation : World → Option (Except ε α × World)) : Response (Except ε α) :=
  if w.isDue wait then
    if wait.interference.crash then some (w, none)
    else match wait.interference.fault >>= fault with
      | some failure => some (w, some (.error failure))
      | none =>
        match operation w with
        | some (answer, w) => some (w, some answer)
        | none => some (w, none)
  else none

/-- Makes a call whose operation always has an answer, as far as the script lets it. -/
def call {ε α : Type} (w : World) (wait : Wait) (fault : Fault → Option ε)
    (operation : World → Except ε α × World) : Response (Except ε α) :=
  w.callOrCrash wait fault fun w => some (operation w)

/-- The failure of a call of the store or the history about a message. -/
def storeFault (id : MessageId) (requested : Status) : Fault → Option StoreFailure
  | .store fault => some (fault.failure id requested)
  | .broker _ => none

/-- The failure of a call of the broker. -/
def brokerFault : Fault → Option BrokerFailure
  | .store _ => none
  | .broker failure => some failure

/-- Whether a task may have to itself what it shares: nobody has it, and nobody has waited longer.
-/
def mayEnter (w : World) (id : TaskId) (activity : Activity) (wait : Wait) : Bool :=
  w.activities.all fun (other, theirs, theirWait) =>
    other == id || activity.room? != theirs.room? ||
      !(theirs.isInside || isEntering other theirs && theirWait.arrival < wait.arrival)
where
  /-- Whether a task waits until it can have to itself what it shares. -/
  isEntering (other : TaskId) (theirs : Activity) : Bool :=
    match w.tasks.get? other >>= fun t => theirs.request? t.config with
    | some .enter => true
    | _ => false

/-- The watch of a task has seen what its signal says now. -/
def see (w : World) (id : TaskId) : World :=
  match w.tasks.get? id with
  | some task =>
    let watch := task.watch.map fun watch =>
      { watch with seen := (w.signal watch.signal).version }
    { w with tasks := w.tasks.put id { task with watch } }
  | none => w

/-- Publishes a message and rings the doorbell if the broker took it. -/
def publish (w : World) (exchange : String) (m : Message) : Except BrokerFailure Unit × World :=
  match w.broker.publish exchange m with
  | (.ok (), broker) => (.ok (), { w with broker, doorbell := w.doorbell.ring })
  | (.error failure, broker) => (.error failure, { w with broker })

/-- Moves a message to a status; a step that is made is stamped. -/
def update (w : World) (id : MessageId) (status : Status) :
    Except StoreFailure (Transition × Stamp) × World :=
  match w.store.update id status w.clock with
  | (.error failure, store) => (.error failure, { w with store })
  | (.ok change, store) =>
    let (stamp, w) := { w with store }.takeStamp
    (.ok (change, stamp), w)

/-- Sets going the loops of the pipeline that were asked for. -/
def launch (w : World) (publisher : Bool) (consumer : Option StreamId) :
    (Option Launched × Option Launched) × World :=
  match w.pipeline with
  | none => ((none, none), w)
  | some pipeline =>
    let (first, w) :=
      if publisher then
        let (loop, w) := launchLoop w pipeline (.publishing pipeline.publisher .starting)
        (some loop, w)
      else (none, w)
    match consumer with
    | some stream =>
      let (loop, w) := launchLoop w pipeline (.consuming (.starting stream))
      ((first, some loop), w)
    | none => ((first, none), w)
where
  /-- Sets a loop going, with a signal of its own. -/
  launchLoop (w : World) (pipeline : Pipeline) (activity : Activity) : Launched × World :=
    let (signal, w) := w.addSignal
    let (task, w) := w.addTask pipeline.config (some ⟨signal, 0⟩) activity
    (⟨task, signal⟩, w)

/-- The answer to the request of a task, as soon as there is one. -/
def answer? (w : World) (id : TaskId) (task : Task) (activity : Activity) (wait : Wait) :
    (r : Request) → Response r.Answer
  | .proceed => some (w, some ())
  | .enter => if w.mayEnter id activity wait then some (w, some ()) else none
  | .fetch limit =>
    w.callOrCrash wait (storeFault (.ofNat 0) .pending) fun w =>
      (w.store.fetch? limit).map fun (answer, store) => (answer, { w with store })
  | .update message status =>
    w.call wait (storeFault message status) fun w => w.update message status
  | .release ids =>
    w.call wait (storeFault (.ofNat 0) .pending) fun w =>
      let (answer, store) := w.store.release ids
      (answer, { w with store })
  | .append entry =>
    w.call wait (storeFault entry.messageId entry.status) fun w =>
      (.ok (), { w with history := w.history.append entry })
  | .publish exchange m => w.call wait brokerFault fun w => w.publish exchange m
  | .ready => w.call wait brokerFault fun w => (w.broker.ready, w)
  | .subscribe queue =>
    w.call wait brokerFault fun w =>
      let (answer, broker) := w.broker.subscribe queue
      (answer, { w with broker })
  | .sleep _ => if w.isDue wait then some (w, some ()) else none
  | .pause _ =>
    match task.watch with
    | none => if w.isDue wait then some (w, some false) else none
    | some watch =>
      let signal := w.signal watch.signal
      if signal.wakes watch.seen || w.isDue wait then
        some (w.see id, some (signal.halts watch.seen))
      else none
  | .receive stream =>
    let signal := task.watch.map fun watch => (w.signal watch.signal, watch.seen)
    match signal.filter fun (signal, seen) => signal.wakes seen with
    | some (signal, seen) => some (w.see id, some (.signal !(signal.hasNews seen)))
    | none =>
      match w.broker.receive stream with
      | (.nothing, _) => none
      | (.ended, broker) => some ({ w with broker }, some .ended)
      | (.lost failure, broker) => some ({ w with broker }, some (.lost failure))
      | (.receipt r, broker) => some ({ w with broker }, some (.receipt r))
  | .take exchange =>
    let (p, broker) := w.broker.take exchange
    some ({ w with broker }, some p)
  | .listen _ =>
    if w.doorbell.hasWoken id then some ({ w with doorbell := w.doorbell.goOn id }, some true)
    else if w.isDue wait then some ({ w with doorbell := w.doorbell.leave id }, some false)
    else none
  | .launch publisher consumer =>
    let (loops, w) := w.launch publisher consumer
    some (w, some loops)
  | .halt loops =>
    some (loops.foldl (fun w loop => (w.changeSignal loop.signal (·.set true)).wake loop.task) w,
      some ())
  | .join loop => (w.ended loop.task).map fun ending => (w, some ending)

end World

end Outbox.Rehearsal
