import Outbox.Rehearsal.Begin
/-!
# `Outbox.Rehearsal.Schedule` — who goes on, and when

Time stands still while any task can go on, and goes on to the next moment at which something is due
when none can. An action is taken by a task of its own, which goes before the others; when it has
its reply, the others go on for as long as they can without time passing.
-/

namespace Outbox.Rehearsal.World

/-! ## One task -/

/-- A receipt for a publication that is the one with the given number, and what follows it.
-/
def servedReceipt (served : Nat) (p : Publication) : Receipt :=
  if served % 5 = 0 then
    .failed p.messageId ((p.decode?.map Message.destination).getD "" ++ " returned 500")
  else .delivered p.messageId

/-- Goes on to serve after a message came or did not come. -/
def serveNext (w : World) (id : TaskId) (exchange queue : String) (served : Nat) :
    Option Publication → World
  | none => w.await id (.serving exchange queue served (.looking exchange (w.now + serveLimit)))
  | some p =>
    let w := { w with broker := w.broker.deliver queue (servedReceipt (served + 1) p) }
    w.await id (.serving exchange queue (served + 1) (.looking exchange (w.now + serveLimit)))

/-- Whether the signal that a task watches tells it to stop. -/
def stops (w : World) (task : Task) : Bool :=
  task.watch.any fun watch => (w.signal watch.signal).stops

/-- Puts the roster of the pipeline back. -/
def setRoster (w : World) (roster : Roster) : World :=
  { w with pipeline := w.pipeline.map fun pipeline => { pipeline with roster } }

/-- The roster of the pipeline. -/
def roster (w : World) : Roster :=
  (w.pipeline.map Pipeline.roster).getD .empty

/-- A turn of a task that goes on to the answer of its request. -/
def answered {r : Request} (id : TaskId) (response : Response r.Answer)
    (resume : World → r.Answer → World) : Option World :=
  response.map fun
    | (w, none) => w.finish id .crashed
    | (w, some answer) => resume w answer

/-- Lets a task take a turn, if it can. -/
def turn? (w : World) (id : TaskId) : Option World := do
  let task ← w.tasks.get? id
  let c := task.config
  match task.state with
  | .ended .. => none
  | .running activity wait =>
    let answer? := w.answer? id task activity wait
    match activity with
    | .acting action => some (w.begin id action)
    | .sleeping => if w.isDue wait then some (w.finish id .done) else none
    | .awaiting name stream =>
      let (reception, broker) := w.broker.receive stream
      let back := { w with broker }.nameStream name stream
      match reception with
      | .receipt r => some (back.finish id (.receipt r))
      | .lost failure => some (back.finish id (.brokerFailure failure))
      | .ended => some (back.finish id .closed)
      | .nothing => if w.isDue wait then some (back.finish id .timedOut) else none
    | .joining name other =>
      let forget := { w with taskNames := w.taskNames.erase name }
      match (w.tasks.get? other).map Task.state with
      | some (.ended .crashed _) => some (forget.finish id .crashed)
      | some (.ended reply moment) => some (forget.finish id (.joined reply moment))
      | _ => if w.isDue wait then some (w.finish id .timedOut) else none
    | .popping s =>
      answered id (answer? s.request) fun w answer =>
        w.settle id .popping .publication (s.resume answer)
    | .serving exchange queue served s =>
      answered id (answer? s.request) fun w answer =>
        match (s.resume answer).progress with
        | .waiting s => w.await id (.serving exchange queue served s)
        | .finished p => w.serveNext id exchange queue served p
    | .recording s =>
      answered id (answer? (s.request c)) fun w answer =>
        w.settle id .recording (.ofStore .recorded) (s.resume c answer)
    | .handling s =>
      answered id (answer? (s.request c)) fun w answer =>
        w.settle id .handling .disposition (s.resume c answer)
    | .batching publisher s =>
      answered id (answer? (s.request c)) fun w answer =>
        let (carried, turn) := s.resume c (w.stops task) (w.carried.getD publisher []) answer
        { w with carried := w.carried.put publisher carried }.settle id (.batching publisher)
          (.ofStore .summary) turn
    | .publishing publisher s =>
      answered id (answer? (s.request c)) fun w answer =>
        let (carried, turn) := s.resume c (w.stops task) (w.carried.getD publisher []) answer
        { w with carried := w.carried.put publisher carried }.settle id (.publishing publisher)
          (fun () => .stopped) turn
    | .consuming s =>
      answered id (answer? (s.request c)) fun w answer =>
        w.settle id .consuming (fun () => .stopped) (s.resume c (w.stops task) answer)
    | .building omitted =>
      answered id (answer? .enter) fun w _ =>
        let (reply, w) := w.build omitted
        w.finish id reply
    | .starting s =>
      answered id (answer? (s.request c)) fun w answer =>
        let (roster, turn) := s.resume c w.ended w.roster answer
        (w.setRoster roster).settle id .starting .ofStart turn
    | .stopping s shutDown =>
      answered id (answer? s.request) fun w answer =>
        let (roster, turn) := s.resume w.roster answer
        let last : Turn Stopping Unit :=
          if shutDown then .after .pipelineShutDown (.finish ()) else .finish ()
        let turn := turn.andThen (fun s => s) fun () => last
        (w.setRoster roster).settle id (.stopping · shutDown) (fun () => .done) turn

/-! ## All tasks -/

/-- Wakes all tasks that can take a turn, but for the task `first`, which goes before all others and
needs no waking. -/
def wakeReady (w : World) (first : Option TaskId) : World :=
  (w.tasks.keys.filter fun id => some id ≠ first && (w.turn? id).isSome).foldl wake w

/-- Lets the tasks that were woken go on, one after the other and each for as long as it can; they
may wake others. It takes at most `fuel` turns. -/
def rest (w : World) (first : Option TaskId) : (fuel : Nat) → World
  | 0 => w
  | fuel + 1 =>
    match w.woken with
    | [] => w
    | id :: others =>
      match w.turn? id with
      | some w => (w.wakeReady first).rest first fuel
      | none => { w with woken := others }.rest first fuel

/-- The next moment at which something is due. -/
def nextMoment? (w : World) : Option Nat :=
  ((w.tasks.values.filterMap Task.due?).filter (w.now < ·)).min?

/-- Lets a task take turns until it has come to its end. Whenever it cannot go on the others do, and
when nobody can, time goes on. -/
def runUntilEnd (w : World) (id : TaskId) (patience : Nat) : (fuel : Nat) → World
  | 0 => w
  | fuel + 1 =>
    if (w.ended id).isSome then w
    else match w.turn? id with
      | some w => (w.wakeReady (some id)).runUntilEnd id patience fuel
      | none =>
        let w := w.rest (some id) patience
        if (w.turn? id).isSome then w.runUntilEnd id patience fuel
        else match w.nextMoment? with
          | some moment =>
            ({ w with now := moment }.wakeReady (some id)).runUntilEnd id patience fuel
          | none => w

/-- The number of turns after which a rehearsal is given up. -/
def patience : Nat :=
  1_000_000_000

/-- Takes an action and gives its reply. An action that never has one is not done. -/
def perform (w : World) (action : Action) : Reply × World :=
  let (id, w) := w.addTask w.config none (.acting action)
  let w := w.runUntilEnd id patience patience
  let reply := match (w.tasks.get? id).map Task.state with
    | some (.ended reply _) => reply
    | _ => .timedOut
  (reply, { w with tasks := w.tasks.erase id }.rest none patience)

/-- Takes what was told out, the earliest first. -/
def takeTold (w : World) : List Notice × World :=
  (w.told.reverse, { w with told := [] })

end Outbox.Rehearsal.World

namespace Outbox.Rehearsal

open World

/-- What is recorded of an action: its reply, what is seen of the world then, and what was told. -/
structure Observation where
  reply : Reply
  snapshot : Snapshot
  told : List Notice
  deriving Inhabited

/-- Takes actions one after the other. -/
def run (w : World) : List Action → List Observation
  | [] => []
  | action :: rest =>
    let (reply, w) := w.perform action
    let (told, w) := w.takeTold
    ⟨reply, w.snapshot, told⟩ :: run w rest

end Outbox.Rehearsal
