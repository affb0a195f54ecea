import Outbox.Proofs.Rehearsal.Likeness
/-!
# `Proofs.Rehearsal.Handover` — what becomes of the receipts in one turn

While nobody but the consumer's loop of a pipeline reads receipts, a subscription is made by a start,
handed over to the loop that the start sets going, and held by the loop until its end. `Handover`
says what one turn does to the subscriptions and their holders, before the task whose turn it is goes
on; all that the turn does besides leaves the world `Alike`.
-/

namespace Outbox

/-! ## Views -/

/-- Whether the loop has its subscription still, and has not lost it. -/
def Consuming.isConnected : Consuming → Bool
  | .starting _ | .listening _ | .handling .. | .pausing .. => true
  | .reconnecting _ | .subscribing _ => false

namespace Rehearsal

/-- The subscription that a task holds: that of a consumer's loop, or the one that a start has made
for the loop that it is about to set going. -/
def TaskState.held? : TaskState → Option StreamId
  | .running (.consuming s) _ => some s.stream
  | .running (.starting (.launching _ consumer)) _ => consumer
  | _ => none

/-- The receipt that a task is about to deliver, and the queue if it is named. -/
def TaskState.delivery? : TaskState → Option (Receipt × Option String)
  | .running (.acting (.deliver r queue)) _ => some (r, queue)
  | _ => none

/-- The receipt that a consumer's loop began to handle when it went on, and the subscription from
which it was heard. -/
def TaskState.heard? : (old new : TaskState) → Option (StreamId × Receipt)
  | .running (.consuming (.listening stream)) _, .running (.consuming (.handling _ work)) _ =>
    some (stream, work.receipt)
  | _, _ => none

/-- Whether an action leaves it to the pipelines to subscribe and to read receipts, ends no
subscription, and delivers at most one receipt. -/
def Action.sparesReceipts : Action → Bool
  | .subscribe .. | .next .. | .unsubscribe _ | .runConsumer .. => false
  | .close _ | .cut .. => false
  | .serve .. | .serveForever .. => false
  | .spawn _ action => action.sparesReceipts
  | _ => true

namespace World

/-- The subscription that a task holds. -/
def heldBy (w : World) (t : TaskId) : Option StreamId :=
  (w.stateOf t).bind TaskState.held?

/-- Whether a task can be in a state while receipts are read by the loops of pipelines only. -/
def admits (w : World) : TaskState → Bool
  | .running (.acting action) _ => action.sparesReceipts
  | .running (.consuming s) _ => s.isConnected
  | .running (.starting _) _ => w.pipeline.isSome
  | .running (.awaiting ..) _ | .running (.serving ..) _ => false
  | .running .. | .ended .. => true

/-- The signal that a task watches tells it to stop. -/
def IsToldToStop (w : World) (t : TaskId) : Prop :=
  ∃ task, w.tasks.get? t = some task ∧ w.stops task = true

/-! ## Turns -/

/-- What one turn of a task does to the subscriptions and to their holders, before the task goes on
from its old state to its new one. -/
inductive Handover (w : World) (id : TaskId) : (old new : TaskState) → World → Prop
  /-- A task that holds no subscription does something else. -/
  | aside {old new : TaskState} {w₁ : World} (before : old.held? = none)
      (quiet : old.delivery? = none) (after : new.held? = none) (admitted : w.admits new = true)
      (alike : w.Alike w₁) : Handover w id old new w₁
  /-- A receipt is delivered. -/
  | delivers {r : Receipt} {queue : Option String} {wait : Wait} {reply : Reply} {n : Nat} :
      Handover w id (.running (.acting (.deliver r queue)) wait) (.ended reply n)
        { w with broker := w.broker.deliver (queue.getD w.config.receiptQueue) r }
  /-- A task is added that is about to begin with an action. -/
  | spawns {name : Name} {action : Action} {wait : Wait} {reply : Reply} {n : Nat}
      (spares : action.sparesReceipts = true) :
      Handover w id (.running (.acting (.spawn name action)) wait) (.ended reply n)
        (w.addTask w.config none (.acting action)).2
  /-- A start subscribes for the loop that it is about to set going. -/
  | subscribes {queue : String} {publisher : Bool} {stream : StreamId} {broker : Broker}
      {wait wait' : Wait} (subscribed : w.broker.subscribe queue = (.ok stream, broker)) :
      Handover w id (.running (.starting .subscribing) wait)
        (.running (.starting (.launching publisher (some stream))) wait') { w with broker }
  /-- A start sets loops going. -/
  | launches {publisher : Bool} {consumer : Option StreamId} {wait : Wait} {reply : Reply} {n : Nat} :
      Handover w id (.running (.starting (.launching publisher consumer)) wait) (.ended reply n)
        (w.launch publisher consumer).2
  /-- A consumer's loop hears a receipt and begins to handle it. -/
  | hears {stream : StreamId} {r : Receipt} {broker : Broker} {wait wait' : Wait}
      (received : w.broker.receive stream = (.receipt r, broker)) :
      Handover w id (.running (.consuming (.listening stream)) wait)
        (.running (.consuming (.handling stream (.begin r))) wait') { w with broker }
  /-- A consumer's loop goes on without having heard anything. -/
  | consumes {s s' : Consuming} {wait wait' : Wait} {w₁ : World} (same : s'.stream = s.stream)
      (connected : s'.isConnected = true)
      (unheard : TaskState.heard? (.running (.consuming s) wait) (.running (.consuming s') wait') =
        none) (alike : w.Alike w₁) :
      Handover w id (.running (.consuming s) wait) (.running (.consuming s') wait') w₁
  /-- A consumer's loop comes to its end. -/
  | ends {s : Consuming} {wait : Wait} {reply : Reply} {n : Nat} {w₁ : World}
      (reason : reply = .crashed ∨ w.IsToldToStop id) (alike : w.Alike w₁) :
      Handover w id (.running (.consuming s) wait) (.ended reply n) w₁

/-- A task takes a turn that does not end a subscription or make one from outside. -/
def Passes (w : World) (id : TaskId) (w' : World) : Prop :=
  ∃ old new w₁, w.stateOf id = some old ∧ w.Handover id old new w₁ ∧ Goes id old new w₁ w'

section Turns

variable {w w' w₁ : World} {id : TaskId} {old new : TaskState}

/-- A task that holds no subscription comes to its end. -/
theorem passes_finish (was : w.stateOf id = some old) (before : old.held? = none)
    (quiet : old.delivery? = none) (alike : w.Alike w₁) (reply : Reply) :
    Passes w id (w₁.finish id reply) := by
  have hwas := (alike.states id).trans was
  exact ⟨old, _, w₁, was, .aside before quiet rfl rfl alike, goes_finish hwas reply⟩

/-- A task that holds no subscription goes on to wait. -/
theorem passes_await (was : w.stateOf id = some old) (before : old.held? = none)
    (quiet : old.delivery? = none) (alike : w.Alike w₁) {activity : Activity}
    (waits : ∀ c, (activity.request? c).isSome = true)
    (after : ∀ wait, (TaskState.running activity wait).held? = none)
    (admitted : ∀ wait, w.admits (.running activity wait) = true) :
    Passes w id (w₁.await id activity) := by
  obtain ⟨wait, hgoes⟩ := goes_await ((alike.states id).trans was) waits
  exact ⟨old, _, w₁, was, .aside before quiet (after wait) (admitted wait) alike, hgoes⟩

/-- A task that holds no subscription goes on with a process. -/
theorem passes_settle {σ α : Type} (was : w.stateOf id = some old) (before : old.held? = none)
    (quiet : old.delivery? = none) (alike : w.Alike w₁) {wrap : σ → Activity}
    (waits : ∀ s c, ((wrap s).request? c).isSome = true) (reply : α → Reply) (turn : Turn σ α)
    (after : ∀ s wait, turn.progress = .waiting s →
      (TaskState.running (wrap s) wait).held? = none ∧ w.admits (.running (wrap s) wait) = true) :
    Passes w id (w₁.settle id wrap reply turn) := by
  have hwas := (alike.states id).trans was
  rcases goes_settle hwas waits reply turn with ⟨s, wait, hturn, hgoes⟩ | ⟨outcome, -, hgoes⟩
  · obtain ⟨hafter, hadmitted⟩ := after s wait hturn
    exact ⟨old, _, w₁, was, .aside before quiet hafter hadmitted alike, hgoes⟩
  · exact ⟨old, _, w₁, was, .aside before quiet rfl rfl alike, hgoes⟩

/-! ## Actions -/

/-- An action that is done at once, and neither delivers a receipt nor adds a task. -/
theorem alike_of_actAtOnce {action : Action} {reply : Reply} (spares : action.sparesReceipts = true)
    (delivers : ∀ r queue, action ≠ .deliver r queue) (spawns : ∀ name other, action ≠ .spawn name other)
    (h : w.actAtOnce? action = some (reply, w')) : w.Alike w' := by
  cases action with
  | insert draft =>
    cases h
    exact w.alike_insert draft
  | insertMany n =>
    cases h
    exact w.alike_insertMany 0 n
  | publish message exchange =>
    simp only [actAtOnce?] at h
    split at h
    · cases h
      exact w.alike_refl
    · cases h
      exact w.alike_publish ..
  | setSignal name value =>
    cases h
    exact (w.alike_signalOf name).trans (alike_changeSignal ..)
  | dropSignal name =>
    simp only [actAtOnce?] at h
    split at h
    · cases h
      exact w.alike_refl
    · cases h
      exact alike_of_eq rfl rfl rfl (Nat.le_refl _)
  | isFinished name =>
    simp only [actAtOnce?] at h
    split at h <;> cases h <;> exact w.alike_refl
  | setReachable | reject | failPublications =>
    cases h
    exact ⟨⟨rfl, rfl, rfl, rfl⟩, fun _ => rfl, fun h => h, Nat.le_refl _⟩
  | fetch limit =>
    rcases world_of_fetchAtOnce h with rfl | rfl
    · exact w'.alike_refl
    · exact alike_of_eq rfl rfl rfl (Nat.le_refl _)
  | update | release | get | tally | failOperations | failUpdates | append | entriesOf
  | allEntries | historyIsEmpty | ready | subscribers | setClock | script =>
    cases h
    exact alike_of_eq rfl rfl rfl (Nat.le_refl _)
  | deliver r queue => exact absurd rfl (delivers r queue)
  | spawn name other => exact absurd rfl (spawns name other)
  | serve | close | cut | subscribe | unsubscribe => cases spares
  | pop | serveForever | next | record | batch | runPublisher | handle | runConsumer | build | start
  | stop | shutDown | advance | join | impossible => cases h

/-- A task goes on with something that needs a pipeline. -/
theorem passes_withPipeline (was : w.stateOf id = some old) (before : old.held? = none)
    (quiet : old.delivery? = none) {activity : Activity}
    (waits : ∀ c, (activity.request? c).isSome = true)
    (after : ∀ wait, (TaskState.running activity wait).held? = none)
    (admitted : ∀ wait, w.pipeline.isSome = true → w.admits (.running activity wait) = true) :
    Passes w id (w.withPipeline id activity) := by
  unfold withPipeline
  split
  · exact passes_finish was before quiet w.alike_refl .refused
  · next pipeline hpipeline =>
    obtain ⟨task, htask, hstate⟩ := Option.map_eq_some_iff.mp was
    have halike : w.Alike
        { w with tasks := w.tasks.put id { task with config := pipeline.config } } :=
      alike_put htask rfl
    simp only [htask]
    refine passes_await was before quiet halike waits after fun wait => ?_
    exact admitted wait (Option.isSome_iff_exists.mpr ⟨pipeline, hpipeline⟩)

/-- A task begins with an action that leaves the receipts alone or delivers one. -/
theorem passes_begin {action : Action} {wait : Wait}
    (was : w.stateOf id = some (.running (.acting action) wait)) (numbered : id < w.fresh)
    (spares : action.sparesReceipts = true) : Passes w id (w.begin id action) := by
  have hquiet (delivers : ∀ r queue, action ≠ .deliver r queue) :
      (TaskState.running (.acting action) wait).delivery? = none := by
    cases action with
    | deliver r queue => exact absurd rfl (delivers r queue)
    | _ => rfl
  -- only a delivery and the adding of a task need a word of their own
  have hatOnce (delivers : ∀ r queue, action ≠ .deliver r queue)
      (spawns : ∀ name other, action ≠ .spawn name other) :
      Passes w id (w.doAtOnce id action) := by
    unfold doAtOnce
    split
    · next reply w₁ hact =>
      have halike := alike_of_actAtOnce spares delivers spawns hact
      exact passes_finish was rfl (hquiet delivers) halike reply
    · exact passes_finish was rfl (hquiet delivers) w.alike_refl .refused
  cases action with
  | deliver r queue =>
    have hwas : ({ w with broker := w.broker.deliver (queue.getD w.config.receiptQueue) r } :
        World).stateOf id = some (.running (.acting (.deliver r queue)) wait) := was
    exact ⟨_, _, _, was, .delivers, goes_finish hwas .done⟩
  | spawn name other =>
    have hspares : other.sparesReceipts = true := spares
    have hwas : (w.addTask w.config none (.acting other)).2.stateOf id =
        some (.running (.acting (.spawn name other)) wait) := by
      rw [stateOf_addTask, if_neg (Nat.ne_of_gt numbered)]
      exact was
    have hnamed : (w.addTask w.config none (.acting other)).2.Alike
        { (w.addTask w.config none (.acting other)).2 with
          taskNames := w.taskNames.put name w.fresh } :=
      alike_of_eq rfl rfl rfl (Nat.le_refl _)
    have hgoes := goes_finish ((hnamed.states id).trans hwas) .done
    exact ⟨_, _, _, was, .spawns hspares, hnamed.goes hgoes⟩
  | pop exchange timeout =>
    exact passes_await was rfl rfl w.alike_refl (fun _ => rfl) (fun _ => rfl) fun _ => rfl
  | record outcome =>
    exact passes_await was rfl rfl w.alike_refl (fun _ => rfl) (fun _ => rfl) fun _ => rfl
  | handle r =>
    exact passes_await was rfl rfl w.alike_refl (fun _ => rfl) (fun _ => rfl) fun _ => rfl
  | build omitted =>
    exact passes_await was rfl rfl w.alike_refl (fun _ => rfl) (fun _ => rfl) fun _ => rfl
  | batch publisher signal =>
    have halike := (w.alike_publisherOf publisher).trans (alike_watchFor _ id signal)
    exact passes_await was rfl rfl halike (fun _ => rfl) (fun _ => rfl) fun _ => rfl
  | runPublisher publisher signal =>
    have halike := (w.alike_publisherOf publisher).trans (alike_watchFor _ id signal)
    exact passes_await was rfl rfl halike (fun _ => rfl) (fun _ => rfl) fun _ => rfl
  | start => exact passes_withPipeline was rfl rfl (fun _ => rfl) (fun _ => rfl) fun _ h => h
  | stop choice => exact passes_withPipeline was rfl rfl (fun _ => rfl) (fun _ => rfl) fun _ _ => rfl
  | shutDown => exact passes_withPipeline was rfl rfl (fun _ => rfl) (fun _ => rfl) fun _ _ => rfl
  | advance milliseconds =>
    obtain ⟨wait', hgoes⟩ := goes_awaitUntil was .sleeping milliseconds
    exact ⟨_, _, w, was, .aside rfl rfl rfl rfl w.alike_refl, hgoes⟩
  | join name =>
    simp only [begin]
    split
    · exact passes_finish was rfl rfl w.alike_refl .refused
    · next task htask =>
      obtain ⟨wait', hgoes⟩ := goes_awaitUntil was (.joining name task) joinLimit
      exact ⟨_, _, w, was, .aside rfl rfl rfl rfl w.alike_refl, hgoes⟩
  | serveForever | next | runConsumer => cases spares
  | insert | insertMany | fetch | update | release | get | tally | failOperations | failUpdates
  | append | entriesOf | allEntries | historyIsEmpty | setReachable | reject | failPublications
  | ready | publish | subscribers | setSignal | dropSignal | setClock | script | isFinished
  | impossible =>
    exact hatOnce (fun _ _ h => Action.noConfusion h) (fun _ _ h => Action.noConfusion h)
  | serve | close | cut | subscribe | unsubscribe => cases spares

/-! ## The consumer's loop -/

variable {s : Consuming} {c : Config} {task : Task} {wait : Wait}

theorem told_of_stops (get : w.tasks.get? id = some task) (stops : w.stops task = true) :
    w.IsToldToStop id :=
  ⟨task, get, stops⟩

theorem waits_consuming (s : Consuming) (c : Config) :
    ((Activity.consuming s).request? c).isSome = true := rfl

/-- A consumer's loop goes on without having heard anything, or comes to its end. -/
theorem passes_consuming (was : w.stateOf id = some (.running (.consuming s) wait))
    (alike : w.Alike w₁) {turn : Turn Consuming Unit}
    (goesOn : ∀ s', turn.progress = .waiting s' → s'.stream = s.stream ∧ s'.isConnected = true ∧
      ∀ wait', TaskState.heard? (.running (.consuming s) wait) (.running (.consuming s') wait') =
        none)
    (ends : turn.progress = .finished () → w.IsToldToStop id) :
    Passes w id (w₁.settle id .consuming (fun () => .stopped) turn) := by
  have hwas := (alike.states id).trans was
  rcases goes_settle hwas waits_consuming (fun () => .stopped) turn with
    ⟨s', wait', hturn, hgoes⟩ | ⟨⟨⟩, hturn, hgoes⟩
  · obtain ⟨hsame, hconnected, hunheard⟩ := goesOn s' hturn
    exact ⟨_, _, w₁, was, .consumes hsame hconnected (hunheard wait') alike, hgoes⟩
  · exact ⟨_, _, w₁, was, .ends (.inr (ends hturn)) alike, hgoes⟩

/-- A loop that was made to crash comes to its end. -/
theorem passes_crashed (was : w.stateOf id = some (.running (.consuming s) wait))
    (alike : w.Alike w₁) : Passes w id (w₁.finish id .crashed) :=
  ⟨_, _, w₁, was, .ends (.inl rfl) alike, goes_finish ((alike.states id).trans was) .crashed⟩

theorem goOn_waiting {stop : Bool} {stream : StreamId} {s' : Consuming}
    (h : (Consuming.goOn stop stream).progress = .waiting s') :
    s' = .listening stream ∧ stop = false := by
  cases stop with
  | true => cases h
  | false =>
    cases h
    exact ⟨rfl, rfl⟩

theorem goOn_finished {stop : Bool} {stream : StreamId}
    (h : (Consuming.goOn stop stream).progress = .finished ()) : stop = true := by
  cases stop with
  | true => rfl
  | false => cases h

theorem passes_starting {stream : StreamId}
    (was : w.stateOf id = some (.running (.consuming (.starting stream)) wait))
    (get : w.tasks.get? id = some task) :
    Passes w id (w.settle id .consuming (fun () => .stopped)
      ((Consuming.starting stream).resume c (w.stops task) ())) := by
  refine passes_consuming was w.alike_refl (fun s' hturn => ?_) fun hturn => ?_
  · obtain ⟨rfl, -⟩ := goOn_waiting hturn
    exact ⟨rfl, rfl, fun _ => rfl⟩
  · exact told_of_stops get (goOn_finished hturn)

/-- Who is woken by a signal without news finds that it was given up. -/
theorem stops_of_wakes {signal : Signal} {seen : Nat} (wakes : signal.wakes seen = true)
    (old : (!signal.hasNews seen) = true) : signal.stops = true := by
  unfold Signal.wakes at wakes
  unfold Signal.stops
  simp only [Bool.not_eq_true'] at old
  rw [old, Bool.false_or] at wakes
  rw [wakes, Bool.or_true]

theorem stops_of_signals (h : w₁.signals = w.signals) : w₁.stops task = w.stops task := by
  unfold stops signal
  rw [h]

/-- The answers that a recorder gets change no signal. -/
theorem signals_of_answer {r : Request} {activity : Activity} {given : Option r.Answer}
    (hr : isOfRecorder r = true) (h : w.answer? id task activity wait r = some (w₁, given)) :
    w₁.signals = w.signals := by
  have hcall {ε α : Type} {fault : Fault → Option ε} {operation : World → Except ε α × World}
      {given : Option (Except ε α)} (hop : (operation w).2.signals = w.signals)
      (h : w.call wait fault operation = some (w₁, given)) : w₁.signals = w.signals := by
    rcases world_of_call h with rfl | rfl
    · rfl
    · exact hop
  cases r with
  | update message status =>
    simp only [World.answer?] at h
    refine hcall ?_ h
    unfold update
    split <;> rfl
  | append entry =>
    simp only [World.answer?] at h
    exact hcall rfl h
  | sleep milliseconds =>
    simp only [World.answer?] at h
    split at h
    · cases h
      rfl
    · cases h
  | _ => cases hr

theorem stops_see (w : World) (id : TaskId) (task : Task) : (w.see id).stops task = w.stops task := by
  unfold see
  split <;> rfl

/-- A loop that hears a receipt begins to handle it, also when it is to stop. -/
theorem passes_hearing {stream : StreamId} {r : Receipt} {broker : Broker}
    (was : w.stateOf id = some (.running (.consuming (.listening stream)) wait))
    (received : w.broker.receive stream = (.receipt r, broker)) (stop : Bool) :
    Passes w id (({ w with broker } : World).settle id .consuming (fun () => .stopped)
      ((Consuming.listening stream).resume c stop (.receipt r))) := by
  have hwas : ({ w with broker } : World).stateOf id =
      some (.running (.consuming (.listening stream)) wait) := was
  have hsettled := goes_settle hwas waits_consuming (fun () => .stopped)
    ((Consuming.listening stream).resume c stop (.receipt r))
  rcases hsettled with ⟨s', wait', hnext, hgoes⟩ | ⟨_, hnext, -⟩
  · cases hnext
    exact ⟨_, _, _, was, .hears received, hgoes⟩
  · cases hnext

theorem passes_listening {stream : StreamId}
    (was : w.stateOf id = some (.running (.consuming (.listening stream)) wait))
    (get : w.tasks.get? id = some task) (hopen : w.broker.Open stream)
    (hturn : answered id (w.answer? id task (.consuming (.listening stream)) wait (.receive stream))
      (fun w answer => w.settle id .consuming (fun () => .stopped)
        ((Consuming.listening stream).resume c (w.stops task) answer)) = some w') :
    Passes w id w' := by
  rcases answered_cases hturn with ⟨w₁, hanswer, -⟩ | ⟨w₁, heard, hanswer, rfl⟩
  · -- nothing makes a loop crash that waits for a receipt
    simp only [World.answer?] at hanswer
    split at hanswer
    · cases hanswer
    · split at hanswer <;> cases hanswer
  · simp only [World.answer?] at hanswer
    split at hanswer
    · -- the signal has news for the loop, or was given up
      next signal seen hsignal =>
      cases hanswer
      obtain ⟨hwatched, hwakes⟩ := Option.filter_eq_some_iff.mp hsignal
      obtain ⟨watch, hwatch, hpair⟩ := Option.map_eq_some_iff.mp hwatched
      cases hpair
      have hstops (h : (w.signal watch.signal).stops = true) : w.IsToldToStop id := by
        refine told_of_stops get ?_
        rw [stops, hwatch]
        exact h
      rw [stops_see]
      refine passes_consuming was (w.alike_see id) (fun s' hgoes => ?_) fun hends => ?_
      · cases hnews : (w.signal watch.signal).hasNews watch.seen with
        | true =>
          rw [hnews] at hgoes
          obtain ⟨rfl, -⟩ := goOn_waiting hgoes
          exact ⟨rfl, rfl, fun _ => rfl⟩
        | false =>
          rw [hnews] at hgoes
          cases hgoes
      · cases hnews : (w.signal watch.signal).hasNews watch.seen with
        | true =>
          rw [hnews] at hends
          exact told_of_stops get (goOn_finished hends)
        | false =>
          refine hstops (stops_of_wakes hwakes ?_)
          rw [hnews]
          rfl
    · -- the subscription is open, so it has nothing to offer or a receipt
      rcases Broker.receive_of_open hopen with hnothing | ⟨r, broker, hreceived⟩
      · rw [hnothing] at hanswer
        cases hanswer
      · rw [hreceived] at hanswer
        cases hanswer
        exact passes_hearing was hreceived _

theorem passes_handling {stream : StreamId} {work : Handling}
    (was : w.stateOf id = some (.running (.consuming (.handling stream work)) wait))
    (get : w.tasks.get? id = some task)
    (hturn : answered id (w.answer? id task (.consuming (.handling stream work)) wait (work.request c))
      (fun w answer => w.settle id .consuming (fun () => .stopped)
        ((Consuming.handling stream work).resume c (w.stops task) answer)) = some w') :
    Passes w id w' := by
  rcases answered_cases hturn with ⟨w₁, hanswer, rfl⟩ | ⟨w₁, answer, hanswer, rfl⟩
  · exact passes_crashed was (alike_of_answer (elsewhere_handling c work) hanswer)
  · have halike := alike_of_answer (elsewhere_handling c work) hanswer
    refine passes_consuming was halike (fun s' hgoes => ?_) fun hends => ?_
    · rcases Turn.waiting_cases hgoes with ⟨work', -, rfl⟩ | ⟨disposition, -, hnext⟩
      · exact ⟨rfl, rfl, fun _ => rfl⟩
      · cases disposition with
        | storeFailed =>
          cases hnext
          exact ⟨rfl, rfl, fun _ => rfl⟩
        | _ =>
          obtain ⟨rfl, -⟩ := goOn_waiting hnext
          exact ⟨rfl, rfl, fun _ => rfl⟩
    · obtain ⟨disposition, -, hnext⟩ := Turn.finished_cases hends
      cases disposition with
      | storeFailed => cases hnext
      | _ =>
        have hstops := goOn_finished hnext
        rw [stops_of_signals (signals_of_answer (ofRecorder_handling c work) hanswer)] at hstops
        exact told_of_stops get hstops

theorem passes_pausing {stream : StreamId} {r : Receipt}
    (was : w.stateOf id = some (.running (.consuming (.pausing stream r)) wait))
    (get : w.tasks.get? id = some task)
    (hturn : answered id
      (w.answer? id task (.consuming (.pausing stream r)) wait (.pause c.errorBackoff))
      (fun w answer => w.settle id .consuming (fun () => .stopped)
        ((Consuming.pausing stream r).resume c (w.stops task) answer)) = some w') :
    Passes w id w' := by
  rcases answered_cases hturn with ⟨w₁, hanswer, rfl⟩ | ⟨w₁, answer, hanswer, rfl⟩
  · exact passes_crashed was (alike_of_answer rfl hanswer)
  · have halike := alike_of_answer rfl hanswer
    change Bool at answer
    cases answer with
    | false =>
      refine passes_consuming was halike (fun s' hgoes => ?_) fun hends => ?_
      · cases hgoes
        exact ⟨rfl, rfl, fun _ => rfl⟩
      · cases hends
    | true =>
      refine passes_consuming was halike (fun s' hgoes => ?_) fun hends => ?_
      · cases hgoes
      · simp only [World.answer?] at hanswer
        split at hanswer
        · split at hanswer <;> cases hanswer
        · next watch hwatch =>
          split at hanswer
          · refine told_of_stops get ?_
            simp only [Option.some.injEq, Prod.mk.injEq] at hanswer
            rw [stops, hwatch]
            exact Signal.stops_of_halts (Option.some.inj hanswer.2)
          · cases hanswer

/-! ## A start -/

/-- Who asks for a subscription gets one, or the broker stays as it is. -/
theorem answer_subscribe {queue : String} {activity : Activity}
    {given : Option (Except BrokerFailure StreamId)}
    (h : w.answer? id task activity wait (.subscribe queue) = some (w₁, given)) :
    (w.Alike w₁ ∧ ∀ stream, given ≠ some (.ok stream)) ∨
      ∃ stream broker, w.broker.subscribe queue = (.ok stream, broker) ∧ w₁ = { w with broker } ∧
        given = some (.ok stream) := by
  simp only [World.answer?] at h
  rcases call_cases h with
    ⟨-, rfl, rfl⟩ | ⟨_, _, -, -, rfl, rfl⟩ | ⟨answer, hdone, rfl⟩
  · exact .inl ⟨w₁.alike_refl, fun _ h => by cases h⟩
  · exact .inl ⟨w₁.alike_refl, fun _ h => by cases h⟩
  · obtain ⟨hanswer, hworld⟩ := Prod.mk.inj hdone
    have hsubscribed : w.broker.subscribe queue = (answer, (w.broker.subscribe queue).2) := by
      rw [← hanswer]
    rcases Broker.subscribe_cases hsubscribed with ⟨⟨failure, rfl⟩, hsame⟩ | ⟨rfl, -⟩
    · rw [hsame] at hworld
      exact .inl ⟨hworld ▸ w.alike_refl, fun _ h => by cases h⟩
    · exact .inr ⟨_, _, hsubscribed, hworld.symm, rfl⟩

theorem waits_starting (s : Starting) (c : Config) :
    ((Activity.starting s).request? c).isSome = true := rfl

theorem passes_subscribing {queue : String} {c : Config}
    (was : w.stateOf id = some (.running (.starting .subscribing) wait))
    (hturn : answered id (w.answer? id task (.starting .subscribing) wait (.subscribe queue))
      (fun w answer => (w.setRoster (Starting.subscribing.resume c w.ended w.roster answer).1).settle
        id .starting .ofStart (Starting.subscribing.resume c w.ended w.roster answer).2) =
      some w') :
    Passes w id w' := by
  rcases answered_cases hturn with ⟨w₁, hanswer, rfl⟩ | ⟨w₁, answer, hanswer, rfl⟩
  · rcases answer_subscribe hanswer with ⟨halike, -⟩ | ⟨_, _, -, -, hgiven⟩
    · exact passes_finish was rfl rfl halike .crashed
    · cases hgiven
  · rcases answer_subscribe hanswer with ⟨halike, hfailed⟩ | ⟨stream, broker, hsubscribed, rfl, hgiven⟩
    · change Except BrokerFailure StreamId at answer
      cases answer with
      | ok stream => exact absurd rfl (hfailed stream)
      | error failure =>
        refine passes_settle was rfl rfl (halike.trans (w₁.alike_setRoster _)) waits_starting
          .ofStart _ fun s wait' hnext => ?_
        cases hnext
    · cases hgiven
      have hroster := ({ w with broker } : World).alike_setRoster w.roster
      have hwas := (hroster.states id).trans was
      have hsettled := goes_settle hwas waits_starting .ofStart
        (Starting.subscribing.resume c w.ended w.roster (.ok stream)).2
      rcases hsettled with ⟨s, wait', hnext, hgoes⟩ | ⟨outcome, hnext, -⟩
      · cases hnext
        exact ⟨_, _, _, was, .subscribes hsubscribed, hroster.goes hgoes⟩
      · cases hnext

theorem passes_launching {publisher : Bool} {consumer : Option StreamId} {c : Config}
    (was : w.stateOf id = some (.running (.starting (.launching publisher consumer)) wait))
    (numbered : id < w.fresh)
    (hturn : answered id
      (w.answer? id task (.starting (.launching publisher consumer)) wait
        (.launch publisher consumer))
      (fun w answer =>
        (w.setRoster ((Starting.launching publisher consumer).resume c w.ended w.roster answer).1).settle
          id .starting .ofStart
          ((Starting.launching publisher consumer).resume c w.ended w.roster answer).2) = some w') :
    Passes w id w' := by
  rcases answered_cases hturn with ⟨w₁, hanswer, -⟩ | ⟨w₁, answer, hanswer, rfl⟩
  · cases hanswer
  · have hgiven : some ((w.launch publisher consumer).2, some (w.launch publisher consumer).1) =
        some (w₁, some answer) := hanswer
    cases hgiven
    have hwas : (w.launch publisher consumer).2.stateOf id =
        some (.running (.starting (.launching publisher consumer)) wait) := by
      rw [stateOf_launch numbered]
      exact was
    generalize (w.launch publisher consumer).1 = loops
    have hroster := (w.launch publisher consumer).2.alike_setRoster
      ((Starting.launching publisher consumer).resume c (w.launch publisher consumer).2.ended
        (w.launch publisher consumer).2.roster loops).1
    rcases goes_settle ((hroster.states id).trans hwas) waits_starting .ofStart
      ((Starting.launching publisher consumer).resume c (w.launch publisher consumer).2.ended
        (w.launch publisher consumer).2.roster loops).2 with
      ⟨s, wait', hnext, -⟩ | ⟨outcome, hnext, hgoes⟩
    · cases hnext
    · exact ⟨_, _, _, was, .launches, hroster.goes hgoes⟩

/-- A task that holds no subscription gets an answer that has nothing to do with the receipts. -/
theorem passes_answered {r : Request} {activity : Activity} {resume : World → r.Answer → World}
    (was : w.stateOf id = some old) (before : old.held? = none) (quiet : old.delivery? = none)
    (elsewhere : isElsewhere r = true)
    (hturn : answered id (w.answer? id task activity wait r) resume = some w')
    (resumed : ∀ w₁ answer, w.Alike w₁ → Passes w id (resume w₁ answer)) : Passes w id w' := by
  rcases answered_cases hturn with ⟨w₁, hanswer, rfl⟩ | ⟨w₁, answer, hanswer, rfl⟩
  · exact passes_finish was before quiet (alike_of_answer elsewhere hanswer) .crashed
  · exact resumed w₁ answer (alike_of_answer elsewhere hanswer)

/-- A start that is not about to set loops going holds no subscription, and goes on to hold none. -/
theorem passes_surveying {s : Starting} {c : Config}
    (was : w.stateOf id = some (.running (.starting s) wait)) (built : w.pipeline.isSome = true)
    (hs : s = .opening ∨ s = .probing)
    (hturn : answered id (w.answer? id task (.starting s) wait (s.request c))
      (fun w answer => (w.setRoster (s.resume c w.ended w.roster answer).1).settle id .starting
        .ofStart (s.resume c w.ended w.roster answer).2) = some w') :
    Passes w id w' := by
  have hbefore : (TaskState.running (.starting s) wait).held? = none := by
    rcases hs with rfl | rfl <;> rfl
  have helsewhere : isElsewhere (s.request c) = true := by
    rcases hs with rfl | rfl <;> rfl
  refine passes_answered was hbefore rfl helsewhere hturn fun w₁ answer halike => ?_
  have hroster := halike.trans (w₁.alike_setRoster (s.resume c w₁.ended w₁.roster answer).1)
  refine passes_settle was hbefore rfl hroster waits_starting .ofStart _ fun s' wait' hnext => ?_
  refine ⟨?_, built⟩
  rcases hs with rfl | rfl
  · simp only [Starting.resume, Starting.survey] at hnext
    split at hnext <;> cases hnext <;> rfl
  · simp only [Starting.resume] at hnext
    split at hnext
    · cases hnext
    · split at hnext <;> cases hnext <;> rfl

/-! ## All turns -/

/-- **What one turn does to the subscriptions.** While receipts are read by the loops of pipelines
only, a turn hands a subscription over as `Handover` says. -/
theorem passes_of_turn (numbered : ∀ t, w.fresh ≤ t → w.stateOf t = none)
    (admitted : ∀ t state, w.stateOf t = some state → w.admits state = true)
    (opened : ∀ t stream, w.heldBy t = some stream → w.broker.Open stream)
    (hturn : w.turn? id = some w') : Passes w id w' := by
  cases hget : w.tasks.get? id with
  | none => simp [turn?, hget] at hturn
  | some task =>
    have hwas : w.stateOf id = some task.state := by
      rw [stateOf, hget]
      rfl
    have hid : id < w.fresh := by
      by_contra hle
      rw [numbered id (Nat.le_of_not_lt hle)] at hwas
      cases hwas
    have hadmitted := admitted id _ hwas
    have hopened (stream : StreamId) (h : task.state.held? = some stream) :
        w.broker.Open stream := by
      refine opened id stream ?_
      rw [heldBy, hwas]
      exact h
    obtain ⟨c, watch, state⟩ := task
    simp only [turn?, hget, Option.bind_eq_bind, Option.bind_some] at hturn
    simp only at hwas hadmitted hopened
    cases state with
    | ended => cases hturn
    | running activity wait =>
      cases activity with
      | acting action =>
        cases hturn
        exact passes_begin hwas hid hadmitted
      | sleeping =>
        simp only at hturn
        split at hturn
        · cases hturn
          exact passes_finish hwas rfl rfl w.alike_refl .done
        · cases hturn
      | joining name other =>
        have hforgot : w.Alike { w with taskNames := w.taskNames.erase name } :=
          alike_of_eq rfl rfl rfl (Nat.le_refl _)
        simp only at hturn
        split at hturn
        · cases hturn
          exact passes_finish hwas rfl rfl hforgot .crashed
        · cases hturn
          exact passes_finish hwas rfl rfl hforgot _
        · split at hturn
          · cases hturn
            exact passes_finish hwas rfl rfl w.alike_refl .timedOut
          · cases hturn
      | popping s =>
        refine passes_answered hwas rfl rfl (elsewhere_popping s) hturn fun w₁ answer halike => ?_
        exact passes_settle hwas rfl rfl halike (fun _ _ => rfl) _ _ fun _ _ _ => ⟨rfl, rfl⟩
      | recording s =>
        refine passes_answered hwas rfl rfl (elsewhere_recording c s) hturn
          fun w₁ answer halike => ?_
        exact passes_settle hwas rfl rfl halike (fun _ _ => rfl) _ _ fun _ _ _ => ⟨rfl, rfl⟩
      | handling s =>
        refine passes_answered hwas rfl rfl (elsewhere_handling c s) hturn
          fun w₁ answer halike => ?_
        exact passes_settle hwas rfl rfl halike (fun _ _ => rfl) _ _ fun _ _ _ => ⟨rfl, rfl⟩
      | batching publisher s =>
        refine passes_answered hwas rfl rfl (elsewhere_batching c s) hturn
          fun w₁ answer halike => ?_
        have hcarried (carried : Table Nat (List Outcome)) : w.Alike { w₁ with carried } :=
          halike.trans (alike_of_eq rfl rfl rfl (Nat.le_refl _))
        exact passes_settle hwas rfl rfl (hcarried _) (fun _ _ => rfl) _ _ fun _ _ _ => ⟨rfl, rfl⟩
      | publishing publisher s =>
        refine passes_answered hwas rfl rfl (elsewhere_publishing c s) hturn
          fun w₁ answer halike => ?_
        have hcarried (carried : Table Nat (List Outcome)) : w.Alike { w₁ with carried } :=
          halike.trans (alike_of_eq rfl rfl rfl (Nat.le_refl _))
        exact passes_settle hwas rfl rfl (hcarried _) (fun _ _ => rfl) _ _ fun _ _ _ => ⟨rfl, rfl⟩
      | building omitted =>
        refine passes_answered hwas rfl rfl rfl hturn fun w₁ answer halike => ?_
        exact passes_finish hwas rfl rfl (halike.trans (w₁.alike_build omitted)) _
      | stopping s shutDown =>
        refine passes_answered hwas rfl rfl (elsewhere_stopping s) hturn fun w₁ answer halike => ?_
        have hroster := halike.trans (w₁.alike_setRoster (s.resume w₁.roster answer).1)
        exact passes_settle hwas rfl rfl hroster (fun _ _ => rfl) _ _ fun _ _ _ => ⟨rfl, rfl⟩
      | starting s =>
        cases s with
        | opening => exact passes_surveying hwas hadmitted (.inl rfl) hturn
        | probing => exact passes_surveying hwas hadmitted (.inr rfl) hturn
        | subscribing => exact passes_subscribing hwas hturn
        | launching publisher consumer => exact passes_launching hwas hid hturn
      | consuming s =>
        cases s with
        | starting stream =>
          cases hturn
          exact passes_starting hwas hget
        | listening stream => exact passes_listening hwas hget (hopened stream rfl) hturn
        | handling stream work => exact passes_handling hwas hget hturn
        | pausing stream r => exact passes_pausing hwas hget hturn
        | reconnecting | subscribing => cases hadmitted
      | awaiting | serving => cases hadmitted

/-- A loop that hears from its subscription before it heeds its signal keeps to `Handover`, too. -/
theorem passes_of_hear (opened : ∀ t stream, w.heldBy t = some stream → w.broker.Open stream)
    (hhear : w.hear? id = some w') : Passes w id w' := by
  simp only [hear?, Option.bind_eq_bind, Option.bind_eq_some_iff] at hhear
  obtain ⟨task, hget, hhear⟩ := hhear
  split at hhear
  · next stream wait hstate =>
    have hwas : w.stateOf id = some (.running (.consuming (.listening stream)) wait) := by
      rw [stateOf, hget, ← hstate]
      rfl
    have hopen : w.broker.Open stream := by
      refine opened id stream ?_
      rw [heldBy, hwas]
      rfl
    rcases Broker.receive_of_open hopen with hnothing | ⟨r, broker, hreceived⟩
    · simp [World.answer?, hnothing, answered] at hhear
    · simp only [World.answer?, Option.map_none, Option.filter_none, hreceived, answered,
        Option.map_some, Option.some.injEq] at hhear
      cases hhear
      exact passes_hearing hwas hreceived _
  · cases hhear

end Turns

end World

end Rehearsal

end Outbox
