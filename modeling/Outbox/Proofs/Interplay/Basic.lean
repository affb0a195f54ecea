import Outbox.Process.Consuming
import Outbox.Process.Publishing
import Outbox.Store
/-!
# `Proofs.Interplay.Basic` — calls in progress side by side

Publishers, consumers and recorders work on one store, one history and one broker. A *call* is a
process together with its settings; it waits for the answer to its request, takes a turn, and waits
again. This module says what can happen next when any number of calls are in progress:

* something happens **outside** of the calls: a message is inserted, time passes, a fault is set,
  the far side of the broker takes a message or delivers a receipt, a subscription is made for a
  consumer;
* somebody **starts** a call;
* a call takes its **turn**, when its request is answered. Its *fate* decides how: the operation is
  done, or the store or the broker is out of reach, or the stop signal ends a wait.

Nothing says in which order this happens, so a run is any interleaving of the turns. All that is
left open is in a `Move`, which makes `perform?` a function and lets a run be computed.
`Proofs.Rehearsal.Schedule` shows that what a rehearsal does is a run.
-/

namespace Outbox.Interplay

/-- The number of a publisher. -/
abbrev PublisherId := Nat

/-! ## Calls -/

/-- What a caller asks for. -/
inductive Job
  | record (outcome : Outcome)
  | handle (r : Receipt)
  /-- To run the consumer's loop on a subscription. -/
  | consume (stream : StreamId)
  /-- To publish one batch. -/
  | batch (publisher : PublisherId)
  /-- To run the publisher's loop. -/
  | publish (publisher : PublisherId)
  deriving DecidableEq, Inhabited

/-- Where a call is. -/
inductive Work
  | recording (s : Recording)
  | handling (s : Handling)
  | consuming (s : Consuming)
  | batching (publisher : PublisherId) (s : Batching)
  | publishing (publisher : PublisherId) (s : Publishing)
  deriving DecidableEq, Inhabited

/-- What a call comes to. -/
inductive Result
  | recorded (result : Except StoreFailure RecordResult)
  | handled (disposition : Disposition)
  | consumed
  | batched (summary : Except StoreFailure BatchSummary)
  | published
  deriving Inhabited

/-- How the work on a job begins. -/
def Job.begin : Job → Work
  | .record outcome => .recording (.begin outcome)
  | .handle r => .handling (.begin r)
  | .consume stream => .consuming (.starting stream)
  | .batch publisher => .batching publisher .opening
  | .publish publisher => .publishing publisher .starting

/-- The publisher that a job is for. -/
def Job.publisher? : Job → Option PublisherId
  | .batch publisher | .publish publisher => some publisher
  | .record _ | .handle _ | .consume _ => none

namespace Work

/-- What the call waits for. -/
def request (c : Config) : Work → Request
  | .recording s => s.request c
  | .handling s => s.request c
  | .consuming s => s.request c
  | .batching _ s => s.request c
  | .publishing _ s => s.request c

/-- The publisher that the call works for. -/
def publisher? : Work → Option PublisherId
  | .batching publisher _ | .publishing publisher _ => some publisher
  | .recording _ | .handling _ | .consuming _ => none

/-- Whether the call has the carried outcomes of its publisher to itself. -/
def isInside : Work → Bool
  | .batching _ s => s.isInside
  | .publishing _ s => s.isInside
  | .recording _ | .handling _ | .consuming _ => false

/-- The subscription that the call holds. -/
def stream? : Work → Option StreamId
  | .consuming s => some s.stream
  | .recording _ | .handling _ | .batching .. | .publishing .. => none

/-- The turn after an answer. `stop` tells whether the loop is to stop, and `carried` are the
carried outcomes of the publisher before the turn; those after it are given along with it. -/
def resume (c : Config) (stop : Bool) (carried : List Outcome) :
    (w : Work) → (w.request c).Answer → List Outcome × Turn Work Result
  | .recording s, answer =>
    (carried, (s.resume c answer).andThen .recording fun result => .finish (.recorded result))
  | .handling s, answer =>
    (carried, (s.resume c answer).andThen .handling fun disposition => .finish (.handled disposition))
  | .consuming s, answer =>
    (carried, (s.resume c stop answer).andThen .consuming fun () => .finish .consumed)
  | .batching publisher s, answer =>
    let (carried, turn) := s.resume c stop carried answer
    (carried, turn.andThen (.batching publisher) fun summary => .finish (.batched summary))
  | .publishing publisher s, answer =>
    let (carried, turn) := s.resume c stop carried answer
    (carried, turn.andThen (.publishing publisher) fun () => .finish .published)

end Work

/-- A call in progress. -/
structure Call where
  config : Config
  work : Work
  /-- When it came to wait for the answer to its request. -/
  since : Nat
  deriving DecidableEq, Inhabited

/-- What the call waits for. -/
abbrev Call.request (call : Call) : Request :=
  call.work.request call.config

/-! ## The state -/

/-- The store, the history, the broker, and all that the calls in progress hold. -/
structure System where
  /-- Milliseconds since the beginning. -/
  now : Nat
  store : Store
  history : History
  broker : Broker
  /-- The carried outcomes of each publisher. -/
  carried : Table PublisherId (List Outcome)
  calls : Table TaskId Call
  deriving Inhabited

/-- How a request comes to be answered. -/
inductive Fate
  /-- The operation is done. The clock then reads `clock`, and a step that is made is stamped. -/
  | served (clock : Instant) (stamp : Stamp)
  /-- The store or the history is out of reach. -/
  | storeDown (reason : String)
  /-- The broker does not do what it is asked. -/
  | brokerDown (failure : BrokerFailure)
  /-- The stop signal ends a wait; for a pause `value` tells whether to stop, for a receiver
  whether the signal was given up. -/
  | signalled (value : Bool)
  deriving Inhabited

/-- What can happen outside of the calls. -/
inductive Outside
  | insert (id : MessageId) (draft : Draft) (now : Instant)
  | wait (milliseconds : Nat)
  | failOperations (n : Nat)
  | failUpdates (n : Nat)
  /-- Somebody looks a message up or counts the messages, which uses up a fault. -/
  | look
  | take (exchange : String)
  | deliver (queue : String) (r : Receipt)
  /-- Somebody subscribes; a consumer can then be started on the subscription. -/
  | subscribe (queue : String)
  | unsubscribe (stream : StreamId)
  | close (queue : String)
  | cut (queue reason : String)
  | setReachable (reachable : Bool)
  | reject (id : MessageId)
  | failPublications (n : Nat)
  deriving Inhabited

/-- What can happen next. -/
inductive Move
  | outside (o : Outside)
  | start (task : TaskId) (config : Config) (job : Job)
  /-- A call takes its turn; `stop` tells whether the loop is to stop. -/
  | turn (task : TaskId) (fate : Fate) (stop : Bool)
  deriving Inhabited

/-- What has happened. -/
inductive Event
  | outside (o : Outside)
  | start (task : TaskId) (config : Config) (job : Job)
  /-- A call got an answer, and came to a result if this was its end. -/
  | turn (task : TaskId) (call : Call) (answer : call.request.Answer) (result : Option Result)

/-- Something that has happened, and the state before it. -/
structure Moment where
  before : System
  event : Event

namespace System

/-- Nothing has happened yet. -/
def initial : System :=
  ⟨0, .empty, .empty, .idle, .empty, .empty⟩

/-- The outcomes that a publisher carries over. -/
def carriedOf (s : System) (p : PublisherId) : List Outcome :=
  s.carried.getD p []

/-! ## What happens outside of the calls -/

/-- Whether something can happen. An identifier is given out once. -/
def allows (s : System) : Outside → Bool
  | .insert id _ _ => !s.store.messages.contains id
  | _ => true

/-- The state after something happened outside of the calls. -/
def apply (s : System) : Outside → System
  | .insert id draft now => { s with store := s.store.insert (.ofDraft id draft now) }
  | .wait milliseconds => { s with now := s.now + milliseconds }
  | .failOperations n => { s with store := s.store.failOperations n }
  | .failUpdates n => { s with store := s.store.failUpdates n }
  | .look => { s with store := s.store.tally.2 }
  | .take exchange => { s with broker := (s.broker.take exchange).2 }
  | .deliver queue r => { s with broker := s.broker.deliver queue r }
  | .subscribe queue => { s with broker := (s.broker.subscribe queue).2 }
  | .unsubscribe stream => { s with broker := s.broker.drop stream }
  | .close queue => { s with broker := s.broker.close queue }
  | .cut queue reason => { s with broker := s.broker.cut queue reason }
  | .setReachable reachable => { s with broker := s.broker.setReachable reachable }
  | .reject id => { s with broker := s.broker.reject id }
  | .failPublications n => { s with broker := s.broker.failPublications n }

/-! ## Answers -/

/-- Whether nobody else has the carried outcomes of a publisher to itself. -/
def isFree (s : System) (t : TaskId) (p : PublisherId) : Bool :=
  s.calls.entries.all fun (other, call) =>
    other == t || call.work.publisher? != some p || !call.work.isInside

/-- A call of the store: the operation is done, or the store is out of reach. -/
def onStore {α : Type} (s : System) (fate : Fate)
    (operation : Instant → Stamp → Store → Except StoreFailure α × Store) :
    Option (Except StoreFailure α × System) :=
  match fate with
  | .served clock stamp =>
    let (answer, store) := operation clock stamp s.store
    some (answer, { s with store })
  | .storeDown reason => some (.error (.unavailable reason), s)
  | .brokerDown _ | .signalled _ => none

/-- A call of the broker: the operation is done, or the broker fails. -/
def onBroker {α : Type} (s : System) (fate : Fate)
    (operation : Broker → Except BrokerFailure α × Broker) :
    Option (Except BrokerFailure α × System) :=
  match fate with
  | .served .. =>
    let (answer, broker) := operation s.broker
    some (answer, { s with broker })
  | .brokerDown failure => some (.error failure, s)
  | .storeDown _ | .signalled _ => none

/-- What a call hears that waits for a receipt. -/
def hear? (s : System) (fate : Fate) (stream : StreamId) : Option (Heard × System) :=
  match fate with
  | .served .. =>
    match s.broker.receive stream with
    | (.nothing, _) => none
    | (.ended, broker) => some (.ended, { s with broker })
    | (.lost failure, broker) => some (.lost failure, { s with broker })
    | (.receipt r, broker) => some (.receipt r, { s with broker })
  | .signalled givenUp => some (.signal givenUp, s)
  | .storeDown _ | .brokerDown _ => none

/-- Moves a message to a status and stamps the step. -/
def stampedUpdate (id : MessageId) (status : Status) (clock : Instant) (stamp : Stamp)
    (store : Store) : Except StoreFailure (Transition × Stamp) × Store :=
  let (answer, store) := store.update id status clock
  (answer.map fun change => (change, stamp), store)

/-- The answer to the request of a call and the state then, if the request can be answered in the
given way. A sleep lasts until time has passed, and so does a pause that no signal ends. -/
def answer? (s : System) (t : TaskId) (call : Call) (fate : Fate) :
    (r : Request) → Option (r.Answer × System)
  | .proceed => some ((), s)
  | .enter => if call.work.publisher?.all (s.isFree t) then some ((), s) else none
  | .fetch limit => s.onStore fate fun _ _ store => store.fetch limit
  | .update id status => s.onStore fate (stampedUpdate id status)
  | .release ids => s.onStore fate fun _ _ store => store.release ids
  | .append entry =>
    match fate with
    | .served .. => some (.ok (), { s with history := s.history.append entry })
    | .storeDown reason => some (.error (.unavailable reason), s)
    | .brokerDown _ | .signalled _ => none
  | .publish exchange m => s.onBroker fate (·.publish exchange m)
  | .subscribe queue => s.onBroker fate (·.subscribe queue)
  | .sleep milliseconds => if call.since + milliseconds ≤ s.now then some ((), s) else none
  | .pause milliseconds =>
    match fate with
    | .signalled stop => some (stop, s)
    | _ => if call.since + milliseconds ≤ s.now then some (false, s) else none
  | .receive stream => s.hear? fate stream
  -- no call makes the requests that are left
  | .ready | .take _ | .listen _ | .launch .. | .halt _ | .join _ => none

/-! ## Turns -/

/-- A call goes on to wait, or has come to its end. A subscription that it no longer holds is given
up. -/
def settle (s : System) (t : TaskId) (call : Call) : Progress Work Result → Option Result × System
  | .waiting work =>
    (none,
      { s with
        calls := s.calls.put t ⟨call.config, work, s.now⟩
        broker := s.broker.giveUp call.work.stream? work.stream? })
  | .finished result =>
    (some result,
      { s with
        calls := s.calls.erase t
        broker := s.broker.giveUp call.work.stream? none })

/-- A call takes its turn. -/
def resume (s : System) (t : TaskId) (call : Call) (stop : Bool) (answer : call.request.Answer) :
    Option Result × System :=
  match call.work.publisher? with
  | none => s.settle t call (call.work.resume call.config stop [] answer).2.progress
  | some p =>
    let (carried, turn) := call.work.resume call.config stop (s.carriedOf p) answer
    { s with carried := s.carried.put p carried }.settle t call turn.progress

/-- What comes of a move, if it can be made. -/
def perform? (s : System) : Move → Option (Event × System)
  | .outside o => if s.allows o then some (.outside o, s.apply o) else none
  | .start t c job =>
    if s.calls.contains t then none
    else some (.start t c job, { s with calls := s.calls.put t ⟨c, job.begin, s.now⟩ })
  | .turn t fate stop => do
    let call ← s.calls.get? t
    let (answer, s) ← s.answer? t call fate call.request
    let (result, s) := s.resume t call stop answer
    some (.turn t call answer result, s)

/-- Makes moves one after the other. -/
def play? (s : System) : List Move → Option (List Moment × System)
  | [] => some ([], s)
  | move :: rest => do
    let (event, s₁) ← s.perform? move
    let (trace, s₂) ← s₁.play? rest
    some (⟨s, event⟩ :: trace, s₂)

end System

/-! ## Runs -/

/-- One thing happens. -/
def Step (s : System) (e : Event) (s' : System) : Prop :=
  ∃ move, s.perform? move = some (e, s')

/-- One thing after another happens; the trace lists what, and in which state. -/
inductive Run (s₀ : System) : List Moment → System → Prop
  | nil : Run s₀ [] s₀
  | snoc {trace : List Moment} {s s' : System} {e : Event} :
      Run s₀ trace s → Step s e s' → Run s₀ (trace ++ [⟨s, e⟩]) s'

section Snoc

variable {trace : List Moment} {moment : Moment} {P : Moment → Prop}

theorem forall_mem_snoc :
    (∀ m ∈ trace ++ [moment], P m) ↔ (∀ m ∈ trace, P m) ∧ P moment := by
  rw [List.forall_mem_append, List.forall_mem_singleton]

theorem exists_mem_snoc :
    (∃ m ∈ trace ++ [moment], P m) ↔ (∃ m ∈ trace, P m) ∨ P moment := by
  constructor
  · rintro ⟨m, hmem, h⟩
    rcases List.mem_append.mp hmem with hmem | hmem
    · exact .inl ⟨m, hmem, h⟩
    · obtain rfl := List.mem_singleton.mp hmem
      exact .inr h
  · rintro (⟨m, hmem, h⟩ | h)
    · exact ⟨m, List.mem_append_left _ hmem, h⟩
    · exact ⟨moment, List.mem_append_right _ (List.mem_singleton_self _), h⟩

theorem filterMap_snoc {α : Type} (f : Moment → Option α) (trace : List Moment) (moment : Moment) :
    (trace ++ [moment]).filterMap f = trace.filterMap f ++ (f moment).toList := by
  rw [List.filterMap_append]
  cases h : f moment <;> simp [h]

end Snoc

/-- A run that begins with a step. -/
theorem Run.cons {s₀ s₁ s : System} {e : Event} {trace : List Moment} (h : Step s₀ e s₁)
    (run : Run s₁ trace s) : Run s₀ (⟨s₀, e⟩ :: trace) s := by
  induction run with
  | nil => exact .snoc .nil h
  | snoc _ step ih => exact .snoc ih step

/-- One run after another. -/
theorem Run.append {s₀ s₁ s : System} {before trace : List Moment} (first : Run s₀ before s₁)
    (run : Run s₁ trace s) : Run s₀ (before ++ trace) s := by
  induction run with
  | nil =>
    rw [List.append_nil]
    exact first
  | snoc _ step ih =>
    rw [← List.append_assoc]
    exact .snoc ih step

/-- What was computed is a run. -/
theorem run_of_play? {moves : List Move} {s s' : System} {trace : List Moment}
    (h : s.play? moves = some (trace, s')) : Run s trace s' := by
  induction moves generalizing s trace with
  | nil =>
    cases h
    exact .nil
  | cons move rest ih =>
    simp only [System.play?, Option.bind_eq_bind, Option.bind_eq_some_iff] at h
    obtain ⟨⟨e, s₁⟩, hstep, ⟨later, s₂⟩, hrest, h⟩ := h
    cases h
    exact .cons ⟨move, hstep⟩ (ih hrest)

/-- A run with a property that can be computed. -/
theorem exists_run (moves : List Move) {s : System} {P : List Moment → System → Prop}
    [∀ trace s', Decidable (P trace s')]
    (h : (s.play? moves).any (fun (trace, s') => decide (P trace s')) = true) :
    ∃ trace s', Run s trace s' ∧ P trace s' := by
  obtain ⟨⟨trace, s'⟩, hplay, hP⟩ := (Option.any_eq_true _ _).mp h
  exact ⟨trace, s', run_of_play? hplay, of_decide_eq_true hP⟩

/-- A step with a property that can be computed. -/
theorem exists_step (move : Move) {s : System} {P : Event → System → Prop}
    [∀ e s', Decidable (P e s')]
    (h : (s.perform? move).any (fun (e, s') => decide (P e s')) = true) :
    ∃ e s', Step s e s' ∧ P e s' := by
  obtain ⟨⟨e, s'⟩, hstep, hP⟩ := (Option.any_eq_true _ _).mp h
  exact ⟨e, s', ⟨move, hstep⟩, of_decide_eq_true hP⟩

/-- What holds at first and is kept by every step holds at the end of a run. -/
theorem Run.invariant {s₀ s : System} {trace : List Moment} {I : List Moment → System → Prop}
    (run : Run s₀ trace s) (first : I [] s₀)
    (step : ∀ {trace s e s'}, Run s₀ trace s → I trace s → Step s e s' → I (trace ++ [⟨s, e⟩]) s') :
    I trace s := by
  induction run with
  | nil => exact first
  | snoc run h ih => exact step run ih h

end Outbox.Interplay
