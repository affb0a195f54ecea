import Outbox.Proofs.Interplay.Turn
import Outbox.Rehearsal.Schedule
/-!
# `Proofs.Rehearsal.Shown` — what the interplay shows of a rehearsal

A rehearsal fixes the order in which its tasks take turns; the interplay leaves it open. So what is
proved of every run of the interplay holds of a rehearsal, if each turn of the rehearsal is a step
of the interplay. This module says what it means that a state of the interplay shows a state of the
rehearsal: they agree on the store, the history, the broker, the time and the carried outcomes, and
the tasks that carry out calls are the calls in progress. The other tasks — those that stand for the
far side of the broker, or that start and stop a pipeline — do what can happen outside of the calls.

Some things can be done in a rehearsal that the interplay leaves out. A script can crash a caller or
make up a failure that the store never gives; a batch can be too large for there to be room for it,
which crashes its caller as well; and an action can reach past the calls: it can fetch, update,
release, append or publish directly, or read from a subscription.
-/

namespace Outbox

/-- There is room for the batches that are published with the settings. -/
def Config.HasRoom (c : Config) : Prop :=
  c.batchSize ≤ Store.room

namespace Rehearsal

open Interplay

/-! ## Calls -/

/-- What a task does that carries out a call. -/
def Activity.ofWork : Work → Activity
  | .recording s => .recording s
  | .handling s => .handling s
  | .consuming s => .consuming s
  | .batching publisher s => .batching publisher s
  | .publishing publisher s => .publishing publisher s

/-- The reply when a call has come to its end. -/
def Reply.ofResult : Result → Reply
  | .recorded result => .ofStore .recorded result
  | .handled outcome => .disposition outcome
  | .consumed => .stopped
  | .batched result => .ofStore .summary result
  | .published => .stopped

namespace Activity

@[simp]
theorem request?_ofWork (c : Config) (work : Work) :
    (ofWork work).request? c = some (work.request c) := by
  cases work <;> rfl

theorem isInside_ofWork (work : Work) : (ofWork work).isInside = work.isInside := by
  cases work <;> rfl

theorem room?_ofWork {work : Work} {p : PublisherId} (h : work.publisher? = some p) :
    (ofWork work).room? = some (.carried p) := by
  cases work <;> cases h <;> rfl

end Activity

theorem TaskState.stream?_ofWork (work : Work) (wait : Wait) :
    (TaskState.running (.ofWork work) wait).stream? = work.stream? := by
  cases work <;> rfl

/-- A task that there is changes. -/
theorem World.setState_of_get (w : World) {id : TaskId} {task : Task}
    (get : w.tasks.get? id = some task) (state : TaskState) :
    w.setState id state =
      { w with
        broker := w.broker.giveUp task.state.stream? state.stream?
        tasks := w.tasks.put id { task with state } } := by
  rw [World.setState, get]

/-- A task that there is comes to wait for the answer to the request of a call. -/
theorem World.await_ofWork (w : World) {id : TaskId} {task : Task}
    (get : w.tasks.get? id = some task) (work : Work) :
    w.await id (.ofWork work) =
      (w.arrive id (work.request task.config)).2.setState id
        (.running (.ofWork work) (w.arrive id (work.request task.config)).1) := by
  simp only [World.await, get, Option.bind_eq_bind, Option.bind_some, Activity.request?_ofWork]

theorem World.tasks_takeInterference (w : World) (target : Target) :
    (w.takeInterference target).2.tasks = w.tasks := by
  unfold World.takeInterference
  split <;> rfl

/-- Who comes to wait has not gone on yet. -/
theorem World.tasks_arrive (w : World) (id : TaskId) (r : Request) :
    (w.arrive id r).2.tasks = w.tasks := by
  cases hr : target? r with
  | some target =>
    simp only [World.arrive, hr]
    exact World.tasks_takeInterference _ target
  | none =>
    simp only [World.arrive, hr]
    cases r <;> rfl

/-! ## What the interplay leaves out -/

/-- Whether a script lets the caller go on, and makes a call fail only in ways in which the store or
the broker fails of itself. -/
def Interference.isMild (i : Interference) : Bool :=
  !i.crash &&
    match i.fault with
    | some (.store .notFound) | some (.store (.conflict _)) => false
    | some (.store (.unavailable _)) | some (.broker _) | .none => true

/-- Whether an action leaves the store, the history and the broker to the calls, the producer and
the far side. Insertions are not among these actions: not every identifier is new. -/
def Action.isOrderly : Action → Bool
  | .insert _ | .insertMany _ => false
  | .fetch _ | .update _ _ | .release _ | .append _ | .publish _ _ | .next _ _ => false
  | .script _ interferences => interferences.all Interference.isMild
  | .spawn _ action => action.isOrderly
  | _ => true

/-- Whether a task does something else than carry out a call, and keeps to what can happen outside
of the calls. -/
def Activity.isAside : Activity → Bool
  | .acting action => action.isOrderly
  | .popping _ | .serving .. | .sleeping | .joining .. => true
  | .building _ | .starting _ | .stopping .. => true
  | .awaiting .. => false
  | .recording _ | .handling _ | .consuming _ | .batching .. | .publishing .. => false

/-! ## What is shown -/

/-- A wait that time ends is one for so many milliseconds since a moment, if the request says for
how many. -/
def Lasts (since : Nat) (wait : Wait) : Request → Prop
  | .sleep milliseconds => wait.due = some (since + milliseconds)
  | .pause milliseconds => wait.due = some (since + milliseconds)
  | _ => True

/-- What is shown of a task: a call in progress, or nothing. -/
inductive Shown : Option Task → Option Call → Prop
  | absent : Shown none none
  | ended {c : Config} {watch : Option Watch} {reply : Reply} {moment : Nat} :
      Shown (some ⟨c, watch, .ended reply moment⟩) none
  | aside {c : Config} {watch : Option Watch} {activity : Activity} {wait : Wait}
      (aside : activity.isAside = true) : Shown (some ⟨c, watch, .running activity wait⟩) none
  | call {c : Config} {watch : Option Watch} {work : Work} {wait : Wait} {since : Nat}
      (mild : wait.interference.isMild = true) (lasts : Lasts since wait (work.request c)) :
      Shown (some ⟨c, watch, .running (.ofWork work) wait⟩) (some ⟨c, work, since⟩)

/-- A state of the interplay shows a state of a rehearsal. -/
structure Shows (s : System) (w : World) : Prop where
  now : w.now = s.now
  store : w.store = s.store
  history : w.history = s.history
  broker : w.broker = s.broker
  carried : w.carried = s.carried
  tasks : ∀ t, Shown (w.tasks.get? t) (s.calls.get? t)
  nodup : s.calls.keys.Nodup
  scripts : ∀ target, ∀ i ∈ w.scripts.getD target [], i.isMild = true
  /-- The numbers that are still to be given out are not those of tasks. -/
  fresh : ∀ t, w.fresh ≤ t → w.tasks.get? t = none
  hasRoom : w.config.HasRoom
  pipelineHasRoom : ∀ pipeline, w.pipeline = some pipeline → pipeline.config.HasRoom
  taskHasRoom : ∀ t task, w.tasks.get? t = some task → task.config.HasRoom

/-- A state of the rehearsal is shown after some steps of the interplay. -/
def Follows (s : System) (w : World) : Prop :=
  ∃ trace s', Run s trace s' ∧ Shows s' w

section Follows

variable {s s' : System} {w w' : World}

theorem Shows.follows (h : Shows s w) : Follows s w :=
  ⟨[], s, .nil, h⟩

theorem Follows.trans (h : Follows s w) (next : ∀ {s'}, Shows s' w → Follows s' w') :
    Follows s w' := by
  obtain ⟨first, mid, hfirst, hmid⟩ := h
  obtain ⟨later, last, hlater, hlast⟩ := next hmid
  exact ⟨first ++ later, last, hfirst.append hlater, hlast⟩

/-- A move of the interplay leads to a state that shows the next one of the rehearsal. -/
theorem follows_of_move {move : Move} {e : Event} (h : s.perform? move = some (e, s'))
    (shows : Shows s' w) : Follows s w :=
  ⟨[⟨s, e⟩], s', .cons ⟨move, h⟩ .nil, shows⟩

/-- What happens outside of the calls. -/
theorem follows_of_outside {o : Outside} (allowed : s.allows o = true)
    (shows : Shows (s.apply o) w) : Follows s w := by
  have hmove : s.perform? (.outside o) = some (.outside o, s.apply o) := if_pos allowed
  exact follows_of_move hmove shows

end Follows

namespace Shows

variable {s : System} {w : World} {id : TaskId}

/-! ## What is not shown -/

theorem tell (h : Shows s w) (notices : List Notice) : Shows s (w.tell notices) :=
  { h with }

theorem wake (h : Shows s w) (id : TaskId) : Shows s (w.wake id) := by
  unfold World.wake
  split
  · exact h
  · exact { h with }

theorem changeSignal (h : Shows s w) (signal : SignalId) (change : Signal → Signal) :
    Shows s (w.changeSignal signal change) :=
  { h with }

theorem takeFresh (h : Shows s w) : Shows s w.takeFresh.2 :=
  { h with fresh := fun t ht => h.fresh t (Nat.le_of_succ_le ht) }

theorem onBroker (h : Shows s w) (b : Broker) :
    Shows { s with broker := b } { w with broker := b } :=
  { h with broker := rfl }

theorem onStore (h : Shows s w) (store : Store) : Shows { s with store } { w with store } :=
  { h with store := rfl }

theorem carry (h : Shows s w) (p : PublisherId) (carried : List Outcome) :
    Shows { s with carried := s.carried.put p carried }
      { w with carried := w.carried.put p carried } :=
  { h with carried := congrArg (·.put p carried) h.carried }

/-- The number of a task is not given out again. -/
theorem lt_fresh (h : Shows s w) {task : Task} (get : w.tasks.get? id = some task) :
    id < w.fresh := by
  by_contra hle
  rw [h.fresh id (Nat.le_of_not_lt hle)] at get
  cases get

/-- One task changes, and what is shown of it. -/
theorem put (h : Shows s w) {task : Task} {call? : Option Call} {calls : Table TaskId Call}
    (old : id < w.fresh) (shown : Shown (some task) call?) (hasRoom : task.config.HasRoom)
    (nodup : calls.keys.Nodup)
    (get : ∀ t, calls.get? t = if id = t then call? else s.calls.get? t) :
    Shows { s with calls } { w with tasks := w.tasks.put id task } := by
  refine { h with
    tasks := fun t => ?_, nodup, fresh := fun t ht => ?_, taskHasRoom := fun t other => ?_ }
  · rw [get, Table.get?_put]
    split
    · exact shown
    · exact h.tasks t
  · rw [Table.get?_put, if_neg (Nat.ne_of_lt (Nat.lt_of_lt_of_le old ht))]
    exact h.fresh t ht
  · rw [Table.get?_put]
    split
    · rintro ⟨⟩
      exact hasRoom
    · exact h.taskHasRoom t other

/-- One task changes, and nothing of what is shown of it. -/
theorem replace (h : Shows s w) {task : Task} (old : id < w.fresh)
    (shown : Shown (some task) (s.calls.get? id)) (hasRoom : task.config.HasRoom) :
    Shows s { w with tasks := w.tasks.put id task } := by
  refine h.put old shown hasRoom h.nodup fun t => ?_
  split
  · next ht => rw [ht]
  · rfl

/-- What is shown of the tasks does not depend on their order. -/
theorem retable (h : Shows s w) {tasks : Table TaskId Task}
    (same : ∀ t, tasks.get? t = w.tasks.get? t) : Shows s { w with tasks } := by
  refine { h with tasks := fun t => ?_, fresh := fun t ht => ?_, taskHasRoom := fun t task => ?_ }
  · rw [same]
    exact h.tasks t
  · rw [same]
    exact h.fresh t ht
  · rw [same]
    exact h.taskHasRoom t task

/-! ## Coming to wait -/

theorem takeInterference (h : Shows s w) (target : Target) :
    (w.takeInterference target).1.isMild = true ∧ Shows s (w.takeInterference target).2 := by
  have hmild := h.scripts target
  unfold World.takeInterference
  split
  · exact ⟨rfl, h⟩
  · next entry rest hscript =>
    rw [hscript] at hmild
    refine ⟨hmild entry List.mem_cons_self, { h with scripts := fun other i hi => ?_ }⟩
    change i ∈ (w.scripts.put target rest).getD other [] at hi
    rw [Table.getD, Table.get?_put] at hi
    split at hi
    · exact hmild i (List.mem_cons_of_mem _ hi)
    · exact h.scripts other i hi

/-- Who comes to wait is not shown, and waits as long as the request says. -/
theorem arrive (h : Shows s w) (id : TaskId) (r : Request) :
    (w.arrive id r).1.interference.isMild = true ∧ Lasts s.now (w.arrive id r).1 r ∧
      Shows s (w.arrive id r).2 := by
  have htaken := h.takeFresh
  cases hr : target? r with
  | some target =>
    obtain ⟨hmild, hshows⟩ := htaken.takeInterference target
    simp only [World.arrive, hr]
    refine ⟨hmild, ?_, hshows⟩
    cases r <;> trivial
  | none =>
    simp only [World.arrive, hr]
    cases r <;> try exact ⟨rfl, trivial, htaken⟩
    case sleep milliseconds =>
      exact ⟨rfl, congrArg (fun now => some (now + milliseconds)) h.now, htaken⟩
    case pause milliseconds =>
      exact ⟨rfl, congrArg (fun now => some (now + milliseconds)) h.now, htaken⟩
    case listen deadline => exact ⟨rfl, trivial, { htaken with }⟩

/-! ## Calls -/

/-- The task that carries out a call. -/
theorem call (h : Shows s w) {call : Call} (get : s.calls.get? id = some call) :
    ∃ watch wait, w.tasks.get? id = some ⟨call.config, watch, .running (.ofWork call.work) wait⟩ ∧
      wait.interference.isMild = true ∧ Lasts call.since wait call.request := by
  have hshown := h.tasks id
  rw [get] at hshown
  generalize htask : w.tasks.get? id = task? at hshown
  cases hshown with
  | @call c watch work wait since mild lasts => exact ⟨watch, wait, rfl, mild, lasts⟩

/-- A call goes on to wait. -/
theorem waiting (h : Shows s w) {call : Call} (get : s.calls.get? id = some call) {work : Work}
    {wait : Wait} (mild : wait.interference.isMild = true)
    (lasts : Lasts s.now wait (work.request call.config)) :
    Shows (s.settle id call (.waiting work)).2 (w.setState id (.running (.ofWork work) wait)) := by
  obtain ⟨watch, old, htask, -, -⟩ := h.call get
  have hstate := w.setState_of_get htask (.running (.ofWork work) wait)
  rw [TaskState.stream?_ofWork, TaskState.stream?_ofWork] at hstate
  have hshown : Shown (some ⟨call.config, watch, .running (.ofWork work) wait⟩)
      (some ⟨call.config, work, s.now⟩) := .call mild lasts
  have hroom : call.config.HasRoom := h.taskHasRoom id _ htask
  have hput := h.put (h.lt_fresh htask) hshown hroom (Table.nodup_put h.nodup id _)
    fun t => Table.get?_put ..
  rw [hstate, h.broker]
  exact { hput with broker := rfl }

/-- A call has come to its end. -/
theorem finished (h : Shows s w) {call : Call} (get : s.calls.get? id = some call)
    (result : Result) (reply : Reply) :
    Shows (s.settle id call (.finished result)).2 (w.finish id reply) := by
  obtain ⟨watch, old, htask, -, -⟩ := h.call get
  have hstate := w.setState_of_get htask (.ended reply w.now)
  rw [TaskState.stream?_ofWork] at hstate
  have hshown : Shown (some ⟨call.config, watch, .ended reply w.now⟩) none := .ended
  have hroom : call.config.HasRoom := h.taskHasRoom id _ htask
  have hput := h.put (h.lt_fresh htask) hshown hroom (Table.nodup_erase h.nodup id)
    fun t => Table.get?_erase ..
  rw [World.finish, hstate, h.broker]
  exact { hput with broker := rfl }

/-- A call goes on, or has come to its end. -/
theorem settle (h : Shows s w) {call : Call} (get : s.calls.get? id = some call)
    (turn : Turn Work Result) :
    Shows (s.settle id call turn.progress).2 (w.settle id .ofWork .ofResult turn) := by
  obtain ⟨watch, old, htask, -, -⟩ := h.call get
  have htold := h.tell turn.notices
  unfold World.settle
  cases turn.progress with
  | waiting work =>
    obtain ⟨hmild, hlasts, harrived⟩ := htold.arrive id (work.request call.config)
    show Shows _ ((w.tell turn.notices).await id (.ofWork work))
    rw [(w.tell turn.notices).await_ofWork htask]
    exact harrived.waiting get hmild hlasts
  | finished result => exact htold.finished get result (.ofResult result)

end Shows

end Rehearsal

end Outbox
