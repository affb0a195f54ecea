import Outbox.Proofs.Rehearsal.Loops
/-!
# `Proofs.Rehearsal.Stall` — what a scene does to the exchanges and the doorbell

Whoever waits for a message looks at an exchange and listens to the doorbell, in turns. Hardly
anything else that happens touches the exchanges or the doorbell: a publication puts a message on an
exchange and rings, and the far side of the broker may take messages. `Trade` says of a turn what it
does to the exchanges and the doorbell, and to the wait of the task whose turn it is.
-/

namespace Outbox

/-- Whether a request is one that a wait for a message makes. -/
def Request.isOfPopping : Request → Bool
  | .take _ | .listen _ => true
  | _ => false

/-- Whether a wait for a message does not listen to the doorbell. -/
def Popping.isLooking : Popping → Bool
  | .looking .. => true
  | .listening .. => false

namespace Rehearsal

/-- How the wait for a message stands that a task is at. -/
def TaskState.popping? : TaskState → Option Popping
  | .running (.popping s) _ | .running (.serving _ _ _ s) _ => some s
  | _ => none

theorem TaskState.popping?_of_isNew {state : TaskState} (h : state.isNew = true) :
    state.popping? = none := by
  cases state with
  | ended => rfl
  | running activity wait => cases activity <;> first | rfl | cases h

/-- What those who wait for messages share. -/
structure Stall where
  exchanges : Table String (List Publication)
  doorbell : Doorbell

namespace Stall

/-- The publications that wait on an exchange, the oldest first. -/
def queued (s : Stall) (exchange : String) : List Publication :=
  s.exchanges.getD exchange []

/-- A task comes to wait for a message. -/
def arrive (s : Stall) (id : TaskId) : Popping → Stall
  | .looking .. => s
  | .listening .. => { s with doorbell := s.doorbell.listen id }

/-- Messages are taken from the exchanges, or one is put there. -/
inductive Stocking (s s' : Stall) : Prop
  | taken (doorbell : s'.doorbell = s.doorbell) (queued : ∀ e, s'.queued e <:+ s.queued e)
  | added {exchange : String} {p : Publication} (doorbell : s'.doorbell = s.doorbell.ring)
      (queued : ∀ e, s'.queued e = if exchange = e then s.queued exchange ++ [p] else s.queued e)

theorem Stocking.of_eq {s s' : Stall} (h : s' = s) : Stocking s s' := by
  subst h
  exact .taken rfl fun _ => List.suffix_rfl

/-- What a turn of a task does to the exchanges and the doorbell, and to the wait for a message that
the task is at. -/
inductive Trade (id : TaskId) (s s' : Stall) : (old new : Option Popping) → Prop
  /-- A task that has not waited for a message may begin to. -/
  | aside {new : Option Popping} (stocking : Stocking s s')
      (looks : new.all Popping.isLooking = true) : Trade id s s' none new
  /-- A task takes the oldest message from its exchange. -/
  | finds {exchange : String} {deadline : Nat} {p : Publication} {new : Option Popping}
      (doorbell : s'.doorbell = s.doorbell) (found : s.queued exchange = p :: s'.queued exchange)
      (queued : ∀ e, exchange ≠ e → s'.queued e = s.queued e)
      (looks : new.all Popping.isLooking = true) :
      Trade id s s' (some (.looking exchange deadline)) new
  /-- A task finds no message on its exchange, and begins to listen. -/
  | listens {exchange : String} {deadline : Nat} (empty : s.queued exchange = [])
      (doorbell : s'.doorbell = s.doorbell.listen id) (exchanges : s'.exchanges = s.exchanges) :
      Trade id s s' (some (.looking exchange deadline)) (some (.listening exchange deadline))
  /-- A task that has been woken goes on, and looks again. -/
  | wakes {exchange : String} {deadline : Nat} (woken : s.doorbell.hasWoken id = true)
      (doorbell : s'.doorbell = s.doorbell.goOn id) (exchanges : s'.exchanges = s.exchanges) :
      Trade id s s' (some (.listening exchange deadline)) (some (.looking exchange deadline))
  /-- A task has not been woken by its deadline, and listens no longer. -/
  | leaves {exchange : String} {deadline : Nat} {new : Option Popping}
      (unwoken : s.doorbell.hasWoken id = false) (doorbell : s'.doorbell = s.doorbell.leave id)
      (exchanges : s'.exchanges = s.exchanges) (looks : new.all Popping.isLooking = true) :
      Trade id s s' (some (.listening exchange deadline)) new

end Stall

open Stall

namespace World

/-- How the wait for a message stands that a task is at. -/
def poppingOf (w : World) (t : TaskId) : Option Popping :=
  (w.stateOf t).bind TaskState.popping?

/-- The exchanges and the doorbell. -/
def stall (w : World) : Stall :=
  ⟨w.broker.exchanges, w.doorbell⟩

section Stall

variable {w w' w₁ w₂ : World} {id : TaskId}

theorem poppingOf_congr {t : TaskId} (h : w'.stateOf t = w.stateOf t) :
    w'.poppingOf t = w.poppingOf t :=
  congrArg (Option.bind · TaskState.popping?) h

theorem poppingOf_of_stateOf {t : TaskId} {state : TaskState} (h : w.stateOf t = some state) :
    w.poppingOf t = state.popping? :=
  congrArg (Option.bind · TaskState.popping?) h

/-- Who has come to an end does not wait for a message. -/
theorem poppingOf_of_not_live {t : TaskId} (h : w.isLive t = false) : w.poppingOf t = none := by
  cases hstate : w.stateOf t with
  | none =>
    rw [poppingOf, hstate]
    rfl
  | some state =>
    cases state with
    | running => cases h.symm.trans (isLive_of_running hstate)
    | ended => exact poppingOf_of_stateOf hstate

theorem queued_of_exchanges {b b' : Broker} (h : b'.exchanges = b.exchanges) (e : String) :
    b'.queued e = b.queued e :=
  congrArg (Table.getD · e []) h

theorem stall_of_eq (exchanges : w'.broker.exchanges = w.broker.exchanges)
    (doorbell : w'.doorbell = w.doorbell) : w'.stall = w.stall :=
  congrArg₂ Stall.mk exchanges doorbell

/-! ## Going on -/

theorem stall_setState (w : World) (id : TaskId) (state : TaskState) :
    (w.setState id state).stall = w.stall := by
  unfold setState
  split
  · rfl
  · exact stall_of_eq (w.broker.exchanges_giveUp ..) rfl

theorem stall_arrive (w : World) (id : TaskId) {r : Request} (quiet : r.isOfPopping = false) :
    (w.arrive id r).2.stall = w.stall := by
  cases hr : target? r with
  | some target =>
    simp only [arrive, hr, takeInterference]
    split <;> rfl
  | none =>
    simp only [arrive, hr]
    cases r <;> first | rfl | cases quiet

theorem not_isOfPopping_of_isOfCall {r : Request} (h : isOfCall r = true) :
    r.isOfPopping = false := by
  cases r <;> first | rfl | cases h

/-- Whoever does not wait for a message asks neither for one nor for the doorbell. -/
theorem not_isOfPopping {activity : Activity}
    (plain : ∀ wait, (TaskState.running activity wait).popping? = none) (c : Config) (r : Request)
    (hr : activity.request? c = some r) : r.isOfPopping = false := by
  cases activity with
  | recording s =>
    cases hr
    exact not_isOfPopping_of_isOfCall (isOfCall_recording c s)
  | handling s =>
    cases hr
    exact not_isOfPopping_of_isOfCall (isOfCall_handling c s)
  | batching publisher s =>
    cases hr
    exact not_isOfPopping_of_isOfCall (isOfCall_batching c s)
  | publishing publisher s =>
    cases hr
    exact not_isOfPopping_of_isOfCall (isOfCall_work c (.publishing publisher s))
  | consuming s =>
    cases hr
    exact not_isOfPopping_of_isOfCall (isOfCall_work c (.consuming s))
  | building =>
    cases hr
    rfl
  | starting s =>
    cases hr
    cases s <;> rfl
  | stopping s =>
    cases hr
    cases s <;> rfl
  | popping | serving => cases plain default
  | acting | sleeping | awaiting | joining => cases hr

/-- A task goes on, and not to wait for a message. -/
structure GoesAside (id : TaskId) (w w' : World) : Prop where
  stall : w'.stall = w.stall
  popping : w'.poppingOf id = none

theorem GoesAside.after (h : GoesAside id w₁ w') (same : w₁.stall = w.stall) :
    GoesAside id w w' :=
  ⟨h.stall.trans same, h.popping⟩

theorem goesAside_setState (w : World) (id : TaskId) {state : TaskState}
    (plain : state.popping? = none) : GoesAside id w (w.setState id state) := by
  refine ⟨stall_setState .., ?_⟩
  cases hget : w.tasks.get? id with
  | none => simp only [setState, hget, poppingOf, stateOf, Option.map_none, Option.bind_none]
  | some task =>
    rw [w.setState_of_get hget, poppingOf, stateOf, Table.get?_put, if_pos rfl]
    exact plain

theorem goesAside_finish (w : World) (id : TaskId) (reply : Reply) :
    GoesAside id w (w.finish id reply) :=
  goesAside_setState w id rfl

theorem goesAside_await (was : w.poppingOf id = none) {activity : Activity}
    (plain : ∀ wait, (TaskState.running activity wait).popping? = none) :
    GoesAside id w (w.await id activity) := by
  unfold await
  split
  · exact ⟨rfl, was⟩
  · next r hr =>
    obtain ⟨task, -, hr⟩ := Option.bind_eq_some_iff.mp hr
    exact (goesAside_setState _ id (plain _)).after
      (w.stall_arrive id (not_isOfPopping plain task.config r hr))

theorem goesAside_awaitUntil (w : World) (id : TaskId) {activity : Activity} (milliseconds : Nat)
    (plain : ∀ wait, (TaskState.running activity wait).popping? = none) :
    GoesAside id w (w.awaitUntil id activity milliseconds) :=
  (goesAside_setState w.takeFresh.2 id (plain _)).after rfl

theorem goesAside_settle {σ α : Type} (was : w.poppingOf id = none) {wrap : σ → Activity}
    (plain : ∀ s wait, (TaskState.running (wrap s) wait).popping? = none) (reply : α → Reply)
    (turn : Turn σ α) : GoesAside id w (w.settle id wrap reply turn) := by
  have htold : (w.tell turn.notices).stall = w.stall := rfl
  have hwas : (w.tell turn.notices).poppingOf id = none := was
  unfold settle
  split
  · next s _ => exact (goesAside_await hwas (plain s)).after htold
  · exact (goesAside_finish _ id _).after htold

/-- A task goes on to wait for a message. -/
theorem await_popping {old : TaskState} (was : w.stateOf id = some old) (activity : Activity)
    {s : Popping} (asks : ∀ c, activity.request? c = some s.request)
    (waits : ∀ wait, (TaskState.running activity wait).popping? = some s) :
    (w.await id activity).stall = w.stall.arrive id s ∧
      (w.await id activity).poppingOf id = some s := by
  obtain ⟨task, hget, -⟩ := Option.map_eq_some_iff.mp was
  have hwaits (c : Config) : (activity.request? c).isSome = true := by
    rw [asks c]
    rfl
  obtain ⟨wait, hgoes⟩ := goes_await was hwaits
  refine ⟨?_, (poppingOf_of_stateOf ((hgoes.states id).trans (if_pos rfl))).trans (waits wait)⟩
  simp only [await, hget, Option.bind_eq_bind, Option.bind_some, asks]
  refine (stall_setState ..).trans ?_
  cases s <;> rfl

/-! ## What comes before that -/

theorem stall_insert (w : World) (draft : Draft) : (w.insert draft).2.stall = w.stall := by
  simp only [insert, takeMessageId]
  split <;> rfl

theorem stall_insertMany (w : World) (next n : Nat) :
    (w.insertMany next n).2.stall = w.stall := by
  induction n generalizing w next with
  | zero => rfl
  | succ n ih =>
    unfold insertMany
    exact (ih _ _).trans (w.stall_insert _)

theorem stall_signalOf (w : World) (name : Name) : (w.signalOf name).2.stall = w.stall := by
  unfold signalOf
  split <;> rfl

theorem stall_publisherOf (w : World) (name : Name) :
    (w.publisherOf name).2.stall = w.stall := by
  unfold publisherOf
  split <;> rfl

theorem stall_watchFor (w : World) (id : TaskId) (signal : Name) :
    (w.watchFor id signal).stall = w.stall := by
  have hwatched : (w.watch signal).2.stall = w.stall := w.stall_signalOf signal
  unfold watchFor
  generalize w.watch signal = watched at hwatched
  obtain ⟨watch, w₁⟩ := watched
  simp only
  split <;> exact hwatched

theorem stall_nameStream (w : World) (name : Name) (stream : StreamId) :
    (w.nameStream name stream).stall = w.stall := by
  unfold nameStream
  split <;> rfl

theorem stall_see (w : World) (id : TaskId) : (w.see id).stall = w.stall := by
  unfold see
  split <;> rfl

theorem stall_wake (w : World) (id : TaskId) : (w.wake id).stall = w.stall := by
  unfold wake
  split <;> rfl

theorem stall_build (w : World) (omitted : List Part) : (w.build omitted).2.stall = w.stall := by
  rcases w.build_eq omitted with ⟨failure, hbuild⟩ | ⟨config, loops, hbuild⟩
  · rw [hbuild]
  · rw [hbuild]
    have hcleared := List.foldlRecOn (motive := fun w' : World => w'.stall = w.stall) loops
      (fun w loop => w.changeSignal loop.signal Signal.giveUp) rfl fun w' h loop _ => h
    exact hcleared

theorem stall_launch (w : World) (publisher : Bool) (consumer : Option StreamId) :
    (w.launch publisher consumer).2.stall = w.stall := by
  unfold launch
  split
  · rfl
  · cases publisher <;> cases consumer <;> rfl

/-- Either there is nothing to take from an exchange, or the oldest message is taken. -/
theorem take_cases (b : Broker) (exchange : String) :
    b.queued exchange = [] ∧ b.take exchange = (none, b) ∨
      ∃ p b', b.take exchange = (some p, b') ∧ b.queued exchange = p :: b'.queued exchange ∧
        ∀ e, exchange ≠ e → b'.queued e = b.queued e := by
  unfold Broker.take
  split
  · next hempty => exact .inl ⟨hempty, rfl⟩
  · next p rest hqueued =>
    refine .inr ⟨p, _, rfl, ?_, fun e hne => ?_⟩
    · show _ = p :: Table.getD (b.exchanges.put exchange rest) exchange []
      rw [Table.getD_put, if_pos rfl, hqueued]
    · show Table.getD (b.exchanges.put exchange rest) e [] = _
      rw [Table.getD_put, if_neg hne]
      rfl

theorem stocking_serve (w : World) (failing : List MessageId) (detail exchange queue : String)
    (n : Nat) :
    (w.serve failing detail exchange queue n).2.doorbell = w.doorbell ∧
      ∀ e, (w.serve failing detail exchange queue n).2.broker.queued e <:+ w.broker.queued e := by
  induction n generalizing w with
  | zero => exact ⟨rfl, fun _ => List.suffix_rfl⟩
  | succ n ih =>
    unfold serve
    obtain ⟨-, htake⟩ | ⟨p, broker, htake, hfound, hothers⟩ := take_cases w.broker exchange
    · rw [htake]
      exact ⟨rfl, fun _ => List.suffix_rfl⟩
    · have htaken (e : String) : broker.queued e <:+ w.broker.queued e := by
        by_cases heq : exchange = e
        · subst heq
          rw [hfound]
          exact List.suffix_cons ..
        · exact hothers e heq ▸ List.suffix_rfl
      rw [htake]
      refine ⟨(ih _).1, fun e => ((ih _).2 e).trans ?_⟩
      rw [queued_of_exchanges (broker.exchanges_deliver ..)]
      exact htaken e

theorem stocking_publish (w : World) (exchange : String) (m : Message) :
    Stocking w.stall (w.publish exchange m).2.stall := by
  unfold publish
  split
  · next broker hpublish =>
    obtain ⟨⟨_, hfailure⟩, -⟩ | ⟨-, hexchanges⟩ := Broker.publish_cases hpublish
    · cases hfailure
    · have hqueued (e : String) : broker.queued e = if exchange = e then
          w.broker.queued exchange ++ [⟨exchange, m.id, m.encode⟩] else w.broker.queued e := by
        rw [Broker.queued, hexchanges, Table.getD_put]
        rfl
      exact .added rfl hqueued
  · next failure broker hpublish =>
    obtain ⟨-, hexchanges⟩ | ⟨hok, -⟩ := Broker.publish_cases hpublish
    · exact .of_eq (stall_of_eq hexchanges rfl)
    · cases hok

/-- What an action does at once. -/
theorem stocking_of_actAtOnce {action : Action} {reply : Reply}
    (h : w.actAtOnce? action = some (reply, w')) : Stocking w.stall w'.stall := by
  cases action with
  | insert draft =>
    cases h
    exact .of_eq (w.stall_insert draft)
  | insertMany n =>
    cases h
    exact .of_eq (w.stall_insertMany 0 n)
  | publish message exchange =>
    simp only [actAtOnce?] at h
    split at h
    · cases h
      exact .of_eq rfl
    · cases h
      exact w.stocking_publish ..
  | serve n failing detail exchange queue =>
    cases h
    obtain ⟨hdoorbell, hqueued⟩ := w.stocking_serve failing detail
      (exchange.getD w.config.exchange) (queue.getD w.config.receiptQueue) n
    exact .taken hdoorbell hqueued
  | deliver r queue =>
    cases h
    exact .of_eq (stall_of_eq (w.broker.exchanges_deliver ..) rfl)
  | subscribe name queue =>
    have hsame := w.broker.exchanges_subscribe (queue.getD w.config.receiptQueue)
    simp only [actAtOnce?] at h
    split at h
    · next stream broker hsubscribed =>
      rw [hsubscribed] at hsame
      cases h
      exact .of_eq ((stall_nameStream ..).trans (stall_of_eq hsame rfl))
    · next failure broker hsubscribed =>
      rw [hsubscribed] at hsame
      cases h
      exact .of_eq (stall_of_eq hsame rfl)
  | unsubscribe | dropSignal | isFinished =>
    simp only [actAtOnce?] at h
    split at h <;> cases h <;> exact .of_eq rfl
  | setSignal name value =>
    cases h
    exact .of_eq (w.stall_signalOf name)
  | fetch limit =>
    rcases world_of_fetchAtOnce h with rfl | rfl <;> exact .of_eq rfl
  | update | release | get | tally | failOperations | failUpdates | append | entriesOf
  | allEntries | historyIsEmpty | setReachable | reject | failPublications | ready | close | cut
  | subscribers | setClock | script | spawn =>
    cases h
    exact .of_eq rfl
  | pop | serveForever | next | record | batch | runPublisher | handle | runConsumer | build | start
  | stop | shutDown | advance | join | impossible => cases h

variable {task : Task} {activity : Activity} {wait : Wait}

theorem stocking_of_call {ε α : Type} {fault : Fault → Option ε}
    {operation : World → Except ε α × World} {given : Option (Except ε α)}
    (h : w.call wait fault operation = some (w₁, given))
    (made : Stocking w.stall (operation w).2.stall) : Stocking w.stall w₁.stall := by
  rcases world_of_call h with rfl | rfl
  · exact .of_eq rfl
  · exact made

/-- What comes with an answer. -/
theorem stocking_of_answer {r : Request} {given : Option r.Answer}
    (elsewhere : r.isOfPopping = false)
    (h : w.answer? id task activity wait r = some (w₁, given)) : Stocking w.stall w₁.stall := by
  cases r with
  | proceed =>
    cases h
    exact .of_eq rfl
  | enter | sleep =>
    simp only [World.answer?] at h
    split at h
    · cases h
      exact .of_eq rfl
    · cases h
  | fetch limit =>
    rcases world_of_fetch h with rfl | rfl <;> exact .of_eq rfl
  | release | append | ready =>
    simp only [World.answer?] at h
    exact stocking_of_call h (.of_eq rfl)
  | update message status =>
    simp only [World.answer?] at h
    refine stocking_of_call h (.of_eq ?_)
    unfold update
    split <;> rfl
  | publish exchange m =>
    simp only [World.answer?] at h
    exact stocking_of_call h (w.stocking_publish exchange m)
  | subscribe queue =>
    simp only [World.answer?] at h
    exact stocking_of_call h (.of_eq (stall_of_eq (w.broker.exchanges_subscribe queue) rfl))
  | pause =>
    simp only [World.answer?] at h
    split at h
    · split at h
      · cases h
        exact .of_eq rfl
      · cases h
    · split at h
      · cases h
        exact .of_eq (w.stall_see id)
      · cases h
  | receive stream =>
    have hsame := w.broker.exchanges_receive stream
    simp only [World.answer?] at h
    split at h
    · cases h
      exact .of_eq (w.stall_see id)
    · split at h
      · cases h
      all_goals
        next broker hreceived =>
          rw [hreceived] at hsame
          cases h
          exact .of_eq (stall_of_eq hsame rfl)
  | launch publisher consumer =>
    cases h
    exact .of_eq (w.stall_launch publisher consumer)
  | halt loops =>
    cases h
    refine .of_eq (List.foldlRecOn (motive := fun w' : World => w'.stall = w.stall) loops _ rfl
      fun w' hw' loop _ => ?_)
    exact (stall_wake ..).trans hw'
  | join =>
    obtain ⟨ending, -, h⟩ := Option.map_eq_some_iff.mp h
    cases h
    exact .of_eq rfl
  | take | listen => cases elsewhere

/-- How far the task is does not change before it goes on. -/
theorem poppingOf_of_answer {r : Request} {given : Option r.Answer} (there : id < w.fresh)
    (h : w.answer? id task activity wait r = some (w₁, given)) :
    w₁.poppingOf id = w.poppingOf id := by
  cases r with
  | launch publisher consumer =>
    cases h
    exact poppingOf_congr (stateOf_launch there)
  | _ =>
    have hsteady := steady_of_answer (fun _ _ => Request.noConfusion) h
    exact poppingOf_congr (hsteady.states id)

/-! ## Turns -/

/-- A task takes a turn. -/
def Trades (w : World) (id : TaskId) (w' : World) : Prop :=
  Trade id w.stall w'.stall (w.poppingOf id) (w'.poppingOf id)

theorem trades_aside (was : w.poppingOf id = none) (stocking : Stocking w.stall w₁.stall)
    (goes : GoesAside id w₁ w') : Trades w id w' := by
  rw [Trades, was, goes.popping, goes.stall]
  exact .aside stocking rfl

/-- A task that does not wait for a message gets an answer and goes on with it. -/
theorem trades_answered (c : Config) {r : Request} {resume : World → r.Answer → World}
    (there : id < w.fresh) (was : w.stateOf id = some (.running activity wait))
    (plain : ∀ wait, (TaskState.running activity wait).popping? = none)
    (asks : activity.request? c = some r)
    (hturn : answered id (w.answer? id task activity wait r) resume = some w')
    (resumed : ∀ w₁ answer, w₁.poppingOf id = none → GoesAside id w₁ (resume w₁ answer)) :
    Trades w id w' := by
  have hwas := (poppingOf_of_stateOf was).trans (plain wait)
  have helsewhere := not_isOfPopping plain c r asks
  rcases answered_cases hturn with ⟨w₁, hanswer, rfl⟩ | ⟨w₁, answer, hanswer, rfl⟩
  · exact trades_aside hwas (stocking_of_answer helsewhere hanswer) (goesAside_finish ..)
  · have hstill := (poppingOf_of_answer there hanswer).trans hwas
    exact trades_aside hwas (stocking_of_answer helsewhere hanswer) (resumed w₁ answer hstill)

/-- A task begins to wait for a message. -/
theorem trades_looking {old : TaskState} (was : w.stateOf id = some old)
    (plain : old.popping? = none) {exchange : String} {deadline : Nat}
    (asks : ∀ c, activity.request? c = some (Popping.looking exchange deadline).request)
    (waits : ∀ wait, (TaskState.running activity wait).popping? =
      some (.looking exchange deadline)) : Trades w id (w.await id activity) := by
  obtain ⟨hstall, hnew⟩ := await_popping was activity asks waits
  rw [Trades, hstall, hnew, poppingOf_of_stateOf was, plain]
  exact .aside (.of_eq rfl) rfl

/-- A task begins with its action. -/
theorem trades_begin {action : Action}
    (was : w.stateOf id = some (.running (.acting action) wait)) :
    Trades w id (w.begin id action) := by
  have hwas : w.poppingOf id = none := poppingOf_of_stateOf was
  -- most actions that have to wait touch nothing before they do
  have hself (goes : GoesAside id w (w.begin id action)) : Trades w id (w.begin id action) :=
    trades_aside hwas (.of_eq rfl) goes
  have hatOnce : Trades w id (w.doAtOnce id action) := by
    unfold doAtOnce
    split
    · next reply w₁ hact =>
      exact trades_aside hwas (stocking_of_actAtOnce hact) (goesAside_finish ..)
    · exact trades_aside hwas (.of_eq rfl) (goesAside_finish ..)
  have hpipeline {next : Activity}
      (plain : ∀ wait, (TaskState.running next wait).popping? = none) :
      GoesAside id w (w.withPipeline id next) := by
    unfold withPipeline
    split
    · exact goesAside_finish ..
    · next pipeline _ =>
      split
      · next task htask =>
        have halike : w.Alike
            { w with tasks := w.tasks.put id { task with config := pipeline.config } } :=
          alike_put htask rfl
        exact (goesAside_await ((poppingOf_congr (halike.states id)).trans hwas) plain).after rfl
      · exact ⟨rfl, hwas⟩
  cases action with
  | pop exchange timeout =>
    exact trades_looking was rfl (fun _ => rfl) fun _ => rfl
  | serveForever exchange queue =>
    exact trades_looking was rfl (fun _ => rfl) fun _ => rfl
  | record | handle | build =>
    refine hself ?_
    simp only [begin]
    exact goesAside_await hwas fun _ => rfl
  | batch publisher signal | runPublisher publisher signal =>
    have halike := (w.alike_publisherOf publisher).trans (alike_watchFor _ id signal)
    have hsame := (stall_watchFor _ id signal).trans (w.stall_publisherOf publisher)
    refine hself ?_
    simp only [begin]
    exact .after (goesAside_await ((poppingOf_congr (halike.states id)).trans hwas) fun _ => rfl)
      hsame
  | runConsumer name signal =>
    refine hself ?_
    simp only [begin]
    split
    · exact goesAside_finish ..
    · have hstill := poppingOf_congr ((alike_watchFor
        { w with streamNames := w.streamNames.erase name } id signal).states id)
      exact .after (goesAside_await (hstill.trans hwas) fun _ => rfl) (stall_watchFor _ id signal)
  | next name timeout =>
    refine hself ?_
    simp only [begin]
    split
    · exact goesAside_finish ..
    · exact (goesAside_awaitUntil _ id timeout fun _ => rfl).after rfl
  | start => exact hself (hpipeline fun _ => rfl)
  | stop => exact hself (hpipeline fun _ => rfl)
  | shutDown => exact hself (hpipeline fun _ => rfl)
  | advance milliseconds => exact hself (goesAside_awaitUntil w id milliseconds fun _ => rfl)
  | join name =>
    refine hself ?_
    simp only [begin]
    split
    · exact goesAside_finish ..
    · exact goesAside_awaitUntil w id joinLimit fun _ => rfl
  | insert | insertMany | fetch | update | release | get | tally | failOperations | failUpdates
  | append | entriesOf | allEntries | historyIsEmpty | setReachable | reject | failPublications
  | ready | publish | deliver | serve | close | cut | subscribers | subscribe | unsubscribe
  | setSignal | dropSignal | setClock | script | spawn | isFinished | impossible => exact hatOnce

/-- A task looks at its exchange. -/
theorem trades_look {exchange : String} {deadline : Nat}
    {resume : World → (Request.take exchange).Answer → World}
    (was : w.poppingOf id = some (.looking exchange deadline))
    (hturn : answered id (w.answer? id task activity wait (.take exchange)) resume = some w')
    (found : ∀ w₁ p, w₁.stateOf id = w.stateOf id → (resume w₁ (some p)).stall = w₁.stall ∧
      ((resume w₁ (some p)).poppingOf id).all Popping.isLooking = true)
    (missed : ∀ w₁, w₁.stateOf id = w.stateOf id →
      (resume w₁ none).stall = w₁.stall.arrive id (.listening exchange deadline) ∧
        (resume w₁ none).poppingOf id = some (.listening exchange deadline)) :
    Trades w id w' := by
  unfold Trades
  rw [was]
  have hgiven : resume { w with broker := (w.broker.take exchange).2 }
      (w.broker.take exchange).1 = w' := Option.some.inj hturn
  obtain ⟨hempty, htake⟩ | ⟨p, broker, htake, hfound, hothers⟩ := take_cases w.broker exchange
  · rw [htake] at hgiven
    obtain ⟨hstall, hnew⟩ := missed w rfl
    subst hgiven
    rw [hstall, hnew]
    exact .listens hempty rfl rfl
  · rw [htake] at hgiven
    obtain ⟨hstall, hnew⟩ := found { w with broker } p rfl
    subst hgiven
    rw [hstall]
    exact .finds rfl hfound hothers hnew

/-- A task listens to the doorbell. -/
theorem trades_listen {exchange : String} {deadline : Nat}
    {resume : World → (Request.listen deadline).Answer → World}
    (was : w.poppingOf id = some (.listening exchange deadline))
    (hturn : answered id (w.answer? id task activity wait (.listen deadline)) resume = some w')
    (rang : ∀ w₁, w₁.stateOf id = w.stateOf id → (resume w₁ true).stall = w₁.stall ∧
      (resume w₁ true).poppingOf id = some (.looking exchange deadline))
    (late : ∀ w₁, w₁.stateOf id = w.stateOf id → (resume w₁ false).stall = w₁.stall ∧
      ((resume w₁ false).poppingOf id).all Popping.isLooking = true) :
    Trades w id w' := by
  unfold Trades
  rw [was]
  simp only [World.answer?] at hturn
  split at hturn
  · next hwoken =>
    obtain ⟨hstall, hnew⟩ := rang { w with doorbell := w.doorbell.goOn id } rfl
    cases hturn
    rw [hstall, hnew]
    exact .wakes hwoken rfl rfl
  · next hunwoken =>
    split at hturn
    · obtain ⟨hstall, hnew⟩ := late { w with doorbell := w.doorbell.leave id } rfl
      cases hturn
      rw [hstall]
      exact .leaves (Bool.eq_false_iff.mpr hunwoken) rfl rfl hnew
    · cases hturn

theorem trades_popping {s : Popping} (was : w.stateOf id = some (.running (.popping s) wait))
    (hturn : answered id (w.answer? id task (.popping s) wait s.request)
      (fun w answer => w.settle id .popping .publication (s.resume answer)) = some w') :
    Trades w id w' := by
  have hends (w₁ : World) (reply : Reply) : (w₁.finish id reply).stall = w₁.stall ∧
      ((w₁.finish id reply).poppingOf id).all Popping.isLooking = true := by
    obtain ⟨hstall, hnew⟩ := goesAside_finish w₁ id reply
    exact ⟨hstall, hnew ▸ rfl⟩
  have hgoes {w₁ : World} (s' : Popping) (same : w₁.stateOf id = w.stateOf id) :=
    await_popping (same.trans was) (.popping s') (fun _ => rfl) fun _ => rfl
  cases s with
  | looking exchange deadline =>
    exact trades_look (poppingOf_of_stateOf was) hturn (fun w₁ p _ => hends w₁ _)
      fun w₁ same => hgoes _ same
  | listening exchange deadline =>
    exact trades_listen (poppingOf_of_stateOf was) hturn (fun w₁ same => hgoes _ same)
      fun w₁ _ => hends w₁ _

theorem trades_serving {exchange queue : String} {served : Nat} {s : Popping}
    (was : w.stateOf id = some (.running (.serving exchange queue served s) wait))
    (hturn : answered id (w.answer? id task (.serving exchange queue served s) wait s.request)
      (fun w answer =>
        match (s.resume answer).progress with
        | .waiting s => w.await id (.serving exchange queue served s)
        | .finished p => w.serveNext id exchange queue served p) = some w') :
    Trades w id w' := by
  have hgoes {w₁ : World} (served' : Nat) (s' : Popping) (same : w₁.stateOf id = w.stateOf id) :=
    await_popping (same.trans was) (.serving exchange queue served' s') (fun _ => rfl) fun _ => rfl
  -- with a message or without, it looks again: what it delivers is no publication
  have hnext (w₁ : World) (p : Option Publication) (same : w₁.stateOf id = w.stateOf id) :
      (w₁.serveNext id exchange queue served p).stall = w₁.stall ∧
        ((w₁.serveNext id exchange queue served p).poppingOf id).all Popping.isLooking = true := by
    cases p with
    | none =>
      obtain ⟨hstall, hnew⟩ := hgoes served (.looking exchange (w₁.now + serveLimit)) same
      exact ⟨hstall, hnew ▸ rfl⟩
    | some p =>
      have hsame : ({ w₁ with
          broker := w₁.broker.deliver queue (servedReceipt (served + 1) p) } : World).stateOf id =
          w.stateOf id := same
      obtain ⟨hstall, hnew⟩ := hgoes (served + 1) (.looking exchange (w₁.now + serveLimit)) hsame
      exact ⟨hstall.trans (stall_of_eq (w₁.broker.exchanges_deliver ..) rfl), hnew ▸ rfl⟩
  cases s with
  | looking exchange' deadline =>
    exact trades_look (poppingOf_of_stateOf was) hturn (fun w₁ p same => hnext w₁ (some p) same)
      fun w₁ same => hgoes served _ same
  | listening exchange' deadline =>
    exact trades_listen (poppingOf_of_stateOf was) hturn (fun w₁ same => hgoes served _ same)
      fun w₁ same => hnext w₁ none same

/-- **What one turn does to the exchanges and the doorbell.** -/
theorem trades_of_turn (numbered : ∀ t, w.fresh ≤ t → w.stateOf t = none)
    (hturn : w.turn? id = some w') : Trades w id w' := by
  cases hget : w.tasks.get? id with
  | none => simp [turn?, hget] at hturn
  | some task =>
    have hwas : w.stateOf id = some task.state := by
      rw [stateOf, hget]
      rfl
    have hthere := lt_fresh_of_stateOf numbered hwas
    have hpopping := poppingOf_of_stateOf hwas
    obtain ⟨c, watch, state⟩ := task
    simp only [turn?, hget, Option.bind_eq_bind, Option.bind_some] at hturn
    simp only at hwas hpopping
    cases state with
    | ended => cases hturn
    | running activity wait =>
      cases activity with
      | acting action =>
        cases hturn
        exact trades_begin hwas
      | sleeping =>
        simp only at hturn
        split at hturn
        · cases hturn
          exact trades_aside hpopping (.of_eq rfl) (goesAside_finish ..)
        · cases hturn
      | awaiting name stream =>
        have hsame := (stall_nameStream { w with broker := (w.broker.receive stream).2 } name
          stream).trans (stall_of_eq (w.broker.exchanges_receive stream) rfl)
        have hdone (reply : Reply) := trades_aside hpopping (.of_eq hsame)
          (goesAside_finish _ id reply)
        simp only at hturn
        split at hturn
        · cases hturn
          exact hdone _
        · cases hturn
          exact hdone _
        · cases hturn
          exact hdone _
        · split at hturn
          · cases hturn
            exact hdone _
          · cases hturn
      | joining name other =>
        have hforgot : Stocking w.stall
            ({ w with taskNames := w.taskNames.erase name } : World).stall := .of_eq rfl
        simp only at hturn
        split at hturn
        · cases hturn
          exact trades_aside hpopping hforgot (goesAside_finish ..)
        · cases hturn
          exact trades_aside hpopping hforgot (goesAside_finish ..)
        · split at hturn
          · cases hturn
            exact trades_aside hpopping (.of_eq rfl) (goesAside_finish ..)
          · cases hturn
      | popping s => exact trades_popping hwas hturn
      | serving exchange queue served s => exact trades_serving hwas hturn
      | recording s =>
        exact trades_answered c hthere hwas (fun _ => rfl) rfl hturn
          fun w₁ _ hstill => goesAside_settle hstill (fun _ _ => rfl) _ _
      | handling s =>
        exact trades_answered c hthere hwas (fun _ => rfl) rfl hturn
          fun w₁ _ hstill => goesAside_settle hstill (fun _ _ => rfl) _ _
      | batching publisher s =>
        refine trades_answered c hthere hwas (fun _ => rfl) rfl hturn
          fun w₁ answer hstill => ?_
        have hcarried (carried : Table Nat (List Outcome)) :
            ({ w₁ with carried } : World).poppingOf id = none := hstill
        exact .after (goesAside_settle (hcarried _) (fun _ _ => rfl) _ _) rfl
      | publishing publisher s =>
        refine trades_answered c hthere hwas (fun _ => rfl) rfl hturn
          fun w₁ answer hstill => ?_
        have hcarried (carried : Table Nat (List Outcome)) :
            ({ w₁ with carried } : World).poppingOf id = none := hstill
        exact .after (goesAside_settle (hcarried _) (fun _ _ => rfl) _ _) rfl
      | consuming s =>
        exact trades_answered c hthere hwas (fun _ => rfl) rfl hturn
          fun w₁ _ hstill => goesAside_settle hstill (fun _ _ => rfl) _ _
      | building omitted =>
        exact trades_answered c hthere hwas (fun _ => rfl) rfl hturn fun w₁ _ _ =>
          (goesAside_finish _ id _).after (w₁.stall_build omitted)
      | starting s =>
        refine trades_answered c hthere hwas (fun _ => rfl) rfl hturn
          fun w₁ answer hstill => ?_
        have hput (roster : Roster) : (w₁.setRoster roster).poppingOf id = none := hstill
        exact .after (goesAside_settle (hput _) (fun _ _ => rfl) _ _) rfl
      | stopping s shutDown =>
        refine trades_answered c hthere hwas (fun _ => rfl) rfl hturn
          fun w₁ answer hstill => ?_
        have hput (roster : Roster) : (w₁.setRoster roster).poppingOf id = none := hstill
        exact .after (goesAside_settle (hput _) (fun _ _ => rfl) _ _) rfl

/-- A loop that hears from its subscription takes nothing from an exchange. -/
theorem trades_of_hear (numbered : ∀ t, w.fresh ≤ t → w.stateOf t = none)
    (hhear : w.hear? id = some w') : Trades w id w' := by
  simp only [hear?, Option.bind_eq_bind, Option.bind_eq_some_iff] at hhear
  obtain ⟨task, hget, hhear⟩ := hhear
  split at hhear
  · next stream wait hstate =>
    have hwas : w.stateOf id = some (.running (.consuming (.listening stream)) wait) := by
      rw [stateOf, hget, ← hstate]
      rfl
    refine trades_answered task.config (lt_fresh_of_stateOf numbered hwas) hwas
      (fun _ => rfl) rfl hhear fun w₁ _ hstill => ?_
    exact goesAside_settle hstill (fun _ _ => rfl) _ _
  · cases hhear

/-! ## Scenes -/

/-- Nobody else comes to wait for a message or ceases to. -/
theorem Passage.poppingOf {who : Option TaskId} (passage : Passage who w w')
    (numbered : ∀ t, w.fresh ≤ t → w.stateOf t = none) (t : TaskId) (other : who ≠ some t) :
    w'.poppingOf t = w.poppingOf t := by
  rcases Nat.lt_or_ge t w.fresh with hlt | hge
  · exact poppingOf_congr (passage.others t hlt other)
  · have hnone : w.poppingOf t = none := by
      rw [World.poppingOf, numbered t hge]
      rfl
    rw [hnone]
    cases hstate : w'.stateOf t with
    | none => rw [World.poppingOf, hstate]; rfl
    | some state =>
      rw [poppingOf_of_stateOf hstate]
      exact TaskState.popping?_of_isNew (passage.arrivals t state hge hstate).2

/-- **In every scene at most one task does something at the exchanges or the doorbell.** -/
theorem trades_of_happen {happening : Happening}
    (numbered : ∀ t, w.fresh ≤ t → w.stateOf t = none) (step : w.happen? happening = some w') :
    (w'.stall = w.stall ∧ ∀ t, w'.poppingOf t = w.poppingOf t) ∨
      ∃ id, Trades w id w' ∧ ∀ t, id ≠ t → w'.poppingOf t = w.poppingOf t := by
  have hpassage := (passage_of_happen numbered step).1
  have hothers := hpassage.poppingOf numbered
  cases happening with
  | turn id =>
    exact .inr ⟨id, trades_of_turn numbered step, fun t hne =>
      hothers t fun h => hne (Option.some.inj h)⟩
  | hear id =>
    exact .inr ⟨id, trades_of_hear numbered step, fun t hne =>
      hothers t fun h => hne (Option.some.inj h)⟩
  | forget id =>
    simp only [World.happen?] at step
    split at step
    · next hended =>
      cases step
      refine .inl ⟨rfl, fun t => ?_⟩
      by_cases heq : id = t
      · subst heq
        rw [poppingOf_of_not_live (not_live_of_ended hended)]
        exact poppingOf_of_not_live (not_live_of_gone (w.stateOf_forget id))
      · exact hothers t fun h => heq (Option.some.inj h)
    · cases step
  | begin | wait | note | takeTold =>
    cases step
    exact .inl ⟨rfl, fun t => hothers t (Option.some_ne_none t).symm⟩

end Stall

end World

end Rehearsal

end Outbox
