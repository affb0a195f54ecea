import Outbox.Proofs.Rehearsal.Call
/-!
# `Proofs.Rehearsal.Aside` — what the other tasks do

A task that is no call takes messages and delivers receipts, sets signals, waits for other tasks, or
starts and stops a pipeline. What it does to the broker can happen outside of the calls; when it
starts a loop, or begins with an action that is a call, a call starts. It does nothing to the
history, nothing to the calls that go on, and to the store no more than set a fault or use one up.
-/

namespace Outbox.Rehearsal

open Interplay

/-- A state of the rehearsal is shown after some steps, and a task is still no call. -/
def Beside (s : System) (id : TaskId) (w : World) : Prop :=
  ∃ trace s', Run s trace s' ∧ s'.calls.get? id = none ∧ Shows s' w

section Aside

variable {s : System} {w w' : World} {id : TaskId}

/-! ## Steps beside a task -/

theorem Shows.beside (h : Shows s w) (free : s.calls.get? id = none) : Beside s id w :=
  ⟨[], s, .nil, free, h⟩

theorem Beside.then (h : Beside s id w)
    (next : ∀ {s'}, s'.calls.get? id = none → Shows s' w → Follows s' w') : Follows s w' := by
  obtain ⟨first, mid, hfirst, hfree, hmid⟩ := h
  obtain ⟨later, last, hlater, hlast⟩ := next hfree hmid
  exact ⟨first ++ later, last, hfirst.append hlater, hlast⟩

theorem Beside.trans (h : Beside s id w)
    (next : ∀ {s'}, s'.calls.get? id = none → Shows s' w → Beside s' id w') : Beside s id w' := by
  obtain ⟨first, mid, hfirst, hfree, hmid⟩ := h
  obtain ⟨later, last, hlater, hlast, hshows⟩ := next hfree hmid
  exact ⟨first ++ later, last, hfirst.append hlater, hlast, hshows⟩

/-- What happens outside of the calls does not make a task a call. -/
theorem beside_of_outside {o : Outside} (allowed : s.allows o = true)
    (free : s.calls.get? id = none) (shows : Shows (s.apply o) w) : Beside s id w := by
  have hmove : s.perform? (.outside o) = some (.outside o, s.apply o) := if_pos allowed
  refine ⟨_, _, .cons ⟨.outside o, hmove⟩ .nil, ?_, shows⟩
  cases o <;> exact free

/-- The broker changes as it can outside of the calls. -/
theorem Shows.beside_of_broker (h : Shows s w) (free : s.calls.get? id = none) (o : Outside)
    (change : Broker → Broker) (allowed : s.allows o = true)
    (apply : s.apply o = { s with broker := change s.broker }) :
    Beside s id { w with broker := change w.broker } := by
  refine beside_of_outside allowed free ?_
  rw [apply, h.broker]
  exact h.onBroker _

/-- The store changes as it can outside of the calls. -/
theorem Shows.beside_of_store (h : Shows s w) (free : s.calls.get? id = none) (o : Outside)
    (change : Store → Store) (allowed : s.allows o = true)
    (apply : s.apply o = { s with store := change s.store }) :
    Beside s id { w with store := change w.store } := by
  refine beside_of_outside allowed free ?_
  rw [apply, h.store]
  exact h.onStore _

/-! ## Going on -/

/-- A task that is no call holds no subscription as a consumer's loop does. -/
theorem Shows.stream?_none (h : Shows s w) (free : s.calls.get? id = none) {task : Task}
    (get : w.tasks.get? id = some task) : task.state.stream? = none := by
  have hshown := h.tasks id
  rw [get, free] at hshown
  cases hshown with
  | ended => rfl
  | @aside c watch activity wait haside => cases activity <;> first | rfl | cases haside

/-- A task that is no call goes on to be none. -/
theorem Shows.setState (h : Shows s w) (free : s.calls.get? id = none) {state : TaskState}
    (shown : ∀ c watch, Shown (some ⟨c, watch, state⟩) none) : Shows s (w.setState id state) := by
  cases hget : w.tasks.get? id with
  | none =>
    rw [World.setState, hget]
    exact h
  | some task =>
    rw [w.setState_of_get hget, h.stream?_none free hget]
    refine h.replace (h.lt_fresh hget) ?_ (h.taskHasRoom id task hget)
    rw [free]
    exact shown _ _

theorem Shows.finish (h : Shows s w) (free : s.calls.get? id = none) (reply : Reply) :
    Shows s (w.finish id reply) :=
  h.setState free fun _ _ => .ended

theorem Shows.await (h : Shows s w) (free : s.calls.get? id = none) {activity : Activity}
    (aside : activity.isAside = true) : Shows s (w.await id activity) := by
  unfold World.await
  split
  · exact h
  · next r hr =>
    obtain ⟨-, -, harrived⟩ := h.arrive id r
    exact harrived.setState free fun _ _ => .aside aside

theorem Shows.awaitUntil (h : Shows s w) (free : s.calls.get? id = none) {activity : Activity}
    (aside : activity.isAside = true) (milliseconds : Nat) :
    Shows s (w.awaitUntil id activity milliseconds) :=
  h.takeFresh.setState free fun _ _ => .aside aside

theorem Shows.settleAside {σ α : Type} (h : Shows s w) (free : s.calls.get? id = none)
    {wrap : σ → Activity} (aside : ∀ state, (wrap state).isAside = true) (reply : α → Reply)
    (turn : Turn σ α) : Shows s (w.settle id wrap reply turn) := by
  have htold := h.tell turn.notices
  unfold World.settle
  cases turn.progress with
  | waiting state => exact htold.await free (aside state)
  | finished outcome => exact htold.finish free (reply outcome)

/-! ## New tasks -/

/-- A number that nothing has is not that of a call. -/
theorem Shows.fresh_free (h : Shows s w) : s.calls.get? w.fresh = none := by
  have hshown := h.tasks w.fresh
  rw [h.fresh w.fresh (Nat.le_refl _)] at hshown
  generalize s.calls.get? w.fresh = call? at hshown
  cases hshown
  rfl

/-- A task is added of which nothing is shown. -/
theorem Shows.addHidden (h : Shows s w) {task : Task} (hidden : Shown (some task) none)
    (hasRoom : task.config.HasRoom) :
    Shows s { w with tasks := w.tasks.put w.fresh task, fresh := w.fresh + 1 } := by
  rw [← h.fresh_free] at hidden
  exact h.takeFresh.replace (Nat.lt_succ_self w.fresh) hidden hasRoom

/-- A task is added that is no call. -/
theorem Shows.addAside (h : Shows s w) {c : Config} (hasRoom : c.HasRoom) (watch : Option Watch)
    {activity : Activity} (aside : activity.isAside = true) :
    Shows s (w.addTask c watch activity).2 :=
  h.addHidden (.aside aside) hasRoom

theorem lasts_begin (since : Nat) (wait : Wait) (c : Config) (job : Job) :
    Lasts since wait (job.begin.request c) := by
  cases job <;> trivial

/-- A task is added that is a call. -/
theorem Shows.addCall (h : Shows s w) (free : s.calls.get? id = none) (other : id < w.fresh)
    {c : Config} (hasRoom : c.HasRoom) (watch : Option Watch) (job : Job) :
    Beside s id (w.addTask c watch (.ofWork job.begin)).2 := by
  have hmove : s.perform? (.start w.fresh c job) =
      some (.start w.fresh c job,
        { s with calls := s.calls.put w.fresh ⟨c, job.begin, s.now⟩ }) := by
    simp [System.perform?, Table.contains, h.fresh_free]
  refine ⟨_, _, .cons ⟨_, hmove⟩ .nil, ?_, ?_⟩
  · rw [Table.get?_put, if_neg (Nat.ne_of_gt other)]
    exact free
  · exact h.takeFresh.put (Nat.lt_succ_self w.fresh) (.call rfl (lasts_begin ..)) hasRoom
      (Table.nodup_put h.nodup ..) fun t => Table.get?_put ..

/-- A task that is no call begins one. -/
theorem Shows.begin (h : Shows s w) (free : s.calls.get? id = none) {task : Task}
    (get : w.tasks.get? id = some task) (job : Job) :
    Follows s (w.await id (.ofWork job.begin)) := by
  obtain ⟨c, watch, state⟩ := task
  obtain ⟨hmild, hlasts, harrived⟩ := h.arrive id (job.begin.request c)
  have hstill : (w.arrive id (job.begin.request c)).2.tasks.get? id = some ⟨c, watch, state⟩ := by
    rw [World.tasks_arrive]
    exact get
  have hmove : s.perform? (.start id c job) =
      some (.start id c job, { s with calls := s.calls.put id ⟨c, job.begin, s.now⟩ }) := by
    simp [System.perform?, Table.contains, free]
  refine follows_of_move hmove ?_
  rw [w.await_ofWork get, World.setState_of_get _ hstill, harrived.stream?_none free hstill]
  have hroom : c.HasRoom := h.taskHasRoom id _ get
  exact harrived.put (harrived.lt_fresh hstill) (.call hmild hlasts) hroom
    (Table.nodup_put h.nodup ..) fun t => Table.get?_put ..

/-! ## Answers -/

/-- Whether a request is one that tasks make that are no calls. -/
def isOfOthers : Request → Bool
  | .enter | .ready | .subscribe _ | .take _ | .listen _ | .launch .. | .halt _ | .join _ => true
  | .proceed | .fetch _ | .update .. | .release _ | .append _ | .publish .. | .sleep _ | .pause _
  | .receive _ => false

/-- A loop is set going. -/
theorem Shows.launchLoop (h : Shows s w) (free : s.calls.get? id = none) (old : id < w.fresh)
    {pipeline : Pipeline} (hasRoom : pipeline.config.HasRoom) (job : Job) :
    Beside s id (World.launch.launchLoop w pipeline (.ofWork job.begin)).2 := by
  have hsignal : Shows s w.addSignal.2 := { h.takeFresh with }
  exact hsignal.addCall free (Nat.lt_succ_of_lt old) hasRoom _ job

theorem Shows.launch (h : Shows s w) (free : s.calls.get? id = none) (old : id < w.fresh)
    (publisher : Bool) (consumer : Option StreamId) :
    Beside s id (w.launch publisher consumer).2 := by
  unfold World.launch
  split
  · exact h.beside free
  · next pipeline hpipeline =>
    have hroom := h.pipelineHasRoom pipeline hpipeline
    have hfirst := h.launchLoop free old hroom (.publish pipeline.publisher)
    cases publisher with
    | true =>
      cases consumer with
      | none => exact hfirst
      | some stream =>
        refine hfirst.trans fun free' h' => ?_
        -- two numbers have been given out since
        have hold : id < w.fresh + 2 := Nat.lt_add_right 2 old
        exact h'.launchLoop free' hold hroom (.consume stream)
    | false =>
      cases consumer with
      | none => exact h.beside free
      | some stream => exact h.launchLoop free old hroom (.consume stream)

/-- What a task that is no call is answered changes nothing but what may change outside of the
calls, and starts calls. -/
theorem beside_of_answer? (h : Shows s w) (free : s.calls.get? id = none) (old : id < w.fresh)
    {task : Task} {activity : Activity} {wait : Wait} {r : Request} {answer? : Option r.Answer}
    (hr : isOfOthers r = true)
    (hanswer : w.answer? id task activity wait r = some (w', answer?)) : Beside s id w' := by
  cases r with
  | enter =>
    simp only [World.answer?] at hanswer
    split at hanswer
    · cases hanswer
      exact h.beside free
    · cases hanswer
  | ready =>
    simp only [World.answer?] at hanswer
    rcases world_of_call hanswer with rfl | rfl <;> exact h.beside free
  | subscribe queue =>
    simp only [World.answer?] at hanswer
    rcases world_of_call hanswer with rfl | rfl
    · exact h.beside free
    · exact h.beside_of_broker free (.subscribe queue) (fun b => (b.subscribe queue).2) rfl rfl
  | take exchange =>
    cases hanswer
    exact h.beside_of_broker free (.take exchange) (fun b => (b.take exchange).2) rfl rfl
  | listen deadline =>
    simp only [World.answer?] at hanswer
    split at hanswer
    · cases hanswer
      exact Shows.beside { h with } free
    · split at hanswer
      · cases hanswer
        exact Shows.beside { h with } free
      · cases hanswer
  | launch publisher consumer =>
    cases hanswer
    exact h.launch free old publisher consumer
  | halt loops =>
    cases hanswer
    refine Shows.beside ?_ free
    exact List.foldlRecOn loops _ h fun w' h' loop _ => (h'.changeSignal ..).wake _
  | join loop =>
    obtain ⟨ending, -, hending⟩ := Option.map_eq_some_iff.mp hanswer
    cases hending
    exact h.beside free
  | proceed | fetch | update | release | append | publish | sleep | pause | receive => cases hr

/-! ## Actions -/

theorem Shows.signalOf (h : Shows s w) (name : Name) :
    Shows s (w.signalOf name).2 ∧ (w.signalOf name).2.tasks = w.tasks := by
  unfold World.signalOf
  split
  · exact ⟨h, rfl⟩
  · exact ⟨{ h.takeFresh with }, rfl⟩

theorem Shows.publisherOf (h : Shows s w) (name : Name) :
    Shows s (w.publisherOf name).2 ∧ (w.publisherOf name).2.tasks = w.tasks := by
  unfold World.publisherOf
  split
  · exact ⟨h, rfl⟩
  · exact ⟨{ h.takeFresh with }, rfl⟩

/-- A task that watches a signal is there, and as much a call as before. -/
theorem Shows.watchFor (h : Shows s w) {task : Task} (get : w.tasks.get? id = some task)
    (signal : Name) :
    Shows s (w.watchFor id signal) ∧ ∃ task, (w.watchFor id signal).tasks.get? id = some task := by
  obtain ⟨hwatch, htasks⟩ := h.signalOf signal
  change Shows s (w.watch signal).2 at hwatch
  have hget : (w.watch signal).2.tasks.get? id = some task := by
    rw [← get, ← htasks]
    rfl
  have hshown := hwatch.tasks id
  rw [hget] at hshown
  have hreplaced := hwatch.replace (hwatch.lt_fresh hget)
    (hshown.watching (some (w.watch signal).1)) (h.taskHasRoom id task get)
  simp only [World.watchFor, hget]
  exact ⟨hreplaced, _, (Table.get?_put ..).trans (if_pos rfl)⟩

theorem Shows.nameStream (h : Shows s w) (free : s.calls.get? id = none) (name : Name)
    (stream : StreamId) : Beside s id (w.nameStream name stream) := by
  simp only [World.nameStream]
  split
  · next old hold =>
    have hdropped := h.beside_of_broker free (.unsubscribe old) (·.drop old) rfl rfl
    exact hdropped.trans fun free' h' => Shows.beside { h' with } free'
  · exact Shows.beside { h with } free

theorem Shows.serve (h : Shows s w) (free : s.calls.get? id = none) (failing : List MessageId)
    (detail exchange queue : String) (n : Nat) :
    Beside s id (w.serve failing detail exchange queue n).2 := by
  induction n generalizing s w with
  | zero => exact h.beside free
  | succ n ih =>
    have htaken :=
      h.beside_of_broker free (.take exchange) (fun b => (b.take exchange).2) rfl rfl
    unfold World.serve
    generalize w.broker.take exchange = taken at htaken
    obtain ⟨p?, broker⟩ := taken
    cases p? with
    | none => exact htaken
    | some p =>
      refine htaken.trans fun free' h' => ?_
      let r : Receipt :=
        if failing.contains p.messageId then .failed p.messageId detail else .delivered p.messageId
      have hdelivered := h'.beside_of_broker free' (.deliver queue r) (·.deliver queue r) rfl rfl
      exact hdelivered.trans fun free'' h'' => ih h'' free''

/-- Somebody looks into the store, which uses up a fault that was set. -/
theorem Shows.look {α : Type} (h : Shows s w) (free : s.calls.get? id = none) (reply : α → Reply)
    {operation : Store → Except StoreFailure α × Store}
    (look : ∀ store, (operation store).2 = store.tally.2) :
    Beside s id (w.onStore reply operation).2 := by
  have hlooked := h.beside_of_store free .look (fun store => store.tally.2) rfl rfl
  show Beside s id { w with store := (operation w.store).2 }
  rw [look]
  exact hlooked

/-- An action that is done at once happens outside of the calls. -/
theorem beside_of_actAtOnce? (h : Shows s w) (free : s.calls.get? id = none) {action : Action}
    {reply : Reply} (orderly : action.isOrderly = true)
    (hact : w.actAtOnce? action = some (reply, w')) : Beside s id w' := by
  cases action with
  | get message =>
    have hsame (store : Store) : (store.get message).2 = store.tally.2 := by
      simp only [Store.get, Store.tally, Store.attempt]
      split <;> rfl
    have hlooked := h.look free .message hsame
    cases hact
    exact hlooked
  | tally =>
    cases hact
    exact h.look free .tally fun _ => rfl
  | failOperations n =>
    cases hact
    exact h.beside_of_store free (.failOperations n) (·.failOperations n) rfl rfl
  | failUpdates n =>
    cases hact
    exact h.beside_of_store free (.failUpdates n) (·.failUpdates n) rfl rfl
  | setReachable reachable =>
    cases hact
    exact h.beside_of_broker free (.setReachable reachable) (·.setReachable reachable) rfl rfl
  | reject message =>
    cases hact
    exact h.beside_of_broker free (.reject message) (·.reject message) rfl rfl
  | failPublications n =>
    cases hact
    exact h.beside_of_broker free (.failPublications n) (·.failPublications n) rfl rfl
  | deliver r queue =>
    cases hact
    exact h.beside_of_broker free (.deliver _ r) (·.deliver _ r) rfl rfl
  | close queue =>
    cases hact
    exact h.beside_of_broker free (.close _) (·.close _) rfl rfl
  | cut reason queue =>
    cases hact
    exact h.beside_of_broker free (.cut _ reason) (·.cut _ reason) rfl rfl
  | serve n failing detail exchange queue =>
    cases hact
    exact h.serve free ..
  | subscribe name queue =>
    have hsubscribed := h.beside_of_broker free (.subscribe (queue.getD w.config.receiptQueue))
      (fun b => (b.subscribe (queue.getD w.config.receiptQueue)).2) rfl rfl
    simp only [World.actAtOnce?] at hact
    split at hact
    all_goals
      next hanswer =>
        cases hact
        rw [hanswer] at hsubscribed
        first
        | exact hsubscribed
        | exact hsubscribed.trans fun free' h' => h'.nameStream free' name _
  | unsubscribe name =>
    simp only [World.actAtOnce?] at hact
    split at hact
    · cases hact
      exact h.beside free
    · next stream hstream =>
      cases hact
      have hdropped := h.beside_of_broker free (.unsubscribe stream) (·.drop stream) rfl rfl
      exact hdropped.trans fun free' h' => Shows.beside { h' with } free'
  | setSignal name value =>
    cases hact
    exact ((h.signalOf name).1.changeSignal ..).beside free
  | dropSignal name =>
    simp only [World.actAtOnce?] at hact
    split at hact
    · cases hact
      exact h.beside free
    · next signal hsignal =>
      cases hact
      exact Shows.beside { h.changeSignal signal Signal.giveUp with } free
  | setClock milliseconds =>
    cases hact
    exact Shows.beside { h with } free
  | script target interferences =>
    cases hact
    refine Shows.beside { h with scripts := fun other i hi => ?_ } free
    change i ∈ (w.scripts.put target interferences).getD other [] at hi
    rw [Table.getD, Table.get?_put] at hi
    split at hi
    · exact List.all_eq_true.mp orderly i hi
    · exact h.scripts other i hi
  | spawn name action =>
    cases hact
    have haside : (Activity.acting action).isAside = true := orderly
    have hadded := h.addAside h.hasRoom none haside
    exact Shows.beside { hadded with } free
  | isFinished name =>
    simp only [World.actAtOnce?] at hact
    split at hact <;> cases hact <;> exact h.beside free
  | insert | insertMany | fetch | update | release | append | publish | next => cases orderly
  | entriesOf | allEntries | historyIsEmpty | ready | subscribers =>
    cases hact
    exact h.beside free
  | pop | serveForever | record | batch | runPublisher | handle | runConsumer | build | start | stop
  | shutDown | advance | join | impossible => cases hact

theorem Shows.withPipeline (h : Shows s w) (free : s.calls.get? id = none) {activity : Activity}
    (aside : activity.isAside = true) : Shows s (w.withPipeline id activity) := by
  unfold World.withPipeline
  split
  · exact h.finish free .refused
  · next pipeline hpipeline =>
    split
    · next task htask =>
      have hshown := h.tasks id
      rw [htask, free] at hshown
      have hconfigured : Shown (some { task with config := pipeline.config }) none := by
        cases hshown with
        | ended => exact .ended
        | aside haside => exact .aside haside
      rw [← free] at hconfigured
      have hroom := h.pipelineHasRoom pipeline hpipeline
      exact (h.replace (h.lt_fresh htask) hconfigured hroom).await free aside
    · exact h

/-- A task begins with an action that needs no waiting, or that cannot be taken. -/
def World.doAtOnce (w : World) (id : TaskId) (action : Action) : World :=
  match w.actAtOnce? action with
  | some (reply, w) => w.finish id reply
  | none => w.finish id .refused

/-- **A task that begins with an orderly action does what can happen outside of the calls, or starts
a call.** -/
theorem follows_of_begin (h : Shows s w) (free : s.calls.get? id = none) {task : Task}
    (get : w.tasks.get? id = some task) {action : Action} (orderly : action.isOrderly = true) :
    Follows s (w.begin id action) := by
  have atOnce : Follows s (w.doAtOnce id action) := by
    unfold World.doAtOnce
    split
    · next reply w' hact =>
      have hbeside := beside_of_actAtOnce? h free orderly hact
      exact hbeside.then fun free' h' => (h'.finish free' reply).follows
    · exact (h.finish free .refused).follows
  cases action with
  | pop exchange timeout => exact (h.await free rfl).follows
  | serveForever exchange queue => exact (h.await free rfl).follows
  | record outcome => exact h.begin free get (.record outcome)
  | handle r => exact h.begin free get (.handle r)
  | batch publisher signal =>
    obtain ⟨hnamed, htasks⟩ := h.publisherOf publisher
    obtain ⟨hwatching, task', hget⟩ := hnamed.watchFor (htasks ▸ get) signal
    exact hwatching.begin free hget (.batch _)
  | runPublisher publisher signal =>
    obtain ⟨hnamed, htasks⟩ := h.publisherOf publisher
    obtain ⟨hwatching, task', hget⟩ := hnamed.watchFor (htasks ▸ get) signal
    exact hwatching.begin free hget (.publish _)
  | runConsumer name signal =>
    simp only [World.begin]
    split
    · exact (h.finish free .refused).follows
    · next stream hstream =>
      have hforgot : Shows s { w with streamNames := w.streamNames.erase name } := { h with }
      obtain ⟨hwatching, task', hget⟩ := hforgot.watchFor get signal
      exact hwatching.begin free hget (.consume stream)
  | build omitted => exact (h.await free rfl).follows
  | start => exact (h.withPipeline free rfl).follows
  | stop choice => exact (h.withPipeline free rfl).follows
  | shutDown => exact (h.withPipeline free rfl).follows
  | advance milliseconds => exact (h.awaitUntil free rfl milliseconds).follows
  | join name =>
    simp only [World.begin]
    split
    · exact (h.finish free .refused).follows
    · exact (h.awaitUntil free rfl _).follows
  | next => cases orderly
  | _ => exact atOnce

/-! ## Turns -/

/-- A task that is no call goes on to the answer of its request. -/
theorem follows_of_answered (h : Shows s w) (free : s.calls.get? id = none) (old : id < w.fresh)
    {task : Task} {activity : Activity} {wait : Wait} {r : Request}
    {resume : World → r.Answer → World} (hr : isOfOthers r = true)
    (hturn : World.answered id (w.answer? id task activity wait r) resume = some w')
    (next : ∀ {s' w'} (answer : r.Answer), s'.calls.get? id = none → Shows s' w' →
      Follows s' (resume w' answer)) : Follows s w' := by
  rw [World.answered, Option.map_eq_some_iff] at hturn
  obtain ⟨⟨answered, answer?⟩, hanswer, rfl⟩ := hturn
  refine (beside_of_answer? h free old hr hanswer).then fun free' h' => ?_
  cases answer? with
  | none => exact (h'.finish free' .crashed).follows
  | some answer => exact next answer free' h'

theorem isOfOthers_popping (s : Popping) : isOfOthers s.request = true := by
  cases s <;> rfl

theorem isOfOthers_starting (c : Config) (s : Starting) : isOfOthers (s.request c) = true := by
  cases s <;> rfl

theorem isOfOthers_stopping (s : Stopping) : isOfOthers s.request = true := by
  cases s <;> rfl

/-- A pipeline has the settings that it was put together from, or else the usual ones. -/
theorem eq_of_build {a : Assembly} {c : Config} (h : a.build = .ok c) :
    c = a.config.getD .default := by
  simp only [Assembly.build, bind, Except.bind] at h
  repeat' split at h
  all_goals
    cases h
  rfl

theorem Shows.build (h : Shows s w) (omitted : List Part) : Shows s (w.build omitted).2 := by
  simp only [World.build]
  split
  · exact h
  · next c hassembly =>
    have hgiven (loops : List Launched) : Shows s
        (loops.foldl (fun w loop => w.changeSignal loop.signal Signal.giveUp) w) :=
      List.foldlRecOn loops _ h fun w' h' loop _ => h'.changeSignal ..
    refine { (hgiven _).takeFresh with pipelineHasRoom := ?_ }
    rintro _ ⟨⟩
    rw [eq_of_build hassembly]
    split
    · exact show Config.default.batchSize ≤ Store.room by decide
    · exact h.hasRoom

theorem Shows.setRoster (h : Shows s w) (roster : Roster) : Shows s (w.setRoster roster) := by
  refine { h with pipelineHasRoom := fun pipeline hpipeline => ?_ }
  obtain ⟨old, hold, rfl⟩ := Option.map_eq_some_iff.mp hpipeline
  exact h.pipelineHasRoom old hold

/-- Who serves without end takes a message and delivers a receipt for it. -/
theorem follows_of_serveNext (h : Shows s w) (free : s.calls.get? id = none)
    (exchange queue : String) (served : Nat) (p? : Option Publication) :
    Follows s (w.serveNext id exchange queue served p?) := by
  cases p? with
  | none => exact (h.await free rfl).follows
  | some p =>
    let r := World.servedReceipt (served + 1) p
    have hdelivered := h.beside_of_broker free (.deliver queue r) (·.deliver queue r) rfl rfl
    exact hdelivered.then fun free' h' => (h'.await free' rfl).follows

/-- **A turn of a task that is no call can happen outside of the calls, but for the calls that it
starts.** -/
theorem follows_of_aside (h : Shows s w) (free : s.calls.get? id = none)
    (hturn : w.turn? id = some w') : Follows s w' := by
  cases hget : w.tasks.get? id with
  | none =>
    simp [World.turn?, hget] at hturn
  | some task =>
    have hshown := h.tasks id
    have hold := h.lt_fresh hget
    rw [hget, free] at hshown
    simp only [World.turn?, hget, Option.bind_eq_bind, Option.bind_some] at hturn
    cases hshown with
    | ended => cases hturn
    | @aside c watch activity wait haside =>
      cases activity with
      | acting action =>
        cases hturn
        exact follows_of_begin h free hget haside
      | sleeping =>
        simp only at hturn
        split at hturn
        · cases hturn
          exact (h.finish free .done).follows
        · cases hturn
      | joining name other =>
        have hforgot : Shows s { w with taskNames := w.taskNames.erase name } := { h with }
        simp only at hturn
        split at hturn
        · cases hturn
          exact (hforgot.finish free .crashed).follows
        · cases hturn
          exact (hforgot.finish free _).follows
        · split at hturn
          · cases hturn
            exact (h.finish free .timedOut).follows
          · cases hturn
      | popping s =>
        refine follows_of_answered h free hold (isOfOthers_popping s) hturn
          fun answer free' h' => ?_
        exact (h'.settleAside free' (fun _ => rfl) _ _).follows
      | serving exchange queue served s =>
        refine follows_of_answered h free hold (isOfOthers_popping s) hturn
          fun answer free' h' => ?_
        split
        · exact (h'.await free' rfl).follows
        · exact follows_of_serveNext h' free' ..
      | building omitted =>
        refine follows_of_answered h free hold rfl hturn fun answer free' h' => ?_
        exact ((h'.build omitted).finish free' _).follows
      | starting s =>
        refine follows_of_answered h free hold (isOfOthers_starting c s) hturn
          fun answer free' h' => ?_
        exact ((h'.setRoster _).settleAside free' (fun _ => rfl) _ _).follows
      | stopping s shutDown =>
        refine follows_of_answered h free hold (isOfOthers_stopping s) hturn
          fun answer free' h' => ?_
        exact ((h'.setRoster _).settleAside free' (fun _ => rfl) _ _).follows
      | awaiting | recording | handling | consuming | batching | publishing => cases haside

end Aside

end Outbox.Rehearsal
