import Outbox.Proofs.Interplay.Stint
import Outbox.Proofs.Rehearsal.Onward
/-!
# `Proofs.Rehearsal.Going` — how a task goes on

A task at a call goes on by the answer to its request: `Resumed` says what the process makes of the
answer, and what the answer and the turn do to the history, to the carried outcomes and to what the
task has seen of its signal. Of the other tasks it is enough to know that they leave what publishers
carry alone, and that none of them is at once in the middle of a loop or of a batch.
-/

namespace Outbox.Rehearsal

open Interplay

/-! ## Views -/

namespace TaskState

/-- Whether a task runs a loop or a batch and has taken its first turn with it. -/
def hasBegun : TaskState → Bool
  | .running (.publishing _ .starting) _ | .running (.consuming (.starting _)) _
  | .running (.batching _ .opening) _ => false
  | .running (.publishing ..) _ | .running (.consuming _) _ | .running (.batching ..) _ => true
  | _ => false

/-- Who comes into being has begun neither a loop nor a batch. -/
theorem not_begun_of_isNew {state : TaskState} (h : state.isNew = true) :
    state.hasBegun = false := by
  unfold isNew at h
  split at h <;> first | rfl | cases h

end TaskState

namespace World

theorem stateOf_of_get {w : World} {t : TaskId} {task : Task}
    (get : w.tasks.get? t = some task) : w.stateOf t = some task.state := by
  rw [stateOf, get, Option.map_some]

/-- The carried outcomes that a call works with. -/
def carriedFor (w : World) (work : Work) : List Outcome :=
  match work.publisher? with
  | some publisher => w.carried.getD publisher []
  | none => []

end World

/-- Whether what a task does is neither a loop nor has to do with carried outcomes. -/
def Activity.isPlain : Activity → Bool
  | .batching .. | .publishing .. | .consuming _ => false
  | _ => true

/-! ## Answers -/

/-- Whether an answer came by way of the signal. -/
def IsSignalled : (r : Request) → r.Answer → Prop
  | .pause _, _ => True
  | .receive _, answer => ∃ givenUp, (answer : Heard) = .signal givenUp
  | _, _ => False

/-- Who pauses is told whether its signal halts it. -/
def Heeds (halt : Bool) : (r : Request) → r.Answer → Prop
  | .pause _, answer => (answer : Bool) = halt
  | _, _ => True

/-- Who fetches gets what the store has for them, or else nothing is claimed. -/
def Fetches (w w' : World) : (r : Request) → r.Answer → Prop
  | .fetch limit, answer =>
    match (answer : Except StoreFailure (List Message)) with
    | .ok batch => (w.store.fetch limit).1 = .ok batch
    | .error _ => w'.store.claimed = w.store.claimed
  | _, _ => True

namespace World

/-- Whether the signal that a task watches tells it to stop if it has waited. -/
def halts (w : World) (task : Task) : Bool :=
  task.watch.any fun watch => (w.signal watch.signal).halts watch.seen

/-- A task whose watch has seen what its signal says now. -/
def seen (w : World) (task : Task) : Task :=
  { task with
    watch := task.watch.map fun watch =>
      { watch with seen := (w.signal watch.signal).version } }

/-- What the answer to a call comes with. -/
structure Gives (w : World) (t : TaskId) (task : Task) (r : Request) (answer : r.Answer)
    (w₁ : World) : Prop where
  signals : w₁.signals = w.signals
  carried : w₁.carried = w.carried
  told : w₁.told = w.told
  history : w₁.history = (r.appended? answer).elim w.history w.history.append
  heeds : Heeds (w.halts task) r answer
  fetches : Fetches w w₁ r answer
  watch : w₁.tasks = w.tasks ∨
    IsSignalled r answer ∧ w₁.tasks = w.tasks.put t (w.seen task)

section Answers

variable {w w' w₁ : World} {t : TaskId} {task : Task} {activity : Activity} {wait : Wait}

/-- A call that is not answered crashes its caller, and does nothing else. -/
theorem crash_of_answer {r : Request} (hr : isOfCall r = true)
    (h : w.answer? t task activity wait r = some (w₁, none)) : w₁ = w := by
  have hcall {ε α : Type} {fault : Fault → Option ε}
      {operation : World → Option (Except ε α × World)}
      (h : w.callOrCrash wait fault operation = some (w₁, none)) : w₁ = w := by
    rcases callOrCrash_cases h with ⟨-, -, rfl⟩ | ⟨_, _, -, -, hgiven, -⟩ | ⟨_, -, hgiven⟩
    · rfl
    · cases hgiven
    · cases hgiven
  cases r with
  | proceed => cases h
  | enter | sleep =>
    simp only [World.answer?] at h
    split at h <;> cases h
  | fetch | update | release | append | publish | subscribe =>
    simp only [World.answer?] at h
    exact hcall h
  | pause =>
    simp only [World.answer?] at h
    split at h <;> split at h <;> cases h
  | receive =>
    simp only [World.answer?] at h
    split at h
    · cases h
    · split at h <;> cases h
  | ready | take | listen | launch | halt | join => cases hr

/-- Who has its answer to a request to enter may enter. -/
theorem mayEnter_of_answer {r : Request} (enters : r = .enter)
    (h : (w.answer? t task activity wait r).isSome = true) :
    w.mayEnter t activity wait = true := by
  subst enters
  simp only [World.answer?] at h
  split at h
  · assumption
  · cases h

/-- A fetch that fails claims nothing. -/
theorem claimed_of_fetch {s : Store} {limit : Nat} {failure : StoreFailure}
    (h : (s.fetch limit).1 = .error failure) : (s.fetch limit).2.claimed = s.claimed := by
  have hfetch : s.fetch limit = (.error failure, (s.fetch limit).2) := by
    rw [← h]
  rcases Store.attempt_cases hfetch with ⟨_, -, hsame⟩ | hclaims
  · exact hsame.claimed
  · cases hclaims

/-- What a call of the store or the broker gives, if it changes nothing else. -/
theorem gives_of_call {r : Request} {answer : r.Answer} (signals : w₁.signals = w.signals)
    (carried : w₁.carried = w.carried) (told : w₁.told = w.told) (tasks : w₁.tasks = w.tasks)
    (history : w₁.history = (r.appended? answer).elim w.history w.history.append)
    (fetches : Fetches w w₁ r answer) (plain : ∀ halt, Heeds halt r answer) :
    Gives w t task r answer w₁ where
  signals
  carried
  told
  history
  heeds := plain _
  fetches
  watch := .inl tasks

/-- **What an answer comes with.** -/
theorem gives_of_answer {r : Request} {answer : r.Answer} (hr : isOfCall r = true)
    (get : w.tasks.get? t = some task)
    (h : w.answer? t task activity wait r = some (w₁, some answer)) :
    Gives w t task r answer w₁ := by
  have hcall {ε α : Type} {fault : Fault → Option ε} {operation : World → Except ε α × World}
      {answer : Except ε α} (h : w.call wait fault operation = some (w₁, some answer)) :
      (∃ failure, answer = .error failure ∧ w₁ = w) ∨ operation w = (answer, w₁) := by
    rcases call_cases h with ⟨-, hgiven, -⟩ | ⟨_, failure, -, -, hgiven, rfl⟩ | ⟨_, hdone, hgiven⟩
    · cases hgiven
    · cases hgiven
      exact .inl ⟨failure, rfl, rfl⟩
    · cases hgiven
      exact .inr hdone
  cases r with
  | proceed =>
    cases h
    exact gives_of_call rfl rfl rfl rfl rfl trivial fun _ => trivial
  | enter | sleep =>
    simp only [World.answer?] at h
    split at h <;> cases h
    exact gives_of_call rfl rfl rfl rfl rfl trivial fun _ => trivial
  | fetch limit =>
    rcases fetch_cases h with ⟨-, hgiven, -⟩ | ⟨_, failure, -, -, hgiven, rfl⟩ | ⟨hgiven, rfl⟩
    · cases hgiven
    · cases hgiven
      exact gives_of_call rfl rfl rfl rfl rfl rfl fun _ => trivial
    · have hanswer : (w.store.fetch limit).1 = answer := (Option.some.inj hgiven).symm
      refine gives_of_call rfl rfl rfl rfl rfl ?_ fun _ => trivial
      change Except StoreFailure (List Message) at answer
      cases answer with
      | ok batch => exact hanswer
      | error failure => exact claimed_of_fetch hanswer
  | update message status =>
    simp only [World.answer?] at h
    rcases hcall h with ⟨failure, rfl, rfl⟩ | hdone
    · exact gives_of_call rfl rfl rfl rfl rfl trivial fun _ => trivial
    · unfold update at hdone
      split at hdone <;> cases hdone <;>
        exact gives_of_call rfl rfl rfl rfl rfl trivial fun _ => trivial
  | release ids =>
    simp only [World.answer?] at h
    rcases hcall h with ⟨failure, rfl, rfl⟩ | hdone
    · exact gives_of_call rfl rfl rfl rfl rfl trivial fun _ => trivial
    · obtain ⟨-, rfl⟩ := Prod.mk.inj hdone
      exact gives_of_call rfl rfl rfl rfl rfl trivial fun _ => trivial
  | append entry =>
    simp only [World.answer?] at h
    rcases hcall h with ⟨failure, rfl, rfl⟩ | hdone
    · exact gives_of_call rfl rfl rfl rfl rfl trivial fun _ => trivial
    · cases hdone
      exact gives_of_call rfl rfl rfl rfl rfl trivial fun _ => trivial
  | publish exchange m =>
    simp only [World.answer?] at h
    rcases hcall h with ⟨failure, rfl, rfl⟩ | hdone
    · exact gives_of_call rfl rfl rfl rfl rfl trivial fun _ => trivial
    · unfold publish at hdone
      split at hdone <;> cases hdone <;>
        exact gives_of_call rfl rfl rfl rfl rfl trivial fun _ => trivial
  | subscribe queue =>
    simp only [World.answer?] at h
    rcases hcall h with ⟨failure, rfl, rfl⟩ | hdone
    · exact gives_of_call rfl rfl rfl rfl rfl trivial fun _ => trivial
    · obtain ⟨-, rfl⟩ := Prod.mk.inj hdone
      exact gives_of_call rfl rfl rfl rfl rfl trivial fun _ => trivial
  | pause milliseconds =>
    simp only [World.answer?] at h
    split at h
    · next hwatch =>
      split at h <;> cases h
      refine ⟨rfl, rfl, rfl, rfl, ?_, trivial, .inl rfl⟩
      show false = w.halts task
      rw [halts, hwatch]
      rfl
    · next watch hwatch =>
      split at h <;> cases h
      have hsee : w.see t = { w with tasks := w.tasks.put t (w.seen task) } := by
        rw [see, get]
        rfl
      rw [hsee]
      refine ⟨rfl, rfl, rfl, rfl, ?_, trivial, .inr ⟨trivial, rfl⟩⟩
      show (w.signal watch.signal).halts watch.seen = w.halts task
      rw [halts, hwatch]
      rfl
  | receive stream =>
    simp only [World.answer?] at h
    split at h
    · cases h
      have hsee : w.see t = { w with tasks := w.tasks.put t (w.seen task) } := by
        rw [see, get]
        rfl
      rw [hsee]
      exact ⟨rfl, rfl, rfl, rfl, trivial, trivial, .inr ⟨⟨_, rfl⟩, rfl⟩⟩
    · split at h <;> cases h <;>
        exact gives_of_call rfl rfl rfl rfl rfl trivial fun _ => trivial
  | ready | take | listen | launch | halt | join => cases hr

end Answers

/-! ## Going on -/

/-- Where a task is that goes on at a moment with a call as the process of the call did; if it is to
sleep or to pause it does so from that moment. -/
inductive Ensues (c : Config) (now : Nat) (progress : Progress Work Result) : TaskState → Prop
  | waits {work : Work} {wait : Wait} (next : progress = .waiting work)
      (sleeps : ∀ milliseconds, work.request c = .sleep milliseconds →
        wait.due = some (now + milliseconds))
      (pauses : ∀ milliseconds, work.request c = .pause milliseconds →
        wait.due = some (now + milliseconds)) :
      Ensues c now progress (.running (.ofWork work) wait)
  | ends {result : Result} {n : Nat} (last : progress = .finished result) :
      Ensues c now progress (.ended (.ofResult result) n)

/-- What a process makes of the answer to the request of a call. -/
def outcome (w : World) (task : Task) (work : Work) (answer : (work.request task.config).Answer) :
    List Outcome × Turn Work Result :=
  work.resume task.config (w.stops task) (w.carriedFor work) answer

/-- A task has gone on with a call by the answer to its request. -/
structure Resumed (w : World) (t : TaskId) (task : Task) (work : Work)
    (answer : (work.request task.config).Answer) (w' : World) : Prop where
  signals : w'.signals = w.signals
  told : w'.told = (w.outcome task work answer).2.notices.reverse ++ w.told
  history : w'.history = (Request.appended? _ answer).elim w.history w.history.append
  heeds : Heeds (w.halts task) _ answer
  fetches : Fetches w w' _ answer
  carried : ∀ publisher, w'.carried.getD publisher [] =
    if work.publisher? = some publisher then (w.outcome task work answer).1
    else w.carried.getD publisher []
  enters : work.request task.config = .enter → ∃ wait, w.mayEnter t (.ofWork work) wait = true
  next : ∃ state task', (task' = task ∨ IsSignalled _ answer ∧ task' = w.seen task) ∧
    Ensues task.config w'.now (w.outcome task work answer).2.progress state ∧
    w'.tasks.get? t = some { task' with state }

section Going

variable {w w' w₁ : World} {t : TaskId} {task : Task} {work : Work} {wait : Wait}

/-- Who comes to wait gets a number, and may use up the script or be noted as a listener. -/
theorem arrive_eq (w : World) (t : TaskId) (r : Request) :
    ∃ fresh scripts doorbell, (w.arrive t r).2 = { w with fresh, scripts, doorbell } := by
  cases hr : target? r with
  | some target =>
    simp only [arrive, takeFresh, hr, takeInterference]
    split <;> exact ⟨_, _, _, rfl⟩
  | none =>
    simp only [arrive, takeFresh, hr]
    cases r <;> exact ⟨_, _, _, rfl⟩

/-- What the turn of a call does to the world. -/
theorem settle_ofWork (get : w.tasks.get? t = some task) (turn : Turn Work Result) :
    ∃ state broker scripts doorbell fresh, Ensues task.config w.now turn.progress state ∧
      w.settle t .ofWork .ofResult turn = { w with
        told := turn.notices.reverse ++ w.told, broker, scripts, doorbell, fresh
        tasks := w.tasks.put t { task with state } } := by
  have hget : (w.tell turn.notices).tasks.get? t = some task := get
  unfold settle
  cases hp : turn.progress with
  | waiting work =>
    simp only
    rw [await_ofWork _ hget]
    have htasks := tasks_arrive (w.tell turn.notices) t (work.request task.config)
    obtain ⟨fresh, scripts, doorbell, harrived⟩ :=
      (w.tell turn.notices).arrive_eq t (work.request task.config)
    rw [harrived]
    rw [harrived] at htasks
    rw [setState_of_get _ (htasks ▸ hget)]
    refine ⟨_, _, scripts, doorbell, fresh, .waits rfl (fun milliseconds hsleep => ?_)
      fun milliseconds hpause => ?_, rfl⟩
    · rw [hsleep]
      rfl
    · rw [hpause]
      rfl
  | finished result =>
    simp only [finish]
    rw [setState_of_get _ hget]
    exact ⟨_, _, _, _, _, .ends rfl, rfl⟩

/-- A task that has its answer goes on. -/
theorem resumed_goOn {answer : (work.request task.config).Answer}
    (get : w.tasks.get? t = some task) (gives : Gives w t task _ answer w₁)
    (enters : work.request task.config = .enter →
      ∃ wait, w.mayEnter t (.ofWork work) wait = true) :
    Resumed w t task work answer
      (w₁.goOn t task.config (w₁.stops task) work answer) := by
  have hstops : w₁.stops task = w.stops task := stops_of_signals gives.signals
  obtain ⟨task', hwatch, hget⟩ : ∃ task', (task' = task ∨
      IsSignalled _ answer ∧ task' = w.seen task) ∧ w₁.tasks.get? t = some task' := by
    rcases gives.watch with htasks | ⟨hsignalled, htasks⟩
    · exact ⟨task, .inl rfl, htasks ▸ get⟩
    · refine ⟨_, .inr ⟨hsignalled, rfl⟩, ?_⟩
      rw [htasks, Table.get?_put, if_pos rfl]
  have hconfig : task'.config = task.config := by
    rcases hwatch with rfl | ⟨-, rfl⟩ <;> rfl
  rw [hstops]
  cases hp : work.publisher? with
  | none =>
    have hout : w.outcome task work answer =
        work.resume task.config (w.stops task) [] answer := by
      simp only [outcome, carriedFor, hp]
    simp only [goOn, hp]
    obtain ⟨state, _, _, _, _, hensues, hsettled⟩ := settle_ofWork hget
      (work.resume task.config (w.stops task) [] answer).2
    rw [hsettled]
    rw [hconfig, ← hout] at hensues
    refine ⟨gives.signals, ?_, gives.history, gives.heeds, gives.fetches, fun publisher => ?_,
      enters, state, task', hwatch, hensues, ?_⟩
    · rw [hout, ← gives.told]
    · rw [hp, if_neg (Option.some_ne_none _).symm, ← gives.carried]
    · exact (Table.get?_put ..).trans (if_pos rfl)
  | some publisher =>
    have hout : w.outcome task work answer =
        work.resume task.config (w.stops task) (w₁.carried.getD publisher []) answer := by
      simp only [outcome, carriedFor, hp, gives.carried]
    simp only [goOn, hp]
    rw [← hout]
    have hput : ({ w₁ with carried := w₁.carried.put publisher (w.outcome task work answer).1 } :
        World).tasks.get? t = some task' := hget
    obtain ⟨state, _, _, _, _, hensues, hsettled⟩ := settle_ofWork hput (w.outcome task work answer).2
    rw [hsettled]
    rw [hconfig] at hensues
    refine ⟨gives.signals, ?_, gives.history, gives.heeds, gives.fetches, fun other => ?_,
      enters, state, task', hwatch, hensues, ?_⟩
    · rw [← gives.told]
    · show (w₁.carried.put publisher _).getD other [] = _
      rw [Table.getD_put, hp, gives.carried]
      by_cases hother : publisher = other
      · rw [if_pos hother, if_pos (congrArg some hother)]
      · rw [if_neg hother, if_neg fun heq => hother (Option.some.inj heq)]
    · exact (Table.get?_put ..).trans (if_pos rfl)

/-- **A task at a call goes on by its answer, unless it crashes.** -/
theorem resumed_of_turn {c : Config} {watch : Option Watch}
    (get : w.tasks.get? t = some ⟨c, watch, .running (.ofWork work) wait⟩)
    (step : w.turn? t = some w') :
    w' = w.finish t .crashed ∨
      ∃ answer, Resumed w t ⟨c, watch, .running (.ofWork work) wait⟩ work answer w' := by
  rw [turn?_of_call get] at step
  rcases answered_cases step with ⟨w₁, hanswer, rfl⟩ | ⟨w₁, answer, hanswer, rfl⟩
  · obtain rfl := crash_of_answer (isOfCall_work _ _) hanswer
    exact .inl rfl
  · exact .inr ⟨answer, resumed_goOn get (gives_of_answer (isOfCall_work _ _) get hanswer)
      fun henter => ⟨wait, mayEnter_of_answer henter (Option.isSome_of_eq_some hanswer)⟩⟩

/-- A consumer's loop that hears from its subscription goes on as well. -/
theorem resumed_of_hear (step : w.hear? t = some w') :
    ∃ c watch stream wait answer,
      w.tasks.get? t = some ⟨c, watch, .running (.consuming (.listening stream)) wait⟩ ∧
      Resumed w t ⟨c, watch, .running (.consuming (.listening stream)) wait⟩
        (.consuming (.listening stream)) answer w' := by
  simp only [hear?, Option.bind_eq_bind, Option.bind_eq_some_iff] at step
  obtain ⟨⟨c, watch, state⟩, hget, step⟩ := step
  split at step
  · next stream wait hstate =>
    cases hstate
    simp only [World.answer?, Option.map_none, Option.filter_none] at step
    have hgoes (broker : Broker) (heard : Heard) :
        Resumed w t ⟨c, watch, .running (.consuming (.listening stream)) wait⟩
          (.consuming (.listening stream)) heard
          (({ w with broker } : World).settle t .consuming (fun () => .stopped)
            ((Consuming.listening stream).resume c
              (({ w with broker } : World).stops
                ⟨c, watch, .running (.consuming (.listening stream)) wait⟩) heard)) := by
      have hgiven : Gives w t ⟨c, watch, .running (.consuming (.listening stream)) wait⟩
          ((Work.consuming (.listening stream)).request c) heard { w with broker } :=
        gives_of_call rfl rfl rfl rfl rfl trivial fun _ => trivial
      have hresumed := resumed_goOn hget hgiven fun henter => by cases henter
      simp only [goOn, Work.publisher?, Work.resume, settle_andThen] at hresumed
      exact hresumed
    refine ⟨c, watch, stream, wait, ?_⟩
    split at step
    · cases step
    all_goals
      cases step
      exact ⟨_, hget, hgoes _ _⟩
  · cases step

end Going

/-! ## The other tasks -/

/-- A task has gone on, and neither further into a loop or a batch nor by what a publisher carries.
-/
structure Plain (t : TaskId) (w w' : World) : Prop where
  carried : w'.carried = w.carried
  idle : ∀ state, w'.stateOf t = some state → state.hasBegun = false

section Others

variable {w w' w₁ : World} {t : TaskId} {task : Task} {activity : Activity} {wait : Wait}

/-- What was done before makes no difference to the carried outcomes. -/
theorem Plain.after (h : Plain t w₁ w') (carried : w₁.carried = w.carried) : Plain t w w' :=
  ⟨h.carried.trans carried, h.idle⟩

theorem plain_setState (w : World) (t : TaskId) {state : TaskState}
    (idle : state.hasBegun = false) : Plain t w (w.setState t state) := by
  cases hget : w.tasks.get? t with
  | none =>
    rw [setState, hget]
    refine ⟨rfl, fun other hother => ?_⟩
    rw [stateOf, hget] at hother
    cases hother
  | some task =>
    rw [setState_of_get _ hget]
    refine ⟨rfl, fun other hother => ?_⟩
    rw [stateOf, Table.get?_put, if_pos rfl] at hother
    cases hother
    exact idle

theorem plain_finish (w : World) (t : TaskId) (reply : Reply) : Plain t w (w.finish t reply) :=
  w.plain_setState t rfl

theorem plain_await (w : World) (t : TaskId) (waits : ∀ c, (activity.request? c).isSome = true)
    (idle : ∀ wait, (TaskState.running activity wait).hasBegun = false) :
    Plain t w (w.await t activity) := by
  cases hget : w.tasks.get? t with
  | none =>
    simp only [await, hget, Option.bind_eq_bind, Option.bind_none]
    refine ⟨rfl, fun state hstate => ?_⟩
    rw [stateOf, hget] at hstate
    cases hstate
  | some task =>
    obtain ⟨r, hr⟩ := Option.isSome_iff_exists.mp (waits task.config)
    simp only [await, hget, Option.bind_eq_bind, Option.bind_some, hr]
    obtain ⟨_, _, _, harrived⟩ := w.arrive_eq t r
    refine (plain_setState (w.arrive t r).2 t (idle _)).after ?_
    rw [harrived]

theorem plain_awaitUntil (w : World) (t : TaskId) (milliseconds : Nat)
    (idle : ∀ wait, (TaskState.running activity wait).hasBegun = false) :
    Plain t w (w.awaitUntil t activity milliseconds) :=
  (plain_setState w.takeFresh.2 t (idle _)).after rfl

theorem plain_settle {σ α : Type} (w : World) (t : TaskId) {wrap : σ → Activity}
    (waits : ∀ s c, ((wrap s).request? c).isSome = true)
    (idle : ∀ s wait, (TaskState.running (wrap s) wait).hasBegun = false) (reply : α → Reply)
    (turn : Turn σ α) : Plain t w (w.settle t wrap reply turn) := by
  unfold settle
  split
  · next s _ => exact ((w.tell turn.notices).plain_await t (waits s) (idle s)).after rfl
  · exact ((w.tell turn.notices).plain_finish t _).after rfl

/-! ### Actions -/

theorem carried_publisherOf (w : World) (name : Name) :
    (w.publisherOf name).2.carried = w.carried := by
  unfold publisherOf
  split <;> rfl

theorem carried_watchFor (w : World) (t : TaskId) (signal : Name) :
    (w.watchFor t signal).carried = w.carried := by
  have hsignal : (w.signalOf signal).2.carried = w.carried := by
    unfold signalOf
    split <;> rfl
  unfold watchFor watch
  generalize w.signalOf signal = named at hsignal
  simp only
  split <;> exact hsignal

theorem carried_insert (w : World) (draft : Draft) : (w.insert draft).2.carried = w.carried := by
  simp only [insert, takeMessageId]
  split <;> rfl

theorem carried_insertMany (w : World) (next n : Nat) :
    (w.insertMany next n).2.carried = w.carried := by
  induction n generalizing w next with
  | zero => rfl
  | succ n ih => exact (ih ..).trans (carried_insert ..)

theorem carried_serve (w : World) (failing : List MessageId) (detail exchange queue : String)
    (n : Nat) : (w.serve failing detail exchange queue n).2.carried = w.carried := by
  induction n generalizing w with
  | zero => rfl
  | succ n ih =>
    unfold serve
    split
    · rfl
    · exact ih _

theorem carried_publish (w : World) (exchange : String) (m : Message) :
    (w.publish exchange m).2.carried = w.carried := by
  unfold publish
  split <;> rfl

theorem carried_launch (w : World) (publisher : Bool) (consumer : Option StreamId) :
    (w.launch publisher consumer).2.carried = w.carried := by
  unfold launch
  split
  · rfl
  · cases publisher <;> cases consumer <;> rfl

theorem carried_of_actAtOnce {action : Action} {reply : Reply}
    (h : w.actAtOnce? action = some (reply, w')) : w'.carried = w.carried := by
  cases action with
  | insert draft =>
    cases h
    exact w.carried_insert draft
  | insertMany n =>
    cases h
    exact w.carried_insertMany 0 n
  | serve n failing detail exchange queue =>
    cases h
    exact w.carried_serve ..
  | publish message exchange =>
    simp only [actAtOnce?] at h
    split at h <;> cases h
    · rfl
    · exact w.carried_publish ..
  | setSignal name value =>
    cases h
    show (w.signalOf name).2.carried = _
    unfold signalOf
    split <;> rfl
  | subscribe | unsubscribe | dropSignal | isFinished =>
    simp only [actAtOnce?] at h
    split at h <;> cases h <;> rfl
  | fetch limit =>
    rcases world_of_fetchAtOnce h with rfl | rfl <;> rfl
  | update | release | get | tally | failOperations | failUpdates | append | entriesOf
  | allEntries | historyIsEmpty | setReachable | reject | failPublications | ready | deliver | close
  | cut | subscribers | setClock | script | spawn =>
    cases h
    rfl
  | pop | serveForever | next | record | batch | runPublisher | handle | runConsumer | build | start
  | stop | shutDown | advance | join | impossible => cases h

/-- A task begins with its action. -/
theorem plain_begin (w : World) (t : TaskId) (action : Action) : Plain t w (w.begin t action) := by
  have hatOnce : Plain t w (w.doAtOnce t action) := by
    unfold doAtOnce
    split
    · next reply w₁ hact => exact (w₁.plain_finish t reply).after (carried_of_actAtOnce hact)
    · exact w.plain_finish t .refused
  have hpipeline {activity : Activity} (waits : ∀ c, (activity.request? c).isSome = true)
      (idle : ∀ wait, (TaskState.running activity wait).hasBegun = false) :
      Plain t w (w.withPipeline t activity) := by
    unfold withPipeline
    split
    · exact w.plain_finish t .refused
    · split
      · exact (plain_await _ t waits idle).after rfl
      · next hget =>
        refine ⟨rfl, fun state hstate => ?_⟩
        rw [stateOf, hget] at hstate
        cases hstate
  cases action with
  | pop | serveForever | record | handle | build =>
    exact w.plain_await t (fun _ => rfl) fun _ => rfl
  | batch publisher signal | runPublisher publisher signal =>
    exact (plain_await _ t (fun _ => rfl) fun _ => rfl).after
      ((carried_watchFor ..).trans (w.carried_publisherOf publisher))
  | runConsumer name signal =>
    simp only [begin]
    split
    · exact w.plain_finish t .refused
    · exact (plain_await _ t (fun _ => rfl) fun _ => rfl).after (carried_watchFor ..)
  | next name timeout =>
    simp only [begin]
    split
    · exact w.plain_finish t .refused
    · exact (plain_awaitUntil _ t timeout fun _ => rfl).after rfl
  | start | stop | shutDown => exact hpipeline (fun _ => rfl) fun _ => rfl
  | advance milliseconds => exact w.plain_awaitUntil t milliseconds fun _ => rfl
  | join name =>
    simp only [begin]
    split
    · exact w.plain_finish t .refused
    · exact w.plain_awaitUntil t joinLimit fun _ => rfl
  | insert | insertMany | fetch | update | release | get | tally | failOperations | failUpdates
  | append | entriesOf | allEntries | historyIsEmpty | setReachable | reject | failPublications
  | ready | publish | deliver | serve | close | cut | subscribers | subscribe | unsubscribe
  | setSignal | dropSignal | setClock | script | isFinished | impossible | spawn => exact hatOnce

/-! ### Turns -/

theorem carried_of_answer {r : Request} {given : Option r.Answer}
    (h : w.answer? t task activity wait r = some (w₁, given)) : w₁.carried = w.carried := by
  have hcall {ε α : Type} {fault : Fault → Option ε} {operation : World → Except ε α × World}
      {given : Option (Except ε α)} (made : (operation w).2.carried = w.carried)
      (h : w.call wait fault operation = some (w₁, given)) : w₁.carried = w.carried := by
    rcases world_of_call h with rfl | rfl
    · rfl
    · exact made
  cases r with
  | proceed | take =>
    cases h
    rfl
  | enter | sleep =>
    simp only [World.answer?] at h
    split at h <;> cases h
    rfl
  | fetch limit =>
    rcases world_of_fetch h with rfl | rfl <;> rfl
  | release | append | ready | subscribe =>
    simp only [World.answer?] at h
    exact hcall rfl h
  | update message status =>
    simp only [World.answer?] at h
    refine hcall ?_ h
    unfold update
    split <;> rfl
  | publish exchange m =>
    simp only [World.answer?] at h
    exact hcall (w.carried_publish exchange m) h
  | pause =>
    simp only [World.answer?] at h
    split at h <;> split at h <;> cases h
    · rfl
    · unfold see
      split <;> rfl
  | receive =>
    simp only [World.answer?] at h
    split at h
    · cases h
      unfold see
      split <;> rfl
    · split at h <;> cases h <;> rfl
  | listen =>
    simp only [World.answer?] at h
    split at h
    · cases h
      rfl
    · split at h <;> cases h
      rfl
  | launch publisher consumer =>
    cases h
    exact w.carried_launch publisher consumer
  | halt loops =>
    cases h
    refine List.foldlRecOn (motive := fun w' : World => w'.carried = w.carried) loops _ rfl
      fun w' hw' loop _ => ?_
    rw [← hw', wake]
    split <;> rfl
  | join =>
    obtain ⟨ending, -, h⟩ := Option.map_eq_some_iff.mp h
    cases h
    rfl

theorem plain_answered {r : Request} {resume : World → r.Answer → World}
    (hturn : answered t (w.answer? t task activity wait r) resume = some w')
    (resumed : ∀ w₁ answer, Plain t w₁ (resume w₁ answer)) : Plain t w w' := by
  rcases answered_cases hturn with ⟨w₁, hanswer, rfl⟩ | ⟨w₁, answer, hanswer, rfl⟩
  · exact (w₁.plain_finish t .crashed).after (carried_of_answer hanswer)
  · exact (resumed w₁ answer).after (carried_of_answer hanswer)

theorem plain_of_turn {c : Config} {watch : Option Watch}
    (get : w.tasks.get? t = some ⟨c, watch, .running activity wait⟩)
    (plain : activity.isPlain = true) (step : w.turn? t = some w') : Plain t w w' := by
  simp only [turn?, get, Option.bind_eq_bind, Option.bind_some] at step
  cases activity with
  | acting action =>
    cases step
    exact w.plain_begin t action
  | sleeping =>
    simp only at step
    split at step <;> cases step
    exact w.plain_finish t .done
  | awaiting name stream =>
    simp only at step
    split at step
    · cases step
      exact (plain_finish _ t _).after rfl
    · cases step
      exact (plain_finish _ t _).after rfl
    · cases step
      exact (plain_finish _ t _).after rfl
    · split at step <;> cases step
      exact (plain_finish _ t _).after rfl
  | joining name other =>
    simp only at step
    split at step
    · cases step
      exact (plain_finish _ t _).after rfl
    · cases step
      exact (plain_finish _ t _).after rfl
    · split at step <;> cases step
      exact w.plain_finish t .timedOut
  | popping s =>
    exact plain_answered step fun w₁ answer =>
      w₁.plain_settle t (fun _ _ => rfl) (fun _ _ => rfl) ..
  | serving exchange queue served s =>
    refine plain_answered step fun w₁ answer => ?_
    split
    · exact w₁.plain_await t (fun _ => rfl) fun _ => rfl
    · next p _ =>
      cases p with
      | none => exact w₁.plain_await t (fun _ => rfl) fun _ => rfl
      | some p => exact (plain_await _ t (fun _ => rfl) fun _ => rfl).after rfl
  | recording s =>
    exact plain_answered step fun w₁ answer =>
      w₁.plain_settle t (fun _ _ => rfl) (fun _ _ => rfl) ..
  | handling s =>
    exact plain_answered step fun w₁ answer =>
      w₁.plain_settle t (fun _ _ => rfl) (fun _ _ => rfl) ..
  | building omitted =>
    refine plain_answered step fun w₁ answer => (plain_finish _ t _).after ?_
    rcases w₁.build_eq omitted with ⟨failure, hbuild⟩ | ⟨config, loops, hbuild⟩
    · rw [hbuild]
    · rw [hbuild]
      exact List.foldlRecOn (motive := fun w' : World => w'.carried = w₁.carried) loops _ rfl
        fun w' hw' loop _ => hw'
  | starting s =>
    exact plain_answered step fun w₁ answer =>
      (plain_settle _ t (fun _ _ => rfl) (fun _ _ => rfl) ..).after rfl
  | stopping s shutDown =>
    exact plain_answered step fun w₁ answer =>
      (plain_settle _ t (fun _ _ => rfl) (fun _ _ => rfl) ..).after rfl
  | batching | publishing | consuming => cases plain

end Others

end World

end Outbox.Rehearsal
