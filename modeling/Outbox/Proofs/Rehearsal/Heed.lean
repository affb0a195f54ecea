import Outbox.Proofs.Rehearsal.Going
/-!
# `Proofs.Rehearsal.Heed` — no stop signal passes a loop by

A loop finds out in two ways that it is to stop: it looks at what its signal says, and while it waits
it is woken when the signal is set or given up. What it has seen wakes it no more. But it only takes
note of what it has seen when it is woken, and a loop that then finds that it is to stop does not
wait again. So a loop that is told to stop and has yet to find out is always one that its signal
would wake.
-/

namespace Outbox

open Interplay

/-! ## What a loop makes of an answer -/

/-- A batch records the outcome that it has in hand. -/
def Batching.Aligned : Batching → Prop
  | .recording _ outcome _ record => record.outcome.id = outcome.id
  | _ => True

/-- What is recorded stays the same message's. -/
theorem Recording.id_of_waiting {c : Config} {rec rec' : Recording} {answer : (rec.request c).Answer}
    (h : (rec.resume c answer).progress = .waiting rec') : rec'.outcome.id = rec.outcome.id := by
  cases rec with
  | updating outcome tries =>
    change Except StoreFailure (Transition × Stamp) at answer
    rcases answer with failure | ⟨change, stamp⟩
    · simp only [resume] at h
      split at h <;> cases h
      rfl
    · cases h
      rfl
  | updatePause outcome tries =>
    cases h
    rfl
  | appending change entry tries =>
    change Except StoreFailure Unit at answer
    rcases answer with failure | ⟨⟩
    · simp only [resume] at h
      split at h <;> cases h
      rfl
    · cases h
  | appendPause change entry tries =>
    cases h
    rfl

theorem Batching.aligned_recoverNext {summary : BatchSummary} {carried : List Outcome}
    {next : Batching} (h : (recoverNext summary carried).progress = .waiting next) :
    next.Aligned := by
  cases carried <;> cases h <;> trivial

theorem Batching.aligned_publishNext {stop : Bool} {summary : BatchSummary} {rest : List Message}
    {next : Batching} (h : (publishNext stop summary rest).progress = .waiting next) :
    next.Aligned := by
  cases rest with
  | nil => cases h
  | cons m rest => cases stop <;> cases h <;> trivial

theorem Batching.aligned_of_waiting {c : Config} {stop : Bool} {carried : List Outcome}
    {s next : Batching} {answer : (s.request c).Answer} (aligned : s.Aligned)
    (h : (s.resume c stop carried answer).2.progress = .waiting next) : next.Aligned := by
  cases s with
  | opening => exact aligned_recoverNext h
  | recovering summary outcome record =>
    simp only [resume] at h
    split at h
    · cases h
      trivial
    · cases h
    · exact aligned_recoverNext h
    · cases h
      trivial
  | freeing summary outcome result =>
    change Except StoreFailure Unit at answer
    cases answer <;> exact aligned_recoverNext h
  | fetching summary =>
    change Except StoreFailure (List Message) at answer
    cases answer with
    | error failure => cases h
    | ok batch => exact aligned_publishNext h
  | publishing summary m rest =>
    change Except BrokerFailure Unit at answer
    cases answer <;> cases h <;> rfl
  | recording summary outcome rest record =>
    rcases Turn.waiting_cases h with ⟨record', hrecord, rfl⟩ | ⟨result, -, hlast⟩
    · exact (Recording.id_of_waiting hrecord).trans aligned
    · rcases result with failure | result
      · cases hlast
        trivial
      · exact aligned_publishNext hlast
  | keeping summary outcome rest =>
    cases rest <;> cases h
    trivial
  | releasing summary rest =>
    change Except StoreFailure Unit at answer
    cases answer <;> cases h

/-- A publisher's loop records the outcome that it has in hand. -/
def Publishing.Aligned : Publishing → Prop
  | .batching batch => batch.Aligned
  | .starting | .pausing _ | .abandoning | .releasing _ => True

theorem Publishing.aligned_goOn {stop : Bool} {next : Publishing}
    (h : (goOn stop).progress = .waiting next) : next.Aligned := by
  cases stop <;> cases h <;> trivial

theorem Publishing.aligned_of_waiting {c : Config} {stop : Bool} {carried : List Outcome}
    {s next : Publishing} {answer : (s.request c).Answer} (aligned : s.Aligned)
    (h : (s.resume c stop carried answer).2.progress = .waiting next) : next.Aligned := by
  cases s with
  | starting => exact aligned_goOn h
  | batching batch =>
    rcases Turn.waiting_cases h with ⟨batch', hbatch, rfl⟩ | ⟨result, -, hlast⟩
    · exact Batching.aligned_of_waiting aligned hbatch
    · obtain ⟨between, hwaits, hbetween⟩ := afterBatch_waits c stop result
      cases hwaits.symm.trans hlast
      cases hbetween <;> trivial
  | pausing milliseconds =>
    change Bool at answer
    cases answer with
    | true =>
      cases h
      trivial
    | false => exact aligned_goOn h
  | abandoning =>
    simp only [resume] at h
    split at h <;> cases h
    trivial
  | releasing ids =>
    change Except StoreFailure Unit at answer
    cases answer <;> cases h

namespace Rehearsal

open World (isOfRecorder ofRecorder_recording)

/-- The recorder does not look at the signal. -/
theorem not_signalled_of_recorder {r : Request} {answer : r.Answer} (h : isOfRecorder r = true) :
    ¬ IsSignalled r answer := by
  cases r with
  | update | append | sleep => exact id
  | _ => cases h

theorem not_signalled_batching {c : Config} {s : Batching} {answer : (s.request c).Answer} :
    ¬ IsSignalled (s.request c) answer := by
  cases s with
  | recovering summary outcome record =>
    exact not_signalled_of_recorder (ofRecorder_recording c record)
  | recording summary outcome rest record =>
    exact not_signalled_of_recorder (ofRecorder_recording c record)
  | opening | freeing | fetching | publishing | keeping | releasing => exact id

end Rehearsal

/-- Whether the publisher's loop has begun and has yet to find out that it is to stop. -/
def Publishing.isUnderway : Publishing → Bool
  | .batching _ | .pausing _ => true
  | .starting | .abandoning | .releasing _ => false

/-- Whether the consumer's loop has begun. -/
def Consuming.isUnderway : Consuming → Bool
  | .starting _ => false
  | .listening _ | .handling .. | .pausing .. | .reconnecting _ | .subscribing _ => true

section Told

open Rehearsal

variable {c : Config} {carried : List Outcome}

/-- A publisher's loop that is told to stop finds out as soon as it is not busy with a batch. -/
theorem Publishing.batching_of_underway {s next : Publishing} {answer : (s.request c).Answer}
    (h : (s.resume c true carried answer).2.progress = .waiting next)
    (underway : next.isUnderway = true) : ∃ batch, s = .batching batch := by
  cases s with
  | batching batch => exact ⟨batch, rfl⟩
  | starting =>
    cases h
    cases underway
  | pausing milliseconds =>
    change Bool at answer
    cases answer <;> cases h <;> cases underway
  | abandoning =>
    simp only [resume] at h
    split at h <;> cases h
    cases underway
  | releasing ids =>
    change Except StoreFailure Unit at answer
    cases answer <;> cases h

/-- A consumer's loop that is told to stop, also once it has waited, finds out when it begins, and
whenever it is woken. -/
theorem Consuming.underway_of_waiting {s next : Consuming} {answer : (s.request c).Answer}
    (heeds : Heeds true (s.request c) answer)
    (h : (s.resume c true answer).progress = .waiting next) :
    s.isUnderway = true ∧ ¬ IsSignalled (s.request c) answer := by
  cases s with
  | starting stream => cases h
  | listening stream =>
    refine ⟨rfl, ?_⟩
    rintro ⟨givenUp, rfl⟩
    cases givenUp <;> cases h
  | handling stream work =>
    exact ⟨rfl, not_signalled_of_recorder (World.ofRecorder_handling c work)⟩
  | pausing stream r =>
    change answer = true at heeds
    subst heeds
    cases h
  | reconnecting stream =>
    change answer = true at heeds
    subst heeds
    cases h
  | subscribing stream => exact ⟨rfl, id⟩

end Told

namespace Rehearsal

/-! ## Worlds in which every loop heeds its signal -/

namespace TaskState

/-- Whether a loop has begun and has yet to find out that it is to stop. -/
def isUnderway : TaskState → Bool
  | .running (.publishing _ s) _ => s.isUnderway
  | .running (.consuming s) _ => s.isUnderway
  | _ => false

/-- A loop of a publisher records the outcome that it has in hand. -/
def Aligned : TaskState → Prop
  | .running (.publishing _ s) _ => s.Aligned
  | _ => True

theorem begun_of_underway {state : TaskState} (h : state.isUnderway = true) :
    state.hasBegun = true := by
  cases state with
  | ended => cases h
  | running activity wait =>
    cases activity with
    | publishing publisher s => cases s <;> first | rfl | cases h
    | consuming s => cases s <;> first | rfl | cases h
    | _ => cases h

theorem aligned_of_idle {state : TaskState} (h : state.hasBegun = false) : state.Aligned := by
  cases state with
  | ended => trivial
  | running activity wait =>
    cases activity with
    | publishing publisher s => cases s <;> trivial
    | _ => trivial

end TaskState

namespace World

/-- Whether a task that waited for its signal need not wait. -/
def wakes (w : World) (task : Task) : Bool :=
  task.watch.any fun watch => (w.signal watch.signal).wakes watch.seen

/-- Every loop that is told to stop and has yet to find out would be woken by its signal, and every
publisher's loop records the outcome that it has in hand. -/
structure Heedful (w : World) : Prop where
  attentive : w.Attentive
  wakes : ∀ t task, w.tasks.get? t = some task → task.state.isUnderway = true →
    w.stops task = true → w.wakes task = true
  aligned : ∀ t state, w.stateOf t = some state → state.Aligned

section Heedful

variable {w w' : World} {t : TaskId} {task : Task} {state : TaskState} {wait : Wait}

theorem stops_watching (w : World) (task : Task) (state : TaskState) :
    w.stops { w.seen task with state } = w.stops task := by
  unfold stops seen
  cases task.watch <;> rfl

/-- A signal that tells to stop, but not who has waited for it, was given up, so it wakes whoever
waits for it. -/
theorem wakes_of_unhalted {seen : Task} {P : Prop} (signals : w'.signals = w.signals)
    (watches : seen = task ∨ P ∧ seen = w.seen task) (stops : w.stops task = true)
    (unhalted : w.halts task = false) : w'.wakes { seen with state } = true := by
  obtain ⟨watch, hwatch, hstops⟩ := (Option.any_eq_true _ _).mp stops
  rw [halts, hwatch] at unhalted
  have hgiven : (w'.signal watch.signal).givenUp = true := by
    rw [signal, signals]
    exact Signal.givenUp_of_stops hstops unhalted
  have hwakes (number : Nat) : (w'.signal watch.signal).wakes number = true := by
    rw [Signal.wakes, hgiven, Bool.or_true]
  rcases watches with rfl | ⟨-, rfl⟩
  · rw [World.wakes, hwatch]
    exact hwakes _
  · rw [World.wakes, World.seen, hwatch]
    exact hwakes _

/-- A task that has gone on with a loop would still be woken by its signal, if it is to stop. -/
theorem Resumed.wakes {work : Work} {answer : (work.request task.config).Answer}
    (resumed : Resumed w t task work answer w') (heedful : w.Heedful)
    (get : w.tasks.get? t = some task) (was : task.state = .running (.ofWork work) wait)
    {task' : Task} (get' : w'.tasks.get? t = some task')
    (underway : task'.state.isUnderway = true) (stops : w'.stops task' = true) :
    w'.wakes task' = true := by
  obtain ⟨state, seen, hseen, hensues, hnext⟩ := resumed.next
  cases hnext.symm.trans get'
  have hstops : w.stops task = true := by
    rw [stops_of_signals resumed.signals] at stops
    rcases hseen with rfl | ⟨-, rfl⟩
    · exact stops
    · exact (w.stops_watching task state).symm.trans stops
  by_cases hhalts : w.halts task = false
  · exact wakes_of_unhalted resumed.signals hseen hstops hhalts
  -- the loop was underway before, and its answer did not come by way of the signal
  have hbusy : task.state.isUnderway = true ∧ ¬ IsSignalled _ answer := by
    have hheeds := resumed.heeds
    rw [Bool.of_not_eq_false hhalts] at hheeds
    unfold outcome at hensues
    rw [hstops] at hensues
    rw [was]
    cases hensues with
    | ends => cases underway
    | waits next =>
      cases work with
      | publishing publisher s =>
        rcases Turn.waiting_cases next with ⟨s', hs, rfl⟩ | ⟨-, -, hlast⟩
        · obtain ⟨batch, rfl⟩ := Publishing.batching_of_underway hs underway
          exact ⟨rfl, not_signalled_batching⟩
        · cases hlast
      | consuming s =>
        rcases Turn.waiting_cases next with ⟨s', hs, rfl⟩ | ⟨-, -, hlast⟩
        · exact Consuming.underway_of_waiting hheeds hs
        · cases hlast
      | recording | handling | batching =>
        rcases Turn.waiting_cases next with ⟨s', -, rfl⟩ | ⟨_, _, hlast⟩
        · cases underway
        · cases hlast
  obtain rfl : seen = task := hseen.resolve_right fun h => hbusy.2 h.1
  have hwakes := heedful.wakes t seen get hbusy.1 hstops
  unfold World.wakes signal at hwakes ⊢
  rw [resumed.signals]
  exact hwakes

/-- Whose loop has gone on still records the outcome that it has in hand. -/
theorem Resumed.aligned {work : Work} {answer : (work.request task.config).Answer}
    (resumed : Resumed w t task work answer w') (was : task.state = .running (.ofWork work) wait)
    (aligned : task.state.Aligned)
    (now : w'.stateOf t = some state) : state.Aligned := by
  obtain ⟨state', seen, -, hensues, hnext⟩ := resumed.next
  have hstate : some state' = some state := by
    rw [← now, stateOf, hnext]
    rfl
  cases hstate
  rw [was] at aligned
  cases hensues with
  | ends => trivial
  | waits next =>
    cases work with
    | publishing publisher s =>
      rcases Turn.waiting_cases next with ⟨s', hs, rfl⟩ | ⟨-, -, hlast⟩
      · exact Publishing.aligned_of_waiting aligned hs
      · cases hlast
    | recording | handling | batching | consuming =>
      rcases Turn.waiting_cases next with ⟨s', -, rfl⟩ | ⟨_, _, hlast⟩
      · trivial
      · cases hlast

/-- Only a task that goes on with something takes a turn. -/
theorem running_of_turn (step : w.turn? t = some w') :
    ∃ c watch activity wait, w.tasks.get? t = some ⟨c, watch, .running activity wait⟩ := by
  cases hget : w.tasks.get? t with
  | none => simp [turn?, hget] at step
  | some task =>
    obtain ⟨c, watch, state⟩ := task
    cases state with
    | running activity wait => exact ⟨c, watch, activity, wait, rfl⟩
    | ended => simp [turn?, hget] at step

/-- Whoever goes on is in the middle of neither a loop nor a batch then, or goes on with its call. -/
theorem resumed_of_happen {happening : Happening} (step : w.happen? happening = some w')
    (mover : happening.mover? = some t) (now : w'.stateOf t = some state) :
    state.hasBegun = false ∨ ∃ task work wait answer, w.tasks.get? t = some task ∧
      task.state = .running (.ofWork work) wait ∧ Resumed w t task work answer w' := by
  cases happening with
  | turn id =>
    cases mover
    obtain ⟨c, watch, activity, wait, hget⟩ := running_of_turn step
    have hcall {work : Work} (hactivity : activity = .ofWork work) :
        state.hasBegun = false ∨ ∃ task work wait answer, w.tasks.get? t = some task ∧
          task.state = .running (.ofWork work) wait ∧ Resumed w t task work answer w' := by
      subst hactivity
      rcases resumed_of_turn hget step with ⟨-, rfl⟩ | ⟨answer, hresumed⟩
      · exact .inl ((w.plain_finish t .crashed).idle state now)
      · exact .inr ⟨_, work, wait, answer, hget, rfl, hresumed⟩
    cases activity with
    | batching publisher s => exact hcall (rfl : _ = Activity.ofWork (.batching publisher s))
    | publishing publisher s => exact hcall (rfl : _ = Activity.ofWork (.publishing publisher s))
    | consuming s => exact hcall (rfl : _ = Activity.ofWork (.consuming s))
    | _ => exact .inl ((plain_of_turn hget rfl step).idle state now)
  | hear id =>
    cases mover
    obtain ⟨c, watch, stream, wait, answer, hget, hresumed⟩ := resumed_of_hear step
    exact .inr ⟨_, _, wait, answer, hget, rfl, hresumed⟩
  | forget id =>
    cases mover
    simp only [World.happen?] at step
    split at step <;> cases step
    rw [stateOf_forget] at now
    cases now
  | begin | wait | note | takeTold => cases mover

/-- **Every scene leaves a world in which every loop heeds its signal.** -/
theorem heedful_of_happen {happening : Happening}
    (numbered : ∀ t, w.fresh ≤ t → w.stateOf t = none) (heedful : w.Heedful)
    (step : w.happen? happening = some w') : w'.Heedful := by
  have honward := onward_of_happen step
  have hpassage := (passage_of_happen numbered step).1
  have hnew (t : TaskId) (state : TaskState) (ht : w.fresh ≤ t) (h : w'.stateOf t = some state) :
      state.hasBegun = false :=
    TaskState.not_begun_of_isNew (hpassage.arrivals t state ht h).2
  refine ⟨honward.attentive heedful.attentive, fun t task' get' underway stops => ?_,
    fun t state now => ?_⟩
  · have hnow : w'.stateOf t = some task'.state := by
      rw [stateOf, get']
      rfl
    have hbegun := TaskState.begun_of_underway underway
    by_cases ht : w.fresh ≤ t
    · cases (hnew t _ ht hnow).symm.trans hbegun
    by_cases hwho : happening.mover? = some t
    · rcases resumed_of_happen step hwho hnow with hidle | ⟨task, work, wait, answer, get, was, h⟩
      · cases hidle.symm.trans hbegun
      · exact h.wakes heedful get was get' underway stops
    · -- the task is as it was, and its signal may have been set or given up
      rw [honward.others t (Nat.lt_of_not_le ht) hwho] at get'
      obtain ⟨watch, hwatch, hstops⟩ := (Option.any_eq_true _ _).mp stops
      obtain ⟨hgiven, hseen⟩ := heedful.attentive.watches t task' watch get' hwatch
      have halert (hbefore : (w.signal watch.signal).stops = true) :
          (w.signal watch.signal).wakes watch.seen = true := by
        have hwakes := heedful.wakes t task' get' underway (by rw [World.stops, hwatch]; exact hbefore)
        rw [World.wakes, hwatch] at hwakes
        exact hwakes
      rw [World.wakes, hwatch]
      exact (honward.signals watch.signal hgiven).alerts hseen halert hstops
  · by_cases ht : w.fresh ≤ t
    · exact TaskState.aligned_of_idle (hnew t state ht now)
    by_cases hwho : happening.mover? = some t
    · rcases resumed_of_happen step hwho now with hidle | ⟨task, work, wait, answer, get, was, h⟩
      · exact TaskState.aligned_of_idle hidle
      · refine h.aligned was (heedful.aligned t task.state ?_) now
        rw [stateOf, get]
        rfl
    · exact heedful.aligned t state
        ((hpassage.others t (Nat.lt_of_not_le ht) hwho).symm.trans now)

end Heedful

end World

/-- In a play every loop heeds its signal. -/
theorem Play.heedful {c : Config} {clockStart : Int} {ids : List MessageId} {scenes : List Scene}
    {w : World} (play : Play (.initial c clockStart ids) scenes w) : w.Heedful := by
  induction play with
  | nil =>
    refine ⟨⟨fun _ _ h => ?_, fun _ _ _ h => ?_⟩, fun _ _ h => ?_, fun _ _ h => ?_⟩ <;> cases h
  | snoc play step ih => exact World.heedful_of_happen play.apart.1 ih step

end Rehearsal

end Outbox
