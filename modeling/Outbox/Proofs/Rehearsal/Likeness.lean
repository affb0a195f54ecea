import Outbox.Proofs.Broker.Receipts
import Outbox.Proofs.Rehearsal.Play
/-!
# `Proofs.Rehearsal.Likeness` — worlds that agree on the receipts

Most of what a task does has nothing to do with the receipts: it leaves the world `Alike`, with the
same subscriptions, the same receipts and every task as far as it was. When the task goes on after
that, `Goes` says what changes: how far it is, and the subscription that it gives up.
-/

namespace Outbox.Rehearsal

namespace World

/-- How far a task is. -/
def stateOf (w : World) (t : TaskId) : Option TaskState :=
  (w.tasks.get? t).map Task.state

/-! ## Worlds that agree on the receipts -/

/-- Two worlds agree on the subscriptions, on the receipts and on how far the tasks are. -/
structure Alike (w w' : World) : Prop where
  broker : w.broker.Alike w'.broker
  states : ∀ t, w'.stateOf t = w.stateOf t
  pipeline : w.pipeline.isSome = true → w'.pipeline.isSome = true
  fresh : w.fresh ≤ w'.fresh

/-- A task goes on from one state to another, and gives up the subscription that it no longer
holds. -/
structure Goes (id : TaskId) (old new : TaskState) (w w' : World) : Prop where
  was : w.stateOf id = some old
  broker : (w.broker.giveUp old.stream? new.stream?).Alike w'.broker
  states : ∀ t, w'.stateOf t = if id = t then some new else w.stateOf t
  pipeline : w.pipeline.isSome = true → w'.pipeline.isSome = true
  fresh : w.fresh ≤ w'.fresh

section Alike

variable {w w' w'' : World} {id : TaskId} {old new : TaskState}

theorem alike_of_eq (broker : w'.broker = w.broker) (tasks : w'.tasks = w.tasks)
    (pipeline : w'.pipeline = w.pipeline) (fresh : w.fresh ≤ w'.fresh) : w.Alike w' where
  broker := broker ▸ w.broker.alike_refl
  states t := by
    unfold stateOf
    rw [tasks]
  pipeline h := pipeline ▸ h
  fresh := fresh

theorem alike_refl (w : World) : w.Alike w :=
  alike_of_eq rfl rfl rfl (Nat.le_refl _)

theorem Alike.trans (h : w.Alike w') (h' : w'.Alike w'') : w.Alike w'' where
  broker := h.broker.trans h'.broker
  states t := (h'.states t).trans (h.states t)
  pipeline hw := h'.pipeline (h.pipeline hw)
  fresh := Nat.le_trans h.fresh h'.fresh

theorem Alike.goes (h : w.Alike w') (goes : Goes id old new w' w'') : Goes id old new w w'' where
  was := (h.states id).symm.trans goes.was
  broker := (h.broker.giveUp _ _).trans goes.broker
  states t := by
    rw [goes.states t, h.states t]
  pipeline hw := goes.pipeline (h.pipeline hw)
  fresh := Nat.le_trans h.fresh goes.fresh

/-- A task is changed, but not how far it is. -/
theorem alike_put {task task' : Task} (get : w.tasks.get? id = some task)
    (same : task'.state = task.state) : w.Alike { w with tasks := w.tasks.put id task' } where
  broker := w.broker.alike_refl
  states t := by
    unfold stateOf
    rw [Table.get?_put]
    split
    · next ht => rw [← ht, get, Option.map_some, Option.map_some, same]
    · rfl
  pipeline h := h
  fresh := Nat.le_refl _

theorem alike_tell (w : World) (notices : List Notice) : w.Alike (w.tell notices) :=
  alike_of_eq rfl rfl rfl (Nat.le_refl _)

theorem alike_takeFresh (w : World) : w.Alike w.takeFresh.2 :=
  alike_of_eq rfl rfl rfl (Nat.le_succ _)

theorem alike_takeInterference (w : World) (target : Target) :
    w.Alike (w.takeInterference target).2 := by
  unfold takeInterference
  split
  · exact w.alike_refl
  · exact alike_of_eq rfl rfl rfl (Nat.le_refl _)

theorem alike_arrive (w : World) (id : TaskId) (r : Request) : w.Alike (w.arrive id r).2 := by
  unfold arrive
  refine w.alike_takeFresh.trans ?_
  generalize w.takeFresh = taken
  obtain ⟨arrival, w⟩ := taken
  cases hr : target? r with
  | some target => exact w.alike_takeInterference target
  | none => cases r <;> exact alike_of_eq rfl rfl rfl (Nat.le_refl _)

theorem alike_see (w : World) (id : TaskId) : w.Alike (w.see id) := by
  unfold see
  split
  · next task htask => exact alike_put htask rfl
  · exact w.alike_refl

theorem alike_changeSignal (w : World) (signal : SignalId) (change : Signal → Signal) :
    w.Alike (w.changeSignal signal change) :=
  alike_of_eq rfl rfl rfl (Nat.le_refl _)

theorem alike_wake (w : World) (id : TaskId) : w.Alike (w.wake id) := by
  unfold wake
  split
  · exact w.alike_refl
  · exact alike_of_eq rfl rfl rfl (Nat.le_refl _)

theorem alike_publish (w : World) (exchange : String) (m : Message) :
    w.Alike (w.publish exchange m).2 := by
  have halike : w.broker.Alike (w.broker.publish exchange m).2 := by
    unfold Broker.publish
    split
    · exact w.broker.alike_refl
    · split
      · exact ⟨rfl, rfl, rfl, rfl⟩
      · split <;> exact ⟨rfl, rfl, rfl, rfl⟩
  have hbroker {doorbell : Doorbell} :
      w.Alike { w with broker := (w.broker.publish exchange m).2, doorbell } :=
    ⟨halike, fun _ => rfl, fun h => h, Nat.le_refl _⟩
  unfold publish
  split
  all_goals
    next broker hpublish =>
      rw [hpublish] at hbroker
      exact hbroker

theorem alike_update (w : World) (message : MessageId) (status : Status) :
    w.Alike (w.update message status).2 := by
  unfold update
  split <;> exact alike_of_eq rfl rfl rfl (Nat.le_refl _)

end Alike

/-! ## What actions do -/

section Actions

variable {w : World} {t : TaskId}

theorem alike_insert (w : World) (draft : Draft) : w.Alike (w.insert draft).2 := by
  simp only [insert, takeMessageId]
  split <;> exact alike_of_eq rfl rfl rfl (Nat.le_refl _)

theorem alike_insertMany (w : World) (next n : Nat) : w.Alike (w.insertMany next n).2 := by
  induction n generalizing w next with
  | zero => exact w.alike_refl
  | succ n ih =>
    unfold insertMany
    exact (w.alike_insert _).trans (ih _ _)

theorem alike_signalOf (w : World) (name : Name) : w.Alike (w.signalOf name).2 := by
  unfold signalOf
  split
  · exact w.alike_refl
  · exact alike_of_eq rfl rfl rfl (Nat.le_succ _)

theorem alike_publisherOf (w : World) (name : Name) : w.Alike (w.publisherOf name).2 := by
  unfold publisherOf
  split
  · exact w.alike_refl
  · exact alike_of_eq rfl rfl rfl (Nat.le_succ _)

theorem alike_watchFor (w : World) (id : TaskId) (signal : Name) :
    w.Alike (w.watchFor id signal) := by
  have hwatch : w.Alike (w.watch signal).2 := w.alike_signalOf signal
  unfold watchFor
  generalize w.watch signal = watched at hwatch
  obtain ⟨watch, w₁⟩ := watched
  simp only
  split
  · next task htask => exact hwatch.trans (alike_put htask rfl)
  · exact hwatch

/-- The world with a new pipeline in place, after some loops of the one before were given up. -/
def rebuilt (w : World) (config : Config) (loops : List Launched) : World :=
  let cleared := loops.foldl (fun w loop => w.changeSignal loop.signal Signal.giveUp) w
  { cleared.takeFresh.2 with pipeline := some ⟨config, cleared.takeFresh.1, .empty⟩ }

/-- Either a part is missing, or a new pipeline is in place. -/
theorem build_eq (w : World) (omitted : List Part) :
    (∃ failure, w.build omitted = (.assemblyFailure failure, w)) ∨
      ∃ config loops, w.build omitted = (.running false false, w.rebuilt config loops) := by
  unfold build
  simp only
  split
  · exact .inl ⟨_, rfl⟩
  · exact .inr ⟨_, _, rfl⟩

theorem alike_build (w : World) (omitted : List Part) : w.Alike (w.build omitted).2 := by
  rcases w.build_eq omitted with ⟨failure, hbuild⟩ | ⟨config, loops, hbuild⟩
  · rw [hbuild]
    exact w.alike_refl
  · rw [hbuild]
    have hcleared : w.Alike
        (loops.foldl (fun w loop => w.changeSignal loop.signal Signal.giveUp) w) :=
      List.foldlRecOn loops _ w.alike_refl fun w' hw' loop _ => hw'.trans (alike_changeSignal ..)
    have hfresh := hcleared.trans (alike_takeFresh _)
    exact ⟨hfresh.broker, hfresh.states, fun _ => rfl, hfresh.fresh⟩

theorem alike_setRoster (w : World) (roster : Roster) : w.Alike (w.setRoster roster) := by
  refine ⟨Broker.alike_refl _, fun _ => rfl, fun h => ?_, Nat.le_refl _⟩
  unfold setRoster
  rw [Option.isSome_map]
  exact h

/-- A task is added. -/
theorem stateOf_addTask (w : World) (config : Config) (watch : Option Watch) (activity : Activity)
    (t : TaskId) :
    (w.addTask config watch activity).2.stateOf t =
      if w.fresh = t then some (.running activity ⟨w.fresh, none, .none⟩) else w.stateOf t := by
  show ((w.tasks.put w.fresh _).get? t).map Task.state = _
  rw [Table.get?_put]
  split <;> rfl

/-- What becomes of the tasks when a loop is set going. -/
theorem stateOf_launchLoop (w : World) (pipeline : Pipeline) (activity : Activity) (t : TaskId) :
    (launch.launchLoop w pipeline activity).2.stateOf t =
      if w.fresh + 1 = t then some (.running activity ⟨w.fresh + 1, none, .none⟩)
      else w.stateOf t :=
  stateOf_addTask w.addSignal.2 pipeline.config _ activity t

/-- To set loops going changes none of the tasks that there are. -/
theorem stateOf_launch {publisher : Bool} {consumer : Option StreamId} {t : TaskId}
    (numbered : t < w.fresh) : (w.launch publisher consumer).2.stateOf t = w.stateOf t := by
  have hloop {w : World} (numbered : t < w.fresh) (pipeline : Pipeline) (activity : Activity) :
      (launch.launchLoop w pipeline activity).2.stateOf t = w.stateOf t := by
    rw [stateOf_launchLoop, if_neg (Nat.ne_of_gt (Nat.lt_succ_of_lt numbered))]
  unfold launch
  split
  · rfl
  · next pipeline hpipeline =>
    have hlater : t < w.fresh + 2 := Nat.lt_add_right 2 numbered
    cases publisher <;> cases consumer
    · rfl
    · exact hloop numbered pipeline _
    · exact hloop numbered pipeline _
    · exact (hloop hlater pipeline _).trans (hloop numbered pipeline _)

end Actions

/-! ## Going on -/

section Goes

variable {w : World} {id : TaskId} {old : TaskState}

theorem goes_setState (was : w.stateOf id = some old) (new : TaskState) :
    Goes id old new w (w.setState id new) := by
  obtain ⟨task, htask, rfl⟩ := Option.map_eq_some_iff.mp was
  rw [w.setState_of_get htask]
  refine ⟨was, Broker.alike_refl _, fun t => ?_, fun h => h, Nat.le_refl _⟩
  unfold stateOf
  rw [Table.get?_put]
  split <;> rfl

theorem goes_finish (was : w.stateOf id = some old) (reply : Reply) :
    Goes id old (.ended reply w.now) w (w.finish id reply) :=
  goes_setState was _

/-- A task goes on to wait. -/
theorem goes_await (was : w.stateOf id = some old) {activity : Activity}
    (waits : ∀ c, (activity.request? c).isSome = true) :
    ∃ wait, Goes id old (.running activity wait) w (w.await id activity) := by
  obtain ⟨task, htask, rfl⟩ := Option.map_eq_some_iff.mp was
  obtain ⟨r, hr⟩ := Option.isSome_iff_exists.mp (waits task.config)
  have halike := w.alike_arrive id r
  have hwas := (halike.states id).trans was
  refine ⟨(w.arrive id r).1, ?_⟩
  simp only [await, htask, Option.bind_eq_bind, Option.bind_some, hr]
  exact halike.goes (goes_setState hwas _)

theorem goes_awaitUntil (was : w.stateOf id = some old) (activity : Activity)
    (milliseconds : Nat) :
    ∃ wait, Goes id old (.running activity wait) w (w.awaitUntil id activity milliseconds) := by
  have halike := w.alike_takeFresh
  exact ⟨_, halike.goes (goes_setState ((halike.states id).trans was) _)⟩

/-- A task goes on with a process, or comes to its end with it. -/
theorem goes_settle {σ α : Type} (was : w.stateOf id = some old) {wrap : σ → Activity}
    (waits : ∀ s c, ((wrap s).request? c).isSome = true) (reply : α → Reply) (turn : Turn σ α) :
    (∃ s wait, turn.progress = .waiting s ∧
        Goes id old (.running (wrap s) wait) w (w.settle id wrap reply turn)) ∨
      ∃ outcome, turn.progress = .finished outcome ∧
        Goes id old (.ended (reply outcome) w.now) w (w.settle id wrap reply turn) := by
  have halike := w.alike_tell turn.notices
  have hwas := (halike.states id).trans was
  unfold settle
  cases turn.progress with
  | waiting s =>
    obtain ⟨wait, hgoes⟩ := goes_await hwas (waits s)
    exact .inl ⟨s, wait, rfl, halike.goes hgoes⟩
  | finished outcome =>
    exact .inr ⟨outcome, rfl, halike.goes (goes_finish hwas _)⟩

end Goes

/-! ## Answers -/

/-- Whether the answer to a request has nothing to do with the receipts. -/
def isElsewhere : Request → Bool
  | .receive _ | .subscribe _ | .launch .. => false
  | _ => true

/-- Whether a request is one that a recorder makes. -/
def isOfRecorder : Request → Bool
  | .update .. | .append _ | .sleep _ => true
  | _ => false

section Answers

variable {w w' w₁ : World} {id : TaskId} {task : Task} {activity : Activity} {wait : Wait}

theorem alike_of_call {ε α : Type} {fault : Fault → Option ε}
    {operation : World → Except ε α × World} {given : Option (Except ε α)}
    (h : w.call wait fault operation = some (w', given)) (hop : w.Alike (operation w).2) :
    w.Alike w' := by
  rcases world_of_call h with rfl | rfl
  · exact w'.alike_refl
  · exact hop

theorem alike_of_answer {r : Request} {given : Option r.Answer} (elsewhere : isElsewhere r = true)
    (h : w.answer? id task activity wait r = some (w', given)) : w.Alike w' := by
  cases r with
  | proceed =>
    cases h
    exact w.alike_refl
  | enter =>
    simp only [World.answer?] at h
    split at h
    · cases h
      exact w.alike_refl
    · cases h
  | fetch limit =>
    rcases world_of_fetch h with rfl | rfl
    · exact w'.alike_refl
    · exact alike_of_eq rfl rfl rfl (Nat.le_refl _)
  | release | append | ready =>
    simp only [World.answer?] at h
    exact alike_of_call h (alike_of_eq rfl rfl rfl (Nat.le_refl _))
  | update message status =>
    simp only [World.answer?] at h
    exact alike_of_call h (w.alike_update message status)
  | publish exchange m =>
    simp only [World.answer?] at h
    exact alike_of_call h (w.alike_publish exchange m)
  | sleep =>
    simp only [World.answer?] at h
    split at h
    · cases h
      exact w.alike_refl
    · cases h
  | pause =>
    simp only [World.answer?] at h
    split at h
    · split at h
      · cases h
        exact w.alike_refl
      · cases h
    · split at h
      · cases h
        exact w.alike_see id
      · cases h
  | take exchange =>
    have halike : w.broker.Alike (w.broker.take exchange).2 := by
      unfold Broker.take
      split <;> exact ⟨rfl, rfl, rfl, rfl⟩
    cases h
    exact ⟨halike, fun _ => rfl, fun h => h, Nat.le_refl _⟩
  | listen =>
    simp only [World.answer?] at h
    split at h
    · cases h
      exact alike_of_eq rfl rfl rfl (Nat.le_refl _)
    · split at h
      · cases h
        exact alike_of_eq rfl rfl rfl (Nat.le_refl _)
      · cases h
  | halt loops =>
    cases h
    refine List.foldlRecOn loops _ w.alike_refl fun w' hw' loop _ => ?_
    exact hw'.trans ((w'.alike_changeSignal ..).trans (alike_wake ..))
  | join =>
    obtain ⟨ending, -, h⟩ := Option.map_eq_some_iff.mp h
    cases h
    exact w.alike_refl
  | receive | subscribe | launch => cases elsewhere

/-- A task that gets its answer goes on with it, unless it is made to crash. -/
theorem answered_cases {r : Request} {response : Response r.Answer}
    {resume : World → r.Answer → World} (h : answered id response resume = some w') :
    (∃ w₁, response = some (w₁, none) ∧ w' = w₁.finish id .crashed) ∨
      ∃ w₁ answer, response = some (w₁, some answer) ∧ w' = resume w₁ answer := by
  obtain ⟨⟨w₁, given⟩, hresponse, h⟩ := Option.map_eq_some_iff.mp h
  cases given with
  | none =>
    cases h
    exact .inl ⟨w₁, hresponse, rfl⟩
  | some answer =>
    cases h
    exact .inr ⟨w₁, answer, hresponse, rfl⟩

theorem elsewhere_of_recorder {r : Request} (h : isOfRecorder r = true) :
    isElsewhere r = true := by
  cases r <;> first | rfl | cases h

theorem ofRecorder_recording (c : Config) (s : Recording) : isOfRecorder (s.request c) = true := by
  cases s <;> rfl

theorem ofRecorder_handling (c : Config) (s : Handling) : isOfRecorder (s.request c) = true := by
  cases s with
  | recording => exact ofRecorder_recording c _
  | rechecking => rfl

theorem elsewhere_recording (c : Config) (s : Recording) : isElsewhere (s.request c) = true :=
  elsewhere_of_recorder (ofRecorder_recording c s)

theorem elsewhere_handling (c : Config) (s : Handling) : isElsewhere (s.request c) = true :=
  elsewhere_of_recorder (ofRecorder_handling c s)

theorem elsewhere_batching (c : Config) (s : Batching) : isElsewhere (s.request c) = true := by
  cases s with
  | recovering => exact elsewhere_recording c _
  | recording => exact elsewhere_recording c _
  | _ => rfl

theorem elsewhere_publishing (c : Config) (s : Publishing) : isElsewhere (s.request c) = true := by
  cases s with
  | batching => exact elsewhere_batching c _
  | _ => rfl

theorem elsewhere_popping (s : Popping) : isElsewhere s.request = true := by
  cases s <;> rfl

theorem elsewhere_stopping (s : Stopping) : isElsewhere s.request = true := by
  cases s <;> rfl

end Answers

end World

end Outbox.Rehearsal
