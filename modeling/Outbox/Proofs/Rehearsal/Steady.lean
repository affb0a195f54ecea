import Outbox.Proofs.Rehearsal.Likeness
import Outbox.Proofs.Store.Effect
/-!
# `Proofs.Rehearsal.Steady` — what leaves the pipeline and the messages alone

Hardly anything that a task does touches the pipeline, and few of its requests write to the store or
the history. `Undisturbed` says that nothing has happened to the messages but that new ones may have
come in. `Steady` says of what comes before a task goes on that the pipeline and the tasks are as
they were, and the messages undisturbed if nothing was written; going on touches none of them.
-/

namespace Outbox

/-- Whether a request is to claim messages, to move one, to end claims or to add to the history. -/
def Request.writes : Request → Bool
  | .fetch _ | .update .. | .release _ | .append _ => true
  | _ => false

namespace Rehearsal

/-- Whether an action reaches past the loops and writes to the store or the history itself. -/
def Action.writes : Action → Bool
  | .fetch _ | .update .. | .release _ | .append _ => true
  | _ => false

/-- Whether a task is at something that may write to the store or the history. -/
def TaskState.writes : TaskState → Bool
  | .running (.acting action) _ => action.writes
  | .running (.recording _) _ | .running (.handling _) _ => true
  | .running (.batching ..) _ | .running (.publishing ..) _ | .running (.consuming _) _ => true
  | _ => false

/-! ## Messages that are left alone -/

/-- No message that was there has been moved, claimed or set free, and the history is as it was.
Messages may have come in. -/
structure Undisturbed (w w' : World) : Prop where
  writes : w'.store.writes = w.store.writes
  claimed : w'.store.claimed = w.store.claimed
  history : w'.history = w.history
  statuses : ∃ new, w'.store.order = w.store.order ++ new ∧
    ∀ id, id ∉ new → w'.store.status? id = w.store.status? id

namespace Undisturbed

variable {w w' w'' : World}

theorem of_same (store : w.store.Same w'.store) (history : w'.history = w.history) :
    Undisturbed w w' where
  writes := store.writes
  claimed := store.claimed
  history := history
  statuses := ⟨[], by rw [store.order, List.append_nil], fun id _ => store.status? id⟩

theorem of_eq (store : w'.store = w.store) (history : w'.history = w.history) :
    Undisturbed w w' :=
  of_same (store ▸ Store.Same.refl _) history

theorem refl (w : World) : Undisturbed w w :=
  of_eq rfl rfl

theorem trans (h : Undisturbed w w') (h' : Undisturbed w' w'') : Undisturbed w w'' where
  writes := h'.writes.trans h.writes
  claimed := h'.claimed.trans h.claimed
  history := h'.history.trans h.history
  statuses := by
    obtain ⟨new, horder, hstatus⟩ := h.statuses
    obtain ⟨new', horder', hstatus'⟩ := h'.statuses
    refine ⟨new ++ new', by rw [horder', horder, List.append_assoc], fun id hid => ?_⟩
    obtain ⟨hnew, hnew'⟩ := not_or.mp (mt List.mem_append.mpr hid)
    exact (hstatus' id hnew').trans (hstatus id hnew)

end Undisturbed

namespace World

/-! ## Going on -/

/-- What stays as it is when a task goes on. -/
structure Standing where
  pipeline : Option Pipeline
  store : Store
  history : History
  signals : Table SignalId Signal

/-- The pipeline, the messages and the signals of a world. -/
def standing (w : World) : Standing :=
  ⟨w.pipeline, w.store, w.history, w.signals⟩

section Standing

variable {w w' : World}

@[simp]
theorem standing_setState (w : World) (id : TaskId) (state : TaskState) :
    (w.setState id state).standing = w.standing := by
  unfold setState
  split <;> rfl

@[simp]
theorem standing_finish (w : World) (id : TaskId) (reply : Reply) :
    (w.finish id reply).standing = w.standing :=
  w.standing_setState id _

@[simp]
theorem standing_takeInterference (w : World) (target : Target) :
    (w.takeInterference target).2.standing = w.standing := by
  unfold takeInterference
  split <;> rfl

@[simp]
theorem standing_arrive (w : World) (id : TaskId) (r : Request) :
    (w.arrive id r).2.standing = w.standing := by
  cases hr : target? r with
  | some target =>
    simp only [arrive, hr]
    exact standing_takeInterference _ target
  | none =>
    simp only [arrive, hr]
    cases r <;> rfl

@[simp]
theorem standing_await (w : World) (id : TaskId) (activity : Activity) :
    (w.await id activity).standing = w.standing := by
  unfold await
  split
  · rfl
  · next r _ => exact (standing_setState ..).trans (w.standing_arrive id r)

@[simp]
theorem standing_awaitUntil (w : World) (id : TaskId) (activity : Activity) (milliseconds : Nat) :
    (w.awaitUntil id activity milliseconds).standing = w.standing :=
  standing_setState ..

@[simp]
theorem standing_settle {σ α : Type} (w : World) (id : TaskId) (wrap : σ → Activity)
    (reply : α → Reply) (turn : Turn σ α) :
    (w.settle id wrap reply turn).standing = w.standing := by
  unfold settle
  split
  · exact (w.tell turn.notices).standing_await id _
  · exact (w.tell turn.notices).standing_finish id _

theorem undisturbed_of_standing (h : w'.standing = w.standing) : Undisturbed w w' :=
  .of_eq (congrArg Standing.store h) (congrArg Standing.history h)

end Standing

/-! ## What comes before that -/

/-- The pipeline and how far the tasks are is as it was, and unless something was written the
messages are undisturbed. -/
structure Steady (writes : Bool) (w w₁ : World) : Prop where
  pipeline : w₁.pipeline = w.pipeline
  states : ∀ t, w₁.stateOf t = w.stateOf t
  fresh : w.fresh ≤ w₁.fresh
  undisturbed : writes = false → Undisturbed w w₁

section Steady

variable {writes : Bool} {w w' w₁ w₂ : World} {id : TaskId}

theorem Steady.trans (h : Steady writes w w₁) (h' : Steady writes w₁ w₂) : Steady writes w w₂ where
  pipeline := h'.pipeline.trans h.pipeline
  states t := (h'.states t).trans (h.states t)
  fresh := Nat.le_trans h.fresh h'.fresh
  undisturbed quiet := (h.undisturbed quiet).trans (h'.undisturbed quiet)

/-- What is alike and has the pipeline and the messages that it had is steady. -/
theorem Alike.steady (h : w.Alike w₁) (pipeline : w₁.pipeline = w.pipeline)
    (undisturbed : writes = false → Undisturbed w w₁) : Steady writes w w₁ :=
  ⟨pipeline, h.states, h.fresh, undisturbed⟩

theorem Alike.steady_of_standing (h : w.Alike w₁) (standing : w₁.standing = w.standing) :
    Steady writes w w₁ :=
  h.steady (congrArg Standing.pipeline standing) fun _ => undisturbed_of_standing standing

theorem steady_of_eq (tasks : w₁.tasks = w.tasks) (pipeline : w₁.pipeline = w.pipeline)
    (fresh : w.fresh ≤ w₁.fresh) (undisturbed : writes = false → Undisturbed w w₁) :
    Steady writes w w₁ where
  pipeline
  states t := by
    unfold stateOf
    rw [tasks]
  fresh
  undisturbed

theorem steady_refl (writes : Bool) (w : World) : Steady writes w w :=
  w.alike_refl.steady_of_standing rfl

/-- Only what is not looked at has changed. -/
theorem steady_aside (tasks : w₁.tasks = w.tasks) (standing : w₁.standing = w.standing)
    (fresh : w₁.fresh = w.fresh) : Steady writes w w₁ :=
  steady_of_eq tasks (congrArg Standing.pipeline standing) (Nat.le_of_eq fresh.symm)
    fun _ => undisturbed_of_standing standing

/-! ## Actions -/

theorem undisturbed_insert (w : World) (draft : Draft) : Undisturbed w (w.insert draft).2 := by
  have hstore (m : Message) (givenIds : List MessageId) (nextMessage : Nat)
      (inserted : Table MessageId Message) : Undisturbed w
        { w with store := w.store.insert m, givenIds, nextMessage, inserted } := by
    refine ⟨rfl, rfl, rfl, [m.id], rfl, fun id hid => ?_⟩
    have hne : m.id ≠ id := fun heq => hid (List.mem_singleton.mpr heq.symm)
    show ((w.store.messages.put m.id m).get? id).map Message.status = _
    rw [Table.get?_put, if_neg hne]
    rfl
  simp only [insert, takeMessageId]
  split <;> exact hstore ..

theorem steady_insert (w : World) (draft : Draft) : Steady writes w (w.insert draft).2 := by
  refine (w.alike_insert draft).steady ?_ fun _ => w.undisturbed_insert draft
  simp only [insert, takeMessageId]
  split <;> rfl

theorem steady_insertMany (w : World) (next n : Nat) :
    Steady writes w (w.insertMany next n).2 := by
  induction n generalizing w next with
  | zero => exact steady_refl writes w
  | succ n ih =>
    unfold insertMany
    exact (w.steady_insert _).trans (ih _ _)

theorem steady_serve (w : World) (failing : List MessageId) (detail exchange queue : String)
    (n : Nat) : Steady writes w (w.serve failing detail exchange queue n).2 := by
  induction n generalizing w with
  | zero => exact steady_refl writes w
  | succ n ih =>
    unfold serve
    split
    · exact steady_aside rfl rfl rfl
    · next p broker _ =>
      have hdelivered (broker : Broker) : Steady writes w { w with broker } :=
        steady_aside rfl rfl rfl
      exact (hdelivered _).trans (ih _)

/-- An operation that is made to fail changes no message, and neither does one that looks. -/
theorem same_attempt {α : Type} (s : Store)
    {operation : Store → Except StoreFailure α × Store} (looks : s.Same (operation s).2) :
    s.Same (s.attempt operation).2 := by
  unfold Store.attempt
  split
  · exact ⟨rfl, rfl, rfl, rfl⟩
  · exact looks

theorem steady_publish (w : World) (exchange : String) (m : Message) :
    Steady writes w (w.publish exchange m).2 := by
  refine (w.alike_publish exchange m).steady_of_standing ?_
  unfold publish
  split <;> rfl

theorem steady_signalOf (w : World) (name : Name) : Steady writes w (w.signalOf name).2 := by
  refine (w.alike_signalOf name).steady ?_ fun _ => .of_eq ?_ ?_
  all_goals
    unfold signalOf
    split <;> rfl

theorem steady_publisherOf (w : World) (name : Name) : Steady writes w (w.publisherOf name).2 := by
  refine (w.alike_publisherOf name).steady_of_standing ?_
  unfold publisherOf
  split <;> rfl

theorem steady_watchFor (w : World) (id : TaskId) (signal : Name) :
    Steady writes w (w.watchFor id signal) := by
  have hwatched : Steady writes w (w.watch signal).2 := w.steady_signalOf signal
  unfold watchFor
  generalize w.watch signal = watched at hwatched
  obtain ⟨watch, w₁⟩ := watched
  simp only
  split
  · next task htask =>
    have hput : w₁.Alike { w₁ with tasks := w₁.tasks.put id { task with watch := some watch } } :=
      alike_put htask rfl
    exact hwatched.trans (hput.steady_of_standing rfl)
  · exact hwatched

/-- What an action does at once leaves the pipeline alone, and adds no task if it spawns none. -/
theorem steady_of_actAtOnce {action : Action} {reply : Reply}
    (spawns : ∀ name other, action ≠ .spawn name other)
    (h : w.actAtOnce? action = some (reply, w')) : Steady action.writes w w' := by
  cases action with
  | insert draft =>
    cases h
    exact w.steady_insert draft
  | insertMany n =>
    cases h
    exact w.steady_insertMany 0 n
  | fetch limit =>
    rcases world_of_fetchAtOnce h with rfl | rfl
    · exact steady_refl _ w'
    · exact steady_of_eq rfl rfl (Nat.le_refl _) nofun
  | update | release | append =>
    cases h
    exact steady_of_eq rfl rfl (Nat.le_refl _) nofun
  | get | tally =>
    cases h
    refine steady_of_eq rfl rfl (Nat.le_refl _) fun _ => .of_same ?_ rfl
    exact same_attempt w.store (.refl _)
  | failOperations | failUpdates =>
    cases h
    exact steady_of_eq rfl rfl (Nat.le_refl _) fun _ => .of_same ⟨rfl, rfl, rfl, rfl⟩ rfl
  | publish message exchange =>
    simp only [actAtOnce?] at h
    split at h
    · cases h
      exact steady_refl _ w
    · cases h
      exact w.steady_publish ..
  | serve n failing detail exchange queue =>
    cases h
    exact w.steady_serve ..
  | subscribe name queue =>
    simp only [actAtOnce?] at h
    split at h <;> cases h <;> exact steady_aside rfl rfl rfl
  | unsubscribe name =>
    simp only [actAtOnce?] at h
    split at h <;> cases h <;> exact steady_aside rfl rfl rfl
  | setSignal name value =>
    cases h
    exact (w.steady_signalOf name).trans
      (steady_of_eq rfl rfl (Nat.le_refl _) fun _ => .of_eq rfl rfl)
  | dropSignal name =>
    simp only [actAtOnce?] at h
    split at h <;> cases h <;> exact steady_of_eq rfl rfl (Nat.le_refl _) fun _ => .of_eq rfl rfl
  | isFinished name =>
    simp only [actAtOnce?] at h
    split at h <;> cases h <;> exact steady_refl _ w
  | entriesOf | allEntries | historyIsEmpty | setReachable | reject | failPublications | ready
  | deliver | close | cut | subscribers | setClock | script =>
    cases h
    exact steady_aside rfl rfl rfl
  | spawn name other => exact absurd rfl (spawns name other)
  | pop | serveForever | next | record | batch | runPublisher | handle | runConsumer | build | start
  | stop | shutDown | advance | join | impossible => cases h

/-! ## Answers -/

variable {task : Task} {activity : Activity} {wait : Wait}

theorem steady_see (w : World) (id : TaskId) : Steady writes w (w.see id) := by
  refine (w.alike_see id).steady_of_standing ?_
  unfold see
  split <;> rfl

theorem steady_of_call {ε α : Type} {fault : Fault → Option ε}
    {operation : World → Except ε α × World} {given : Option (Except ε α)}
    (h : w.call wait fault operation = some (w₁, given))
    (made : Steady writes w (operation w).2) : Steady writes w w₁ := by
  rcases world_of_call h with rfl | rfl
  · exact steady_refl writes w₁
  · exact made

/-- An answer leaves the pipeline and the tasks alone unless it sets loops going, and the messages
unless something is written. -/
theorem steady_of_answer {r : Request} {given : Option r.Answer}
    (launches : ∀ publisher consumer, r ≠ .launch publisher consumer)
    (h : w.answer? id task activity wait r = some (w₁, given)) : Steady r.writes w w₁ := by
  cases r with
  | proceed =>
    cases h
    exact steady_refl _ w
  | enter =>
    simp only [World.answer?] at h
    split at h
    · cases h
      exact steady_refl _ w
    · cases h
  | fetch limit =>
    rcases world_of_fetch h with rfl | rfl
    · exact steady_refl _ w₁
    · exact steady_of_eq rfl rfl (Nat.le_refl _) fun h => by cases h
  | release | append =>
    simp only [World.answer?] at h
    exact steady_of_call h (steady_of_eq rfl rfl (Nat.le_refl _) fun h => by cases h)
  | update message status =>
    simp only [World.answer?] at h
    refine steady_of_call h ((w.alike_update message status).steady ?_ fun h => by cases h)
    unfold update
    split <;> rfl
  | publish exchange m =>
    simp only [World.answer?] at h
    exact steady_of_call h (w.steady_publish exchange m)
  | ready | subscribe =>
    simp only [World.answer?] at h
    exact steady_of_call h (steady_aside rfl rfl rfl)
  | sleep =>
    simp only [World.answer?] at h
    split at h
    · cases h
      exact steady_refl _ w
    · cases h
  | pause =>
    simp only [World.answer?] at h
    split at h
    · split at h
      · cases h
        exact steady_refl _ w
      · cases h
    · split at h
      · cases h
        exact w.steady_see id
      · cases h
  | receive stream =>
    simp only [World.answer?] at h
    split at h
    · cases h
      exact w.steady_see id
    · split at h <;> cases h <;> exact steady_aside rfl rfl rfl
  | take exchange =>
    cases h
    exact steady_aside rfl rfl rfl
  | listen =>
    simp only [World.answer?] at h
    split at h
    · cases h
      exact steady_aside rfl rfl rfl
    · split at h
      · cases h
        exact steady_aside rfl rfl rfl
      · cases h
  | launch publisher consumer => exact absurd rfl (launches publisher consumer)
  | halt loops =>
    cases h
    refine List.foldlRecOn loops _ (steady_refl _ w) fun w' hw' loop _ => hw'.trans ?_
    refine ((w'.alike_changeSignal ..).trans (alike_wake ..)).steady ?_ fun _ => .of_eq ?_ ?_
    all_goals
      unfold wake
      split <;> rfl
  | join =>
    obtain ⟨ending, -, h⟩ := Option.map_eq_some_iff.mp h
    cases h
    exact steady_refl _ w

end Steady

end World

end Rehearsal

end Outbox
