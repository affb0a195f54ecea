import Outbox.Proofs.Rehearsal.Aside
/-!
# `Proofs.Rehearsal.Schedule` — a rehearsal is a run of the interplay

Whoever goes on, and whenever time does, a rehearsal does what the interplay can do. So every state
that a rehearsal reaches is shown by a state that a run of the interplay reaches, and what is proved
of all runs holds of what is rehearsed.
-/

namespace Outbox.Rehearsal

open Interplay

section Schedule

variable {s : System} {w w' : World} {id : TaskId}

/-! ## Turns and time -/

/-- **A turn of a task is a run of the interplay.** -/
theorem follows_of_turn (h : Shows s w) (hturn : w.turn? id = some w') : Follows s w' := by
  cases hcall : s.calls.get? id with
  | none => exact follows_of_aside h hcall hturn
  | some call => exact follows_of_call h hcall hturn

/-- Time goes on to a later moment. -/
theorem follows_of_time (h : Shows s w) {moment : Nat} (later : w.now ≤ moment) :
    Follows s { w with now := moment } := by
  have hallowed : s.allows (.wait (moment - w.now)) = true := rfl
  refine follows_of_outside hallowed { h with now := ?_ }
  show moment = s.now + (moment - w.now)
  have hnow := h.now
  omega

/-- What is due next is due later. -/
theorem lt_of_nextMoment? {moment : Nat} (h : w.nextMoment? = some moment) : w.now < moment := by
  have hmem := List.min?_mem h
  exact of_decide_eq_true (List.mem_filter.mp hmem).2

/-! ## The order of the turns -/

theorem Shows.wakeReady (h : Shows s w) (first : Option TaskId) : Shows s (w.wakeReady first) :=
  List.foldlRecOn _ _ h fun _ h' t _ => h'.wake t

theorem follows_of_rest (h : Shows s w) (first : Option TaskId) (fuel : Nat) :
    Follows s (w.rest first fuel) := by
  induction fuel generalizing s w with
  | zero => exact h.follows
  | succ fuel ih =>
    unfold World.rest
    split
    · exact h.follows
    · next t others hwoken =>
      split
      · next w' hturn =>
        exact (follows_of_turn h hturn).trans fun h' => ih (h'.wakeReady first)
      · have hforgot : Shows s { w with woken := others } := { h with }
        exact ih hforgot

theorem follows_of_runUntilEnd (h : Shows s w) (id : TaskId) (patience fuel : Nat) :
    Follows s (w.runUntilEnd id patience fuel) := by
  induction fuel generalizing s w with
  | zero => exact h.follows
  | succ fuel ih =>
    unfold World.runUntilEnd
    split
    · exact h.follows
    · split
      · next w' hturn =>
        exact (follows_of_turn h hturn).trans fun h' => ih (h'.wakeReady _)
      · refine (follows_of_rest h (some id) patience).trans fun h' => ?_
        simp only
        split
        · exact ih h'
        · split
          · next moment hmoment =>
            have hlater := Nat.le_of_lt (lt_of_nextMoment? hmoment)
            exact (follows_of_time h' hlater).trans fun h'' => ih (h''.wakeReady _)
          · exact h'.follows

/-! ## Actions -/

/-- A task that has come to its end may be forgotten. -/
theorem Shows.forget (h : Shows s w) (ended : (w.ended id).isSome = true) :
    Shows s { w with tasks := w.tasks.erase id } := by
  have hfree : s.calls.get? id = none := by
    have hshown := h.tasks id
    rw [World.ended] at ended
    generalize w.tasks.get? id = task? at hshown ended
    generalize s.calls.get? id = call? at hshown
    cases hshown with
    | absent => rfl
    | ended => rfl
    | aside => rfl
    | call => cases ended
  refine { h with tasks := fun t => ?_, fresh := fun t ht => ?_, taskHasRoom := fun t task => ?_ }
  · rw [Table.get?_erase]
    split
    · next ht =>
      rw [← ht, hfree]
      exact .absent
    · exact h.tasks t
  · rw [Table.get?_erase]
    split
    · rfl
    · exact h.fresh t ht
  · rw [Table.get?_erase]
    split
    · intro hgone
      cases hgone
    · exact h.taskHasRoom t task

/-- The world in which an action is about to begin; its task has the number that was fresh. -/
def World.about (w : World) (action : Action) : World :=
  (w.addTask w.config none (.acting action)).2

/-- The world in which an action has its reply, if it ever gets one. -/
def World.replied (w : World) (action : Action) : World :=
  (w.about action).runUntilEnd w.fresh World.patience World.patience

/-- Whether an action ever gets its reply. -/
def World.replies (w : World) (action : Action) : Bool :=
  ((w.replied action).ended w.fresh).isSome

/-- When an action has its reply, the others go on for as long as they can. -/
theorem follows_of_replied {action : Action} (h : Follows s (w.replied action))
    (replies : w.replies action = true) : Follows s (w.perform action).2 :=
  h.trans fun h' => follows_of_rest (h'.forget replies) none World.patience

/-- **An orderly action is a run of the interplay.** -/
theorem follows_of_perform (h : Shows s w) {action : Action} (orderly : action.isOrderly = true)
    (replies : w.replies action = true) : Follows s (w.perform action).2 := by
  have haside : (Activity.acting action).isAside = true := orderly
  have habout : Shows s (w.about action) := h.addAside h.hasRoom none haside
  exact follows_of_replied (follows_of_runUntilEnd habout ..) replies

/-! ## Insertions -/

/-- A new message is inserted. -/
theorem follows_of_insert (h : Shows s w) (draft : Draft)
    (new : w.store.messages.contains (w.insert draft).1 = false) :
    Follows s (w.insert draft).2 := by
  have hallowed : s.allows (.insert (w.insert draft).1 draft w.clock) = true := by
    rw [System.allows, ← h.store, new]
    rfl
  have hgiven : Shows s w.takeMessageId.2 ∧ w.takeMessageId.2.clock = w.clock := by
    unfold World.takeMessageId
    split <;> exact ⟨{ h with }, rfl⟩
  refine follows_of_outside hallowed { hgiven.1 with store := ?_ }
  show w.takeMessageId.2.store.insert (.ofDraft w.takeMessageId.1 draft w.takeMessageId.2.clock) =
    s.store.insert (.ofDraft w.takeMessageId.1 draft w.clock)
  rw [hgiven.1.store, hgiven.2]

/-- An insertion has nothing to do with the tasks. -/
theorem insert_frame (w : World) (draft : Draft) (tasks : Table TaskId Task) (fresh : Nat) :
    { w with tasks, fresh }.insert draft =
      ((w.insert draft).1, { (w.insert draft).2 with tasks, fresh }) := by
  simp only [World.insert, World.takeMessageId]
  cases w.givenIds <;> rfl

theorem insert_tasks (w : World) (draft : Draft) :
    (w.insert draft).2.tasks = w.tasks ∧ (w.insert draft).2.fresh = w.fresh := by
  simp only [World.insert, World.takeMessageId]
  cases w.givenIds <;> exact ⟨rfl, rfl⟩

/-- The task that is about to insert a message. -/
def inserting (w : World) (draft : Draft) : Task :=
  ⟨w.config, none, .running (.acting (.insert draft)) ⟨w.fresh, none, .none⟩⟩

/-- The task that has inserted a message. -/
def inserted (w : World) (draft : Draft) : Task :=
  ⟨w.config, none, .ended (.identifier (w.insert draft).1) (w.insert draft).2.now⟩

/-- The world in which an action has inserted a message. -/
def afterInsert (w : World) (draft : Draft) : World :=
  { (w.insert draft).2 with
    tasks := (w.tasks.put w.fresh (inserting w draft)).put w.fresh (inserted w draft)
    fresh := w.fresh + 1 }

theorem get?_about (w : World) (draft : Draft) :
    (w.about (.insert draft)).tasks.get? w.fresh = some (inserting w draft) :=
  (Table.get?_put ..).trans (if_pos rfl)

/-- The task that inserts a message has its reply after one turn. -/
theorem turn?_about (w : World) (draft : Draft) :
    (w.about (.insert draft)).turn? w.fresh = some (afterInsert w draft) := by
  have hturn : (w.about (.insert draft)).turn? w.fresh =
      some ((w.about (.insert draft)).begin w.fresh (.insert draft)) := by
    simp only [World.turn?, get?_about, Option.bind_eq_bind, Option.bind_some]
    rfl
  have hinsert : (w.about (.insert draft)).insert draft =
      ((w.insert draft).1, { (w.insert draft).2 with
        tasks := w.tasks.put w.fresh (inserting w draft), fresh := w.fresh + 1 }) :=
    insert_frame w draft _ _
  have hget : (w.tasks.put w.fresh (inserting w draft)).get? w.fresh = some (inserting w draft) :=
    get?_about w draft
  rw [hturn]
  show some (((w.about (.insert draft)).insert draft).2.finish w.fresh
    (.identifier ((w.about (.insert draft)).insert draft).1)) = _
  rw [hinsert, World.finish, World.setState_of_get _ hget]
  rfl

/-- Waking tasks leaves them as they are. -/
theorem tasks_wakeReady (w : World) (first : Option TaskId) :
    (w.wakeReady first).tasks = w.tasks := by
  refine List.foldlRecOn (motive := fun w' => World.tasks w' = w.tasks) _ _ rfl fun w' h t _ => ?_
  unfold World.wake
  split <;> exact h

/-- An insertion is over after one turn. -/
theorem replied_insert (w : World) (draft : Draft) :
    w.replied (.insert draft) = (afterInsert w draft).wakeReady (some w.fresh) ∧
      w.replies (.insert draft) = true := by
  have habout : ((w.about (.insert draft)).ended w.fresh).isSome = false := by
    rw [World.ended, get?_about]
    rfl
  have hended : (((afterInsert w draft).wakeReady (some w.fresh)).ended w.fresh).isSome = true := by
    rw [World.ended, tasks_wakeReady, afterInsert, Table.get?_put, if_pos rfl]
    rfl
  have hreplied (n : Nat) : (w.about (.insert draft)).runUntilEnd w.fresh World.patience (n + 2) =
      (afterInsert w draft).wakeReady (some w.fresh) := by
    rw [World.runUntilEnd, habout, if_neg Bool.false_ne_true, turn?_about]
    simp only
    rw [World.runUntilEnd, hended, if_pos rfl]
  have heq : w.replied (.insert draft) = (afterInsert w draft).wakeReady (some w.fresh) :=
    hreplied (World.patience - 2)
  refine ⟨heq, ?_⟩
  rw [World.replies, heq]
  exact hended

/-- **The insertion of a new message is a run of the interplay.** -/
theorem follows_of_perform_insert (h : Shows s w) (draft : Draft)
    (new : w.store.messages.contains (w.insert draft).1 = false) :
    Follows s (w.perform (.insert draft)).2 := by
  obtain ⟨hreplied, hreplies⟩ := replied_insert w draft
  refine follows_of_replied ((follows_of_insert h draft new).trans fun h' => ?_) hreplies
  have hhidden := h'.addHidden (.ended : Shown (some (inserted w draft)) none) h.hasRoom
  rw [(insert_tasks w draft).1, (insert_tasks w draft).2] at hhidden
  rw [hreplied]
  refine ((hhidden.retable fun t => ?_).wakeReady _).follows
  -- the task was there before it had its reply
  simp only [Table.get?_put]
  split <;> rfl

end Schedule

/-! ## Rehearsals -/

/-- The states that a rehearsal reaches when its actions are orderly, insert new messages only and
have their replies, and there is room for its batches. -/
inductive Reached (c : Config) (clockStart : Int) (ids : List MessageId) : World → Prop
  | initial (hasRoom : c.HasRoom) : Reached c clockStart ids (.initial c clockStart ids)
  | act {w : World} {action : Action} (reached : Reached c clockStart ids w)
      (orderly : action.isOrderly = true) (replies : w.replies action = true) :
      Reached c clockStart ids (w.perform action).2
  | insert {w : World} {draft : Draft} (reached : Reached c clockStart ids w)
      (new : w.store.messages.contains (w.insert draft).1 = false) :
      Reached c clockStart ids (w.perform (.insert draft)).2
  /-- What was told has been taken out. -/
  | told {w : World} (reached : Reached c clockStart ids w) :
      Reached c clockStart ids w.takeTold.2

theorem shows_initial {c : Config} (hasRoom : c.HasRoom) (clockStart : Int)
    (ids : List MessageId) : Shows .initial (.initial c clockStart ids) where
  now := rfl
  store := rfl
  history := rfl
  broker := rfl
  carried := rfl
  tasks _ := .absent
  nodup := List.nodup_nil
  scripts _ _ hi := absurd hi List.not_mem_nil
  fresh _ _ := rfl
  hasRoom
  pipelineHasRoom _ h := by cases h
  taskHasRoom _ _ h := by cases h

/-- **A rehearsal is a run of the interplay.** -/
theorem Reached.shown {c : Config} {clockStart : Int} {ids : List MessageId} {w : World}
    (h : Reached c clockStart ids w) : Follows .initial w := by
  induction h with
  | initial hasRoom => exact (shows_initial hasRoom clockStart ids).follows
  | act reached orderly replies ih =>
    exact ih.trans fun h => follows_of_perform h orderly replies
  | insert reached new ih => exact ih.trans fun h => follows_of_perform_insert h _ new
  | told reached ih => exact ih.trans fun h => Shows.follows { h with }

-- a message is inserted and then published in one batch
example :
    ((World.initial .default 0 []).perform (.insert ⟨"team", .ofJson .null, .empty⟩)).2.replies
      (.batch "publisher" "stop") = true := by
  rfl

/-- What holds of the store, the history and the broker after every run holds of them in every state
that a rehearsal reaches. -/
theorem Reached.of_run {c : Config} {clockStart : Int} {ids : List MessageId} {w : World}
    (h : Reached c clockStart ids w) {P : Store → History → Broker → Prop}
    (holds : ∀ {trace s}, Run .initial trace s → P s.store s.history s.broker) :
    P w.store w.history w.broker := by
  obtain ⟨trace, s, run, hshows⟩ := h.shown
  rw [hshows.store, hshows.history, hshows.broker]
  exact holds run

end Outbox.Rehearsal
