import Outbox.Proofs.Rehearsal.Rooms
import Outbox.Proofs.Rehearsal.WindingUp
/-!
# `Proofs.Rehearsal.Told` — the scenes of a loop that is told to stop

In the scenes of a play that come after the moment at which a loop is told to stop, the loop goes on
by answers that heed its signal, or the others go on and leave it where it is. What a turn of such a
loop leads to is known of its process; this module carries it over to the scenes, and counts over
them. At every moment the loop can go on, at once or when time has come, unless it has to wait for
what its publisher carries.
-/

namespace Outbox

open Interplay

/-! ## Loops among the calls -/

namespace Interplay.Work

/-- Whether a call is a loop. -/
def isLoop : Work → Bool
  | .publishing .. | .consuming _ => true
  | .recording _ | .handling _ | .batching .. => false

/-- The message that a publisher's loop has in hand. -/
def inHand? : Work → Option MessageId
  | .publishing _ s => s.inHand?
  | _ => none

/-- The messages of the batch of a publisher's loop that come after the one in hand. -/
def unpublished : Work → List Message
  | .publishing _ s => s.unpublished
  | _ => []

/-- The entry that a call has yet to write. -/
def dueEntry? (work : Work) : Option HistoryEntry :=
  work.record?.bind Recording.due?

/-- Whether a publisher's loop is about to begin a batch. -/
def isOpening : Work → Bool
  | .publishing _ s => s.isOpening
  | _ => false

/-- A bound on the turns that a publisher's loop can still take when it is to stop, if its publisher
carries so many outcomes by now and `n` when the loop comes to have them to itself. -/
def turnsLeftFrom (c : Config) (n carried : Nat) : Work → Nat
  | .publishing _ s => s.turnsLeftFrom c n carried
  | _ => 0

/-- A bound on the turns that a consumer's loop can still take when it is to stop. -/
def turnsLeft (c : Config) : Work → Nat
  | .consuming s => s.turnsLeft c
  | _ => 0

/-- How many messages a loop may still hand to the broker when it is to stop. -/
def allowance : Work → Nat
  | .publishing _ s => s.allowance
  | _ => 0

section Loops

variable {c : Config} {stop : Bool} {carried : List Outcome} {publisher : PublisherId}

/-- What a publisher's loop shows of its next state. -/
theorem look_publishing {β : Type} {s : Publishing}
    (answer : ((publishing publisher s).request c).Answer) (f : Work → β) (b : β) :
    ((publishing publisher s).resume c stop carried answer).2.progress.look f b =
      (s.resume c stop carried answer).2.progress.look (fun s => f (.publishing publisher s)) b :=
  Turn.look_andThen (fun _ => rfl) fun _ => rfl

/-- What a consumer's loop shows of its next state. -/
theorem look_consuming {β : Type} {s : Consuming} (answer : ((consuming s).request c).Answer)
    (f : Work → β) (b : β) :
    ((consuming s).resume c stop carried answer).2.progress.look f b =
      (s.resume c stop answer).progress.look (fun s => f (.consuming s)) b :=
  Turn.look_andThen (fun _ => rfl) fun _ => rfl

variable {work : Work}

/-- A loop goes on with itself. -/
theorem loop_of_waiting {next : Work} {answer : (work.request c).Answer}
    (loop : work.isLoop = true)
    (h : (work.resume c stop carried answer).2.progress = .waiting next) :
    next.isLoop = true ∧ next.publisher? = work.publisher? := by
  cases work with
  | publishing publisher s =>
    rcases Turn.waiting_cases h with ⟨s', -, rfl⟩ | ⟨-, -, hlast⟩
    · exact ⟨rfl, rfl⟩
    · cases hlast
  | consuming s =>
    rcases Turn.waiting_cases h with ⟨s', -, rfl⟩ | ⟨-, -, hlast⟩
    · exact ⟨rfl, rfl⟩
    · cases hlast
  | recording | handling | batching => cases loop

/-- A loop that comes to its end has stopped. -/
theorem stopped_of_finished {result : Result} {answer : (work.request c).Answer}
    (loop : work.isLoop = true)
    (h : (work.resume c stop carried answer).2.progress = .finished result) :
    Rehearsal.Reply.ofResult result = .stopped := by
  cases work with
  | publishing publisher s =>
    obtain ⟨-, -, hlast⟩ := Turn.finished_cases h
    cases hlast
    rfl
  | consuming s =>
    obtain ⟨-, -, hlast⟩ := Turn.finished_cases h
    cases hlast
    rfl
  | recording | handling | batching => cases loop

theorem allowance_le (work : Work) : work.allowance ≤ 1 := by
  cases work with
  | publishing publisher s =>
    cases s with
    | batching batch => cases batch <;> simp [allowance, Publishing.allowance, Batching.allowance]
    | _ => exact Nat.zero_le 1
  | _ => exact Nat.zero_le 1

/-- A loop does not leave an entry that has yet to be written. -/
theorem accounts {entry : HistoryEntry} (loop : work.isLoop = true)
    (answer : (work.request c).Answer) (due : work.dueEntry? = some entry) :
    (work.request c).Accounts entry answer
      ((work.resume c stop carried answer).2.progress.look dueEntry? none)
      (work.resume c stop carried answer).2.notices := by
  cases work with
  | publishing publisher s =>
    exact Request.Accounts.andThen (Publishing.accounts answer due) fun _ => rfl
  | consuming s =>
    exact Request.Accounts.andThen (Consuming.accounts answer due) fun _ => rfl
  | recording | handling | batching => cases loop

end Loops

end Interplay.Work

namespace Rehearsal

/-! ## Views -/

/-- Who goes on in a scene with what it does. -/
def Scene.goer? (scene : Scene) : Option TaskId :=
  match scene.happening with
  | .turn t | .hear t => some t
  | _ => none

/-- Who goes on is the one whose state can change. -/
theorem Scene.not_goer {w w' : World} {happening : Happening} {t : TaskId}
    (mover : happening.mover? ≠ some t) : Scene.goer? ⟨w, happening, w'⟩ ≠ some t := by
  cases happening with
  | turn | hear => exact mover
  | begin | wait | forget | note | takeTold => exact (Option.some_ne_none t).symm

/-- Who takes a turn goes on. -/
theorem Scene.not_turn {scene : Scene} {t : TaskId} (goer : scene.goer? ≠ some t) :
    scene.happening ≠ .turn t := by
  intro h
  rw [goer?, h] at goer
  exact goer rfl

/-- The loop that a task is at. -/
def TaskState.loop? : TaskState → Option Work
  | .running (.publishing publisher s) _ => some (.publishing publisher s)
  | .running (.consuming s) _ => some (.consuming s)
  | _ => none

/-- Whether a task has crashed. -/
def TaskState.hasCrashed : TaskState → Bool
  | .ended .crashed _ => true
  | _ => false

theorem TaskState.loop?_ofWork {work : Work} (loop : work.isLoop = true) (wait : Wait) :
    (TaskState.running (.ofWork work) wait).loop? = some work := by
  cases work <;> first | rfl | cases loop

namespace World

/-- What a task shows of the loop that it is at. -/
def look {β : Type} (w : World) (t : TaskId) (f : Work → β) (b : β) : β :=
  (((w.stateOf t).bind TaskState.loop?).map f).getD b

/-- What a task asks for. -/
def requestOf (w : World) (t : TaskId) : Option Request :=
  w.tasks.get? t >>= fun task =>
    match task.state with
    | .running activity _ => activity.request? task.config
    | .ended .. => none

/-- The signal that a task watches tells it to stop also if it has waited: the signal is set, or it
was given up and the task has seen its last setting. -/
def IsHalted (w : World) (t : TaskId) : Prop :=
  ∃ task, w.tasks.get? t = some task ∧ w.halts task = true

/-- Until when a task waits, if time ends its wait. -/
def dueOf (w : World) (t : TaskId) : Option Nat :=
  w.tasks.get? t >>= Task.due?

/-- Whether a task that takes its turn now does not crash: no script makes it, and there is room for
what it fetches. -/
def spares (w : World) (t : TaskId) : Bool :=
  (w.turn? t).all fun w' => !(w'.stateOf t).any TaskState.hasCrashed

section Views

variable {w w' : World} {t : TaskId} {task : Task} {work : Work} {wait : Wait}

theorem look_of_get {β : Type} (get : w.tasks.get? t = some task)
    (was : task.state = .running (.ofWork work) wait) (loop : work.isLoop = true) (f : Work → β)
    (b : β) : w.look t f b = f work := by
  have hloop : task.state.loop? = some work := by
    rw [was]
    exact TaskState.loop?_ofWork loop wait
  rw [look, stateOf, get, Option.map_some, Option.bind_some, hloop, Option.map_some,
    Option.getD_some]

theorem look_of_ended {β : Type} {reply : Reply} {n : Nat}
    (h : w.stateOf t = some (.ended reply n)) (f : Work → β) (b : β) : w.look t f b = b := by
  rw [look, h]
  rfl

theorem look_of_gone {β : Type} (h : w.tasks.get? t = none) (f : Work → β) (b : β) :
    w.look t f b = b := by
  rw [look, stateOf, h]
  rfl

theorem look_congr {β : Type} (h : w'.tasks.get? t = w.tasks.get? t) (f : Work → β) (b : β) :
    w'.look t f b = w.look t f b := by
  rw [look, look, stateOf, stateOf, h]

theorem requestOf_of_get (get : w.tasks.get? t = some task)
    (was : task.state = .running (.ofWork work) wait) :
    w.requestOf t = some (work.request task.config) := by
  rw [requestOf, get, Option.bind_eq_bind, Option.bind_some, was]
  exact Activity.request?_ofWork ..

theorem requestOf_of_ended {reply : Reply} {n : Nat} (h : w.stateOf t = some (.ended reply n)) :
    w.requestOf t = none := by
  obtain ⟨task, hget, hstate⟩ := Option.map_eq_some_iff.mp h
  rw [requestOf, hget, Option.bind_eq_bind, Option.bind_some, hstate]

theorem dueOf_of_get {activity : Activity} (get : w.tasks.get? t = some task)
    (was : task.state = .running activity wait) : w.dueOf t = wait.due := by
  rw [dueOf, get, Option.bind_eq_bind, Option.bind_some, Task.due?, was]

end Views

end World

/-! ## Scenes -/

/-- A loop that is told to stop goes on by an answer. -/
structure Scene.Goes (scene : Scene) (t : TaskId) (task : Task) (work : Work) (wait : Wait)
    (answer : (work.request task.config).Answer) : Prop where
  goer : scene.goer? = some t
  step : scene.before.happen? scene.happening = some scene.after
  get : scene.before.tasks.get? t = some task
  was : task.state = .running (.ofWork work) wait
  loop : work.isLoop = true
  told : scene.before.stops task = true
  resumed : World.Resumed scene.before t task work answer scene.after

/-- A task is at its loop, has come to its end as a loop does, or is gone. -/
inductive World.Winds (w : World) (t : TaskId) (c : Config) (owner : Option PublisherId) : Prop
  | going {task : Task} {work : Work} {wait : Wait} (config : task.config = c)
      (owned : work.publisher? = owner) (get : w.tasks.get? t = some task)
      (was : task.state = .running (.ofWork work) wait) (loop : work.isLoop = true)
  | stopped {n : Nat} (ended : w.stateOf t = some (.ended .stopped n))
  | gone (gone : w.tasks.get? t = none)

/-- What a scene is for a loop that is told to stop, and works for a publisher or for none: the loop
goes on, the others do and leave it alone, or it is gone. -/
inductive Scene.Winds (scene : Scene) (t : TaskId) (c : Config) (owner : Option PublisherId) : Prop
  | goes {task : Task} {work : Work} {wait : Wait} {answer : (work.request task.config).Answer}
      (config : task.config = c) (owned : work.publisher? = owner)
      (goes : scene.Goes t task work wait answer)
  | stays (goer : scene.goer? ≠ some t)
      (same : scene.after.tasks.get? t = scene.before.tasks.get? t)
      (was : scene.before.Winds t c owner)
  | leaves (goer : scene.goer? ≠ some t) (ended : scene.before.isLive t = false)
      (gone : scene.after.tasks.get? t = none)

section Scenes

variable {w w' : World} {scene : Scene} {t : TaskId} {c : Config} {owner : Option PublisherId}
  {task : Task} {work : Work} {wait : Wait}

namespace Scene.Goes

variable {answer : (work.request task.config).Answer}

/-- Where a loop is that has gone on. -/
theorem next (goes : scene.Goes t task work wait answer) :
    (∃ next wait' watch, scene.after.tasks.get? t =
        some ⟨task.config, watch, .running (.ofWork next) wait'⟩ ∧ next.isLoop = true ∧
      next.publisher? = work.publisher? ∧
      (work.resume task.config true (scene.before.carriedFor work) answer).2.progress =
        .waiting next ∧
      ∀ milliseconds, next.request task.config = .sleep milliseconds →
        wait'.due = some (scene.after.now + milliseconds)) ∨
    (∃ n, scene.after.stateOf t = some (.ended .stopped n)) ∧
      ∃ result, (work.resume task.config true (scene.before.carriedFor work) answer).2.progress =
        .finished result := by
  obtain ⟨state, task', hseen, hensues, hget⟩ := goes.resumed.next
  have hconfig : task'.config = task.config := by
    rcases hseen with rfl | ⟨-, rfl⟩ <;> rfl
  rw [World.outcome, goes.told] at hensues
  cases hensues with
  | @waits next wait' hnext hsleeps =>
    obtain ⟨hloop, hsame⟩ := Work.loop_of_waiting goes.loop hnext
    refine .inl ⟨next, wait', task'.watch, ?_, hloop, hsame, hnext, hsleeps⟩
    rw [hget, hconfig]
  | @ends result n hlast =>
    refine .inr ⟨⟨n, ?_⟩, result, hlast⟩
    rw [World.stateOf_of_get hget, Work.stopped_of_finished goes.loop hlast]

/-- A loop that has gone on is at its loop or has come to its end. -/
theorem winds (goes : scene.Goes t task work wait answer) (config : task.config = c)
    (owned : work.publisher? = owner) : scene.after.Winds t c owner := by
  rcases goes.next with ⟨next, _, _, hget, hloop, hsame, -⟩ | ⟨⟨n, hended⟩, -⟩
  · refine .going ?_ (hsame.trans owned) hget rfl hloop
    exact config
  · exact .stopped hended

/-- What a loop that has gone on shows is what its process does. -/
theorem look {β : Type} (goes : scene.Goes t task work wait answer) (f : Work → β) (b : β) :
    scene.after.look t f b =
      (work.resume task.config true (scene.before.carriedFor work) answer).2.progress.look f b := by
  rcases goes.next with ⟨next, wait', watch, hget, hloop, -, hnext, -⟩ | ⟨⟨n, hended⟩, result, hlast⟩
  · rw [World.look_of_get hget rfl hloop, hnext]
    rfl
  · rw [World.look_of_ended hended, hlast]
    rfl

/-- What a loop that has gone on asks for is what its process asks for. -/
theorem request (goes : scene.Goes t task work wait answer) :
    scene.after.requestOf t =
      (work.resume task.config true (scene.before.carriedFor work) answer).2.progress.look
        (fun next => some (next.request task.config)) none := by
  rcases goes.next with ⟨next, wait', watch, hget, -, -, hnext, -⟩ | ⟨⟨n, hended⟩, result, hlast⟩
  · rw [World.requestOf_of_get hget rfl, hnext]
    rfl
  · rw [World.requestOf_of_ended hended, hlast]
    rfl

/-- The answers that a loop gets tell it to stop, if its signal tells so also who has waited. -/
theorem heeds (goes : scene.Goes t task work wait answer) (halted : scene.before.IsHalted t) :
    Heeds true (work.request task.config) answer := by
  obtain ⟨task', hget, hhalts⟩ := halted
  cases goes.get.symm.trans hget
  exact hhalts ▸ goes.resumed.heeds

/-- What is told when a loop has gone on. -/
theorem tells (goes : scene.Goes t task work wait answer) :
    scene.after.told =
      (work.resume task.config true (scene.before.carriedFor work) answer).2.notices.reverse ++
        scene.before.told := by
  have htold := goes.resumed.told
  rw [World.outcome, goes.told] at htold
  exact htold

/-- What is carried when a loop has gone on. -/
theorem carried (goes : scene.Goes t task work wait answer) {publisher : PublisherId}
    (owned : work.publisher? = some publisher) :
    scene.after.carried.getD publisher [] =
      (work.resume task.config true (scene.before.carriedFor work) answer).1 := by
  rw [goes.resumed.carried, if_pos owned, World.outcome, goes.told]

end Scene.Goes

theorem World.winds_of_get {watch : Option Watch}
    (get : w.tasks.get? t = some ⟨c, watch, .running (.ofWork work) wait⟩)
    (loop : work.isLoop = true) : w.Winds t c work.publisher? := by
  refine .going ?_ rfl get rfl loop
  rfl

/-- **After a scene a loop that was told to stop is at its loop or has come to its end.** -/
theorem World.Winds.happen {happening : Happening} (winds : w.Winds t c owner) (there : t < w.fresh)
    (told : w.isLive t = true → w.IsToldToStop t) (spared : w.spares t = true)
    (step : w.happen? happening = some w') :
    Scene.Winds ⟨w, happening, w'⟩ t c owner ∧ w'.Winds t c owner := by
  have honward := World.onward_of_happen step
  by_cases hmover : happening.mover? = some t
  · cases happening with
    | begin | wait | note | takeTold => cases hmover
    | forget id =>
      cases hmover
      simp only [World.happen?] at step
      split at step
      · next hended =>
        cases step
        have hgone : ({ w with tasks := w.tasks.erase t } : World).tasks.get? t = none := by
          exact (Table.get?_erase ..).trans (if_pos rfl)
        exact ⟨.leaves (Option.some_ne_none t).symm (World.not_live_of_ended hended) hgone, .gone hgone⟩
      · cases step
    | turn id =>
      cases hmover
      obtain ⟨c', watch, activity, wait, hget⟩ := World.running_of_turn step
      cases winds with
      | @going task work wait' config owned get was loop =>
        obtain ⟨config', watch', state⟩ := task
        cases was
        rcases World.resumed_of_turn get step with rfl | ⟨answer, hresumed⟩
        · have hended := (World.goes_finish (World.stateOf_of_get get) .crashed).states t
          rw [if_pos rfl] at hended
          have hturn : w.turn? t = some (w.finish t .crashed) := step
          rw [World.spares, hturn, Option.all_some, hended] at spared
          cases spared
        · obtain ⟨task', hget', htold⟩ := told (World.isLive_of_running (World.stateOf_of_get get))
          cases get.symm.trans hget'
          have hgoes : Scene.Goes ⟨w, .turn t, w'⟩ t _ work wait' answer :=
            ⟨rfl, step, get, rfl, loop, htold, hresumed⟩
          exact ⟨.goes config owned hgoes, hgoes.winds config owned⟩
      | stopped ended =>
        rw [World.stateOf_of_get hget] at ended
        cases ended
      | gone gone => cases gone.symm.trans hget
    | hear id =>
      cases hmover
      obtain ⟨c', watch, stream, wait, answer, hget, hresumed⟩ := World.resumed_of_hear step
      cases winds with
      | @going task work wait' config owned get was loop =>
        cases get.symm.trans hget
        obtain rfl : work = .consuming (.listening stream) := by
          cases work <;> cases was
          rfl
        obtain ⟨task', hget', htold⟩ := told (World.isLive_of_running (World.stateOf_of_get get))
        cases get.symm.trans hget'
        have hgoes : Scene.Goes ⟨w, .hear t, w'⟩ t _ (.consuming (.listening stream)) wait answer :=
          ⟨rfl, step, get, rfl, loop, htold, hresumed⟩
        exact ⟨.goes config owned hgoes, hgoes.winds config owned⟩
      | stopped ended =>
        rw [World.stateOf_of_get hget] at ended
        cases ended
      | gone gone => cases gone.symm.trans hget
  · have hgoer : Scene.goer? ⟨w, happening, w'⟩ ≠ some t := Scene.not_goer hmover
    have hsame := honward.others t there hmover
    have hstate : w'.stateOf t = w.stateOf t := by
      rw [World.stateOf, World.stateOf, hsame]
    refine ⟨.stays hgoer hsame winds, ?_⟩
    cases winds with
    | going config owned get was loop => exact .going config owned (hsame.trans get) was loop
    | stopped ended => exact .stopped (hstate.trans ended)
    | gone gone => exact .gone (hsame.trans gone)

end Scenes

/-! ## Plays -/

section Plays

variable {w₁ w w' : World} {later : List Scene} {t : TaskId} {c : Config}
  {owner : Option PublisherId} {publisher : Nat}

theorem Play.fresh (rest : Play w₁ later w) : w₁.fresh ≤ w.fresh := by
  induction rest with
  | nil => exact Nat.le_refl _
  | snoc rest step ih => exact Nat.le_trans ih (World.onward_of_happen step).fresh

/-- Who was told to stop, and is told so as long as it goes on, is told so at the end. -/
theorem Play.told (rest : Play w₁ later w) (told : w₁.IsToldToStop t)
    (stays : ∀ scene ∈ later, scene.after.isLive t = true → scene.after.IsToldToStop t)
    (live : w.isLive t = true) : w.IsToldToStop t := by
  cases rest with
  | nil => exact told
  | snoc rest step => exact stays _ (List.mem_append_right _ (List.mem_singleton_self _)) live

/-- **Every scene after a loop was told to stop is one in which it goes on, is left alone or is
gone.** -/
theorem Play.winds (rest : Play w₁ later w) (winds : w₁.Winds t c owner) (there : t < w₁.fresh)
    (told : w₁.IsToldToStop t)
    (stays : ∀ scene ∈ later, scene.after.isLive t = true → scene.after.IsToldToStop t)
    (spared : ∀ scene ∈ later, scene.before.spares t = true) :
    w.Winds t c owner ∧ ∀ scene ∈ later, scene.Winds t c owner := by
  induction rest with
  | nil => exact ⟨winds, fun _ hscene => absurd hscene List.not_mem_nil⟩
  | @snoc later w w' happening rest step ih =>
    have hstays := fun scene hscene => stays scene (List.mem_append_left _ hscene)
    obtain ⟨hnow, hscenes⟩ := ih hstays fun scene hscene => spared scene (List.mem_append_left _ hscene)
    obtain ⟨hlast, hnext⟩ := hnow.happen (Nat.lt_of_lt_of_le there rest.fresh)
      (rest.told told hstays) (spared _ (List.mem_append_right _ (List.mem_singleton_self _))) step
    refine ⟨hnext, fun scene hscene => ?_⟩
    rcases List.mem_append.mp hscene with hscene | hscene
    · exact hscenes scene hscene
    · cases List.mem_singleton.mp hscene
      exact hlast

/-- What every scene that counts uses up of something, and no scene adds to it, is used up by as many
scenes at most. -/
theorem Play.count_le (rest : Play w₁ later w) (counts : Scene → Bool) (left : World → Nat)
    (each : ∀ scene ∈ later, (counts scene).toNat + left scene.after ≤ left scene.before) :
    (later.filter counts).length + left w ≤ left w₁ := by
  induction rest with
  | nil => exact Nat.le_of_eq (Nat.zero_add _)
  | @snoc later w w' happening rest step ih =>
    have hbefore := ih fun scene hscene => each scene (List.mem_append_left _ hscene)
    have hlast := each _ (List.mem_append_right _ (List.mem_singleton_self _))
    rw [List.filter_append, List.length_append]
    cases hcounts : counts ⟨w, happening, w'⟩ with
    | true =>
      rw [hcounts, Bool.toNat_true] at hlast
      rw [List.filter_cons_of_pos hcounts, List.filter_nil, List.length_singleton]
      simp only at hlast
      omega
    | false =>
      rw [hcounts, Bool.toNat_false] at hlast
      rw [List.filter_cons_of_neg (Bool.eq_false_iff.mp hcounts), List.filter_nil, List.length_nil]
      simp only at hlast
      omega

namespace World

/-! ## Going on -/

section Able

variable {task : Task} {activity : Activity} {work : Work} {wait : Wait}

/-- Whether a request is for news of the signal, along with time or a receipt. -/
def isWatchful : Request → Bool
  | .pause _ | .receive _ => true
  | _ => false

/-- A wait is over, or it lasts until a moment that is still to come. -/
theorem due_or_later (w : World) (wait : Wait) :
    w.isDue wait = true ∨ ∃ moment, wait.due = some moment ∧ w.now < moment := by
  unfold isDue
  cases wait.due with
  | none => exact .inl rfl
  | some moment =>
    rcases Nat.lt_or_ge w.now moment with hlater | hdue
    · exact .inr ⟨moment, rfl, hlater⟩
    · exact .inl (decide_eq_true hdue)

/-- Who sleeps has its answer when its wait is over. -/
theorem due_of_answer {r : Request} {milliseconds : Nat} (sleeps : r = .sleep milliseconds)
    (h : (w.answer? t task activity wait r).isSome = true) : w.isDue wait = true := by
  subst sleeps
  simp only [World.answer?] at h
  split at h
  · assumption
  · cases h

/-- Who watches a signal that wakes it has its answer. -/
theorem answer_of_wakes {r : Request} (watchful : isWatchful r = true)
    (wakes : w.wakes task = true) : (w.answer? t task activity wait r).isSome = true := by
  obtain ⟨watch, hwatch, hwakes⟩ := (Option.any_eq_true _ _).mp wakes
  cases r with
  | pause milliseconds =>
    simp only [World.answer?, hwatch, hwakes, Bool.true_or, if_true]
    rfl
  | receive stream =>
    simp only [World.answer?, hwatch, Option.map_some, Option.filter_some, hwakes, if_true]
    rfl
  | _ => cases watchful

/-- Every request of a call has its answer, at once or when time has come, if who is to enter may,
and who watches its signal is woken by it. -/
theorem answer_or_due {r : Request} (hr : isOfCall r = true)
    (enters : r = .enter → w.mayEnter t activity wait = true)
    (wakes : isWatchful r = true → w.wakes task = true) :
    (w.answer? t task activity wait r).isSome = true ∨
      ∃ moment, wait.due = some moment ∧ w.now < moment := by
  cases r with
  | proceed => exact .inl rfl
  | enter =>
    refine .inl ?_
    simp only [World.answer?, enters rfl, if_true]
    rfl
  | fetch | update | release | append | publish | subscribe =>
    refine (w.due_or_later wait).imp_left fun hdue => ?_
    simp only [World.answer?]
    exact callOrCrash_of_due hdue
  | sleep milliseconds =>
    refine (w.due_or_later wait).imp_left fun hdue => ?_
    simp only [World.answer?, hdue, if_true]
    rfl
  | pause | receive => exact .inl (answer_of_wakes rfl (wakes rfl))
  | ready | take | listen | launch | halt | join => cases hr

/-- A loop that waits for news of its signal, and is told to stop, is woken by it. -/
theorem wakes_of_watchful (heedful : w.Heedful) (get : w.tasks.get? t = some task)
    (was : task.state = .running (.ofWork work) wait) (loop : work.isLoop = true)
    (told : w.stops task = true) (watchful : isWatchful (work.request task.config) = true) :
    w.wakes task = true := by
  refine heedful.wakes t task get ?_ told
  rw [was]
  cases work with
  | publishing p s =>
    cases s with
    | batching | pausing => rfl
    | starting | abandoning | releasing => cases watchful
  | consuming s =>
    cases s with
    | starting => cases watchful
    | _ => rfl
  | recording | handling | batching => cases loop

end Able

end World

end Plays

end Rehearsal

end Outbox
