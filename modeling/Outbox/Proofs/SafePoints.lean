import Outbox.Proofs.Rehearsal.Told
/-!
# `Proofs.SafePoints` — a loop that is told to stop winds up

Whenever a loop is told to stop, wherever it is by then and in whatever order the tasks go on from
there, it comes to its end by itself after a bounded number of turns, unless it is made to crash. It
does not wait any more for anything that its signal could cut short, but what it has begun it
finishes. A publisher's loop hands at most one more message to the broker, is done with the message
that it has in hand, and gives back all the others of its batch. It may have to wait for another task
that works for the same publisher; if there is none, it leaves no carried outcome behind. A
consumer's loop takes at most one more receipt, and leaves no entry of the history unwritten without
having tried.
-/

namespace Outbox

open Interplay

/-- Whether something is handed to the broker. -/
def Request.isPublish : Request → Bool
  | .publish .. => true
  | _ => false

/-- Whether a receipt is asked for. -/
def Request.isReceive : Request → Bool
  | .receive _ => true
  | _ => false

/-- A publisher's loop that has just handed a message to the broker asks for that. -/
theorem Publishing.handed_eq (c : Config) (s : Publishing) :
    s.handed = (s.request c).isPublish.toNat + s.allowance := by
  cases s with
  | batching batch =>
    cases batch with
    | recovering summary outcome record | recording summary outcome rest record =>
      cases record <;> rfl
    | _ => rfl
  | _ => rfl

/-- Only a batch that fetches asks for a batch. -/
theorem Publishing.fetching_of_request {c : Config} {s : Publishing} {limit : Nat}
    (asks : s.request c = .fetch limit) : ∃ summary, s = .batching (.fetching summary) := by
  cases s with
  | batching batch =>
    cases batch with
    | fetching summary => exact ⟨summary, rfl⟩
    | recovering summary outcome record | recording summary outcome rest record =>
      cases record <;> cases asks
    | opening | freeing | publishing | keeping | releasing => cases asks
  | starting | pausing | abandoning | releasing => cases asks

/-- A batch that was fetched is the message in hand and those that come after it. -/
theorem Publishing.hand_of_fetched (c : Config) (carried : List Outcome) (summary : BatchSummary)
    (batch : List Message) {turn : Turn Publishing Unit}
    (h : turn = ((batching (.fetching summary)).resume c true carried
      (.ok batch : Except StoreFailure (List Message))).2) :
    batch.map Message.id = (turn.progress.look inHand? none).toList ++
      (turn.progress.look unpublished []).map Message.id := by
  subst h
  have hand : ((batching (.fetching summary)).resume c true carried
      (.ok batch : Except StoreFailure (List Message))).2.progress.look inHand? none = _ :=
    look_batching _ (fun _ => rfl) (fun _ => rfl) rfl
  have hrest : ((batching (.fetching summary)).resume c true carried
      (.ok batch : Except StoreFailure (List Message))).2.progress.look unpublished [] = _ :=
    look_batching _ (fun _ => rfl) (fun _ => rfl) rfl
  rw [hand, hrest]
  cases batch <;> rfl

/-- How many receipts a consumer's loop waits for. -/
def Consuming.receiving : Consuming → Nat
  | .listening _ => 1
  | _ => 0

theorem Consuming.receiving_of_ne {s : Consuming} (h : ∀ stream, s ≠ .listening stream) :
    s.receiving = 0 := by
  cases s with
  | listening stream => exact absurd rfl (h stream)
  | _ => rfl

/-- A consumer's loop asks for the receipts that it waits for. -/
theorem Consuming.isReceive_request (c : Config) (s : Consuming) :
    (s.request c).isReceive.toNat = s.receiving := by
  cases s with
  | handling stream work =>
    cases work with
    | recording r rechecks record => cases record <;> rfl
    | rechecking => rfl
  | _ => rfl

/-- How many receipts a loop waits for. -/
def Interplay.Work.receiving : Work → Nat
  | .consuming s => s.receiving
  | _ => 0

theorem Interplay.Work.receiving_le (work : Work) : work.receiving ≤ 1 := by
  cases work with
  | consuming s =>
    cases s with
    | listening stream => exact Nat.le_refl 1
    | _ => exact Nat.zero_le 1
  | _ => exact Nat.zero_le 1

namespace Rehearsal

open World

/-! ## What winding up means -/

/-- The scenes in which a task goes on. -/
def moves (t : TaskId) (scenes : List Scene) : List Scene :=
  scenes.filter fun scene => scene.goer? = some t

/-- Whether a task comes to hand a message to the broker in a scene. -/
def Scene.handsOver (t : TaskId) (scene : Scene) : Bool :=
  scene.goer? = some t && (scene.after.requestOf t).any Request.isPublish

/-- Whether a task has gone on after it has asked for a receipt. -/
def Scene.hears (t : TaskId) (scene : Scene) : Bool :=
  scene.goer? = some t && (scene.before.requestOf t).any Request.isReceive

/-- Something is told in a scene. -/
def Scene.Tells (scene : Scene) (notice : Notice) : Prop :=
  ∃ notices, scene.after.told = notices ++ scene.before.told ∧ notice ∈ notices

/-- In a scene the outcome of a message is recorded, dropped for a reason that is told, or carried.
-/
def Scene.Settles (scene : Scene) (publisher : Nat) (id : MessageId) : Prop :=
  (∃ entry, scene.after.history = scene.before.history.append entry ∧ entry.messageId = id) ∨
    (∃ notice : Notice, notice.Drops id ∧ scene.Tells notice) ∨
    ∃ outcome : Outcome, outcome.id = id ∧ scene.after.carried.getD publisher [] =
      scene.before.carried.getD publisher [] ++ [outcome]

/-- A task can take its next turn, at once or when time has come. -/
def World.CanGoOn (w : World) (t : TaskId) : Prop :=
  (w.turn? t).isSome = true ∨ ∃ moment, w.dueOf t = some moment ∧ w.now < moment

/-- As long as a task goes on nobody else works for a publisher. -/
def UsedAlone (t : TaskId) (publisher : Nat) (scenes : List Scene) : Prop :=
  ∀ scene ∈ scenes, scene.before.isLive t = true → scene.before.worksAlone t publisher = true

/-- What both loops have in common that were told to stop some scenes ago. -/
structure WindsUp (t : TaskId) (later : List Scene) (w : World) : Prop where
  /-- It does not wait for what its signal cuts short. -/
  atOnce : (w.requestOf t).any isWatchful = true → (w.turn? t).isSome = true
  /-- The pauses between tries are made. -/
  sleeps : ∀ scene ∈ moves t later, ∀ milliseconds,
    scene.after.requestOf t = some (.sleep milliseconds) →
      scene.after.dueOf t = some (scene.after.now + milliseconds)
  /-- They are not cut short. -/
  awakes : ∀ scene ∈ moves t later, ∀ milliseconds moment,
    scene.before.requestOf t = some (.sleep milliseconds) →
      scene.before.dueOf t = some moment → moment ≤ scene.before.now
  /-- An entry of a step that was made is written, or its loss is told. -/
  writes : ∀ scene ∈ later, ∀ entry, scene.before.look t Work.dueEntry? none = some entry →
    scene.after.look t Work.dueEntry? none = some entry ∨
      scene.after.history = scene.before.history.append entry ∨
      ∃ change failure, scene.Tells (.entryLost change failure)
  ends : ∀ reply n, w.stateOf t = some (.ended reply n) → reply = .stopped

/-- How a publisher's loop winds up that was told to stop after the scenes `earlier`. -/
structure PublisherWindsUp (c : Config) (publisher : Nat) (t : TaskId)
    (earlier later : List Scene) (w : World) : Prop extends WindsUp t later w where
  handsOver : (later.filter (Scene.handsOver t)).length ≤ 1
  /-- What it fetches are the message that it has in hand and those that are unpublished yet. -/
  fetches : ∀ scene ∈ moves t later, ∀ limit, scene.before.requestOf t = some (.fetch limit) →
    scene.after.store.claimed = scene.before.store.claimed ∨
      ∃ batch, (scene.before.store.fetch limit).1 = .ok batch ∧ batch.map Message.id =
        (scene.after.look t Work.inHand? none).toList ++
          (scene.after.look t Work.unpublished []).map Message.id
  /-- It is done with the message in hand before it lets go of it. -/
  finishes : ∀ scene ∈ later, ∀ id, scene.before.look t Work.inHand? none = some id →
    scene.after.look t Work.inHand? none = some id ∨ scene.Settles publisher id
  /-- It lets go of the unpublished messages only to ask for their release, and that of them all. -/
  givesBack : ∀ scene ∈ later, scene.before.look t Work.unpublished [] ≠ [] →
    scene.after.look t Work.unpublished [] = scene.before.look t Work.unpublished [] ∨
      scene.after.requestOf t =
        some (.release ((scene.before.look t Work.unpublished []).map Message.id))
  /-- It leaves no carried outcomes, if nobody else works for its publisher. -/
  empties : UsedAlone t publisher (earlier ++ later) →
    ∀ scene ∈ later, scene.before.isLive t = true → scene.after.isLive t = false →
      scene.after.carried.getD publisher [] = []
  /-- It takes a bounded number of turns, by what is carried when it takes the first one. -/
  few : ∀ scene, (moves t later).head? = some scene → (moves t later).length ≤
    ((scene.before.carried.getD publisher []).length + 2) * c.turnsToRecord + 7
  /-- As long as it has not come to its end it can go on, or waits for what its publisher carries
  while somebody else works for the publisher. -/
  goesOn : w.isLive t = true → w.CanGoOn t ∨
    w.requestOf t = some .enter ∧ w.worksAlone t publisher = false

/-- How a consumer's loop winds up that was told to stop. -/
structure ConsumerWindsUp (c : Config) (t : TaskId) (later : List Scene) (w : World) : Prop
    extends WindsUp t later w where
  hears : (later.filter (Scene.hears t)).length ≤ 1
  /-- It takes a bounded number of turns, if it is told to stop also once it has waited. -/
  few : (∀ scene ∈ moves t later, scene.before.IsHalted t) →
    (moves t later).length ≤ c.turnsToHandle + 1
  goesOn : w.isLive t = true → w.CanGoOn t

/-! ## At every moment -/

section Moments

variable {w : World} {t : TaskId} {c : Config} {owner : Option PublisherId}

/-- Only a loop that goes on asks for anything. -/
theorem World.Winds.going_of_request {r : Request} (winds : w.Winds t c owner)
    (asks : w.requestOf t = some r) : ∃ watch work wait,
      w.tasks.get? t = some ⟨c, watch, .running (.ofWork work) wait⟩ ∧ work.publisher? = owner ∧
        work.isLoop = true ∧ r = work.request c := by
  cases winds with
  | @going task work wait config owned get was loop =>
    obtain ⟨config', watch, state⟩ := task
    cases config
    cases was
    rw [requestOf_of_get get rfl] at asks
    cases asks
    exact ⟨watch, work, wait, get, owned, loop, rfl⟩
  | stopped ended => cases (requestOf_of_ended ended).symm.trans asks
  | gone gone =>
    rw [requestOf, gone] at asks
    cases asks

/-- A loop that is not at its end asks for something. -/
theorem World.Winds.request_of_live (winds : w.Winds t c owner) (live : w.isLive t = true) :
    ∃ r, w.requestOf t = some r := by
  cases winds with
  | going config owned get was loop => exact ⟨_, requestOf_of_get get was⟩
  | stopped ended => cases (isLive_of_ended ended).symm.trans live
  | gone gone =>
    rw [isLive, stateOf, gone] at live
    cases live

/-- What no loop shows more of than so much, none does that winds up. -/
theorem World.Winds.look_le {f : Work → Nat} {n : Nat} (winds : w.Winds t c owner)
    (h : ∀ work : Work, work.isLoop = true → work.publisher? = owner → f work ≤ n) :
    w.look t f 0 ≤ n := by
  cases winds with
  | going config owned get was loop =>
    rw [look_of_get get was loop]
    exact h _ loop owned
  | stopped ended =>
    rw [look_of_ended ended]
    exact Nat.zero_le n
  | gone gone =>
    rw [look_of_gone gone]
    exact Nat.zero_le n

/-- A loop that has its answer can take its turn. -/
theorem isSome_turn_of_answer {watch : Option Watch} {work : Work} {wait : Wait}
    (get : w.tasks.get? t = some ⟨c, watch, .running (.ofWork work) wait⟩)
    (answer : (w.answer? t ⟨c, watch, .running (.ofWork work) wait⟩ (.ofWork work) wait
      (work.request c)).isSome = true) : (w.turn? t).isSome = true := by
  rw [turn?_of_call get]
  exact Option.isSome_map.trans answer

/-- A loop that is told to stop is woken by its signal. -/
theorem wakes_of_told {watch : Option Watch} {work : Work} {wait : Wait} (heedful : w.Heedful)
    (told : w.isLive t = true → w.IsToldToStop t)
    (get : w.tasks.get? t = some ⟨c, watch, .running (.ofWork work) wait⟩)
    (loop : work.isLoop = true) (watchful : isWatchful (work.request c) = true) :
    w.wakes ⟨c, watch, .running (.ofWork work) wait⟩ = true := by
  obtain ⟨task, hget, hstops⟩ := told (isLive_of_running (stateOf_of_get get))
  cases get.symm.trans hget
  exact wakes_of_watchful heedful get rfl loop hstops watchful

/-- A loop that is told to stop does not wait for what its signal cuts short. -/
theorem World.Winds.atOnce (winds : w.Winds t c owner) (heedful : w.Heedful)
    (told : w.isLive t = true → w.IsToldToStop t)
    (watchful : (w.requestOf t).any isWatchful = true) : (w.turn? t).isSome = true := by
  obtain ⟨r, hasks, hwatchful⟩ := (Option.any_eq_true _ _).mp watchful
  obtain ⟨watch, work, wait, get, -, loop, rfl⟩ := winds.going_of_request hasks
  exact isSome_turn_of_answer get
    (answer_of_wakes hwatchful (wakes_of_told heedful told get loop hwatchful))

/-- **A loop that is told to stop can go on, unless it waits for what its publisher carries while
somebody else works for the publisher.** -/
theorem World.Winds.goesOn (winds : w.Winds t c owner) (heedful : w.Heedful)
    (told : w.isLive t = true → w.IsToldToStop t) (live : w.isLive t = true) :
    w.CanGoOn t ∨ w.requestOf t = some .enter ∧
      ∃ publisher, owner = some publisher ∧ w.worksAlone t publisher = false := by
  obtain ⟨r, hasks⟩ := winds.request_of_live live
  obtain ⟨watch, work, wait, get, owned, loop, rfl⟩ := winds.going_of_request hasks
  rw [or_iff_not_imp_right]
  intro hfree
  refine (answer_or_due (isOfCall_work c work) (fun henter => ?_)
    (wakes_of_told heedful told get loop)).imp (isSome_turn_of_answer get) fun hlater => ?_
  · -- only who works for a publisher has to enter
    cases hpublisher : work.publisher? with
    | some publisher =>
      have halone : w.worksAlone t publisher = true := by
        refine Bool.of_not_eq_false fun hshared => hfree ⟨henter ▸ hasks, publisher, ?_, hshared⟩
        exact owned.symm.trans hpublisher
      exact mayEnter_of_worksAlone halone (Activity.room?_ofWork hpublisher)
    | none =>
      cases work with
      | consuming s =>
        cases s with
        | handling stream work =>
          cases work with
          | recording r rechecks record => cases record <;> cases henter
          | rechecking => cases henter
        | _ => cases henter
      | publishing | batching => cases hpublisher
      | recording | handling => cases loop
  · rw [dueOf_of_get get rfl]
    exact hlater

end Moments

/-! ## In every scene -/

section Scenes

variable {scene : Scene} {t : TaskId} {c : Config} {owner : Option PublisherId} {task : Task}
  {work : Work} {wait : Wait} {entry : HistoryEntry}

theorem World.look_of_not_live {β : Type} {w : World} (dead : w.isLive t = false) (f : Work → β)
    (b : β) : w.look t f b = b := by
  cases hstate : w.stateOf t with
  | none =>
    rw [look, hstate]
    rfl
  | some state =>
    cases state with
    | ended => exact look_of_ended hstate f b
    | running => cases (isLive_of_running hstate).symm.trans dead

/-- A scene in which others go on leaves a loop as it is. -/
theorem Scene.Winds.look_of_others {β : Type} {f : Work → β} {b : β}
    (winds : scene.Winds t c owner) (goer : scene.goer? ≠ some t) :
    scene.after.look t f b = scene.before.look t f b := by
  cases winds with
  | goes config owned goes => exact absurd goes.goer goer
  | stays goer same => exact look_congr same f b
  | leaves goer ended gone => exact (look_of_gone gone f b).trans (look_of_not_live ended f b).symm

theorem Scene.Winds.goes_of_goer (winds : scene.Winds t c owner) (goer : scene.goer? = some t) :
    ∃ watch work wait, ∃ answer : (work.request c).Answer, work.publisher? = owner ∧
      scene.Goes t ⟨c, watch, .running (.ofWork work) wait⟩ work wait answer := by
  cases winds with
  | @goes task work wait answer config owned goes =>
    obtain ⟨config', watch, state⟩ := task
    cases config
    cases goes.was
    exact ⟨watch, work, wait, answer, owned, goes⟩
  | stays others => exact absurd goer others
  | leaves others => exact absurd goer others

namespace Scene.Goes

variable {answer : (work.request task.config).Answer}

theorem asks (goes : scene.Goes t task work wait answer) :
    scene.before.requestOf t = some (work.request task.config) :=
  requestOf_of_get goes.get goes.was

/-- What a loop shows before it goes on. -/
theorem shows {β : Type} (goes : scene.Goes t task work wait answer) (f : Work → β) (b : β) :
    scene.before.look t f b = f work :=
  look_of_get goes.get goes.was goes.loop f b

/-- Who sleeps goes on when its time has come. -/
theorem awakes (goes : scene.Goes t task work wait answer) {milliseconds : Nat}
    (sleeps : work.request task.config = .sleep milliseconds) :
    scene.before.isDue wait = true := by
  have hstep := goes.step
  have hgoer := goes.goer
  have hget := goes.get
  obtain ⟨before, happening, after⟩ := scene
  obtain ⟨config, watch, state⟩ := task
  cases goes.was
  cases happening with
  | turn id =>
    cases hgoer
    have hturn : before.turn? t = some after := hstep
    rw [turn?_of_call hget] at hturn
    obtain ⟨given, hanswer, -⟩ := Option.map_eq_some_iff.mp hturn
    exact due_of_answer sleeps (Option.isSome_of_eq_some hanswer)
  | hear id =>
    cases hgoer
    obtain ⟨config', watch', stream, wait', answer', hget', -⟩ := resumed_of_hear hstep
    have hstate := congrArg Task.state (Option.some.inj (hget.symm.trans hget'))
    have hsame := (TaskState.running.inj hstate).1
    cases work <;> cases hsame
    cases sleeps
  | begin | wait | forget | note | takeTold => cases hgoer

/-- What the process tells is told in the scene. -/
theorem tells_of_mem (goes : scene.Goes t task work wait answer) {notice : Notice}
    (h : notice ∈ (work.resume task.config true (scene.before.carriedFor work) answer).2.notices) :
    scene.Tells notice :=
  ⟨_, goes.tells, List.mem_reverse.mpr h⟩

/-- What the process appends is appended in the scene. -/
theorem history_of_appended (goes : scene.Goes t task work wait answer)
    (h : (work.request task.config).appended? answer = some entry) :
    scene.after.history = scene.before.history.append entry := by
  rw [goes.resumed.history, h]
  rfl

end Scene.Goes

/-- A loop does not leave an entry that has yet to be written. -/
theorem Scene.Winds.writes (winds : scene.Winds t c owner)
    (due : scene.before.look t Work.dueEntry? none = some entry) :
    scene.after.look t Work.dueEntry? none = some entry ∨
      scene.after.history = scene.before.history.append entry ∨
      ∃ change failure, scene.Tells (.entryLost change failure) := by
  by_cases hgoer : scene.goer? = some t
  · obtain ⟨watch, work, wait, answer, owned, goes⟩ := winds.goes_of_goer hgoer
    rw [goes.look]
    rw [goes.shows] at due
    rcases Work.accounts goes.loop answer due with hstill | hwritten | ⟨change, failure, htold⟩
    · exact .inl hstill
    · exact .inr (.inl (goes.history_of_appended hwritten))
    · exact .inr (.inr ⟨change, failure, goes.tells_of_mem htold⟩)
  · exact .inl ((winds.look_of_others hgoer).trans due)

/-- A loop that comes to sleep sleeps for as long as it is to. -/
theorem Scene.Winds.sleeps (winds : scene.Winds t c owner) (goer : scene.goer? = some t)
    (milliseconds : Nat) (asks : scene.after.requestOf t = some (.sleep milliseconds)) :
    scene.after.dueOf t = some (scene.after.now + milliseconds) := by
  obtain ⟨watch, work, wait, answer, owned, goes⟩ := winds.goes_of_goer goer
  rcases goes.next with ⟨next, wait', watch', hget, -, -, -, hsleeps⟩ | ⟨⟨n, hended⟩, -⟩
  · rw [dueOf_of_get hget rfl]
    exact hsleeps milliseconds (Option.some.inj ((requestOf_of_get hget rfl).symm.trans asks))
  · cases (requestOf_of_ended hended).symm.trans asks

/-- A loop that sleeps does not go on earlier. -/
theorem Scene.Winds.awakes (winds : scene.Winds t c owner) (goer : scene.goer? = some t)
    (milliseconds moment : Nat) (asks : scene.before.requestOf t = some (.sleep milliseconds))
    (due : scene.before.dueOf t = some moment) : moment ≤ scene.before.now := by
  obtain ⟨watch, work, wait, answer, owned, goes⟩ := winds.goes_of_goer goer
  have hdue := goes.awakes (Option.some.inj (goes.asks.symm.trans asks))
  rw [dueOf_of_get goes.get rfl] at due
  rw [isDue, due, Option.all_some] at hdue
  exact of_decide_eq_true hdue

end Scenes

/-! ## A publisher's loop in every scene -/

section Publisher

variable {scene : Scene} {t : TaskId} {c : Config} {publisher : PublisherId} {id : MessageId}

/-- What works for a publisher as a loop is a publisher's loop. -/
theorem eq_publishing {work : Work} (loop : work.isLoop = true)
    (owned : work.publisher? = some publisher) : ∃ s, work = .publishing publisher s := by
  cases work with
  | publishing other s =>
    cases owned
    exact ⟨s, rfl⟩
  | consuming => cases owned
  | recording | handling | batching => cases loop

theorem Scene.Winds.publishing_of_goer (winds : scene.Winds t c (some publisher))
    (goer : scene.goer? = some t) :
    ∃ watch s wait, ∃ answer : ((Work.publishing publisher s).request c).Answer,
      scene.Goes t ⟨c, watch, .running (.ofWork (.publishing publisher s)) wait⟩
        (.publishing publisher s) wait answer := by
  obtain ⟨watch, work, wait, answer, owned, goes⟩ := winds.goes_of_goer goer
  obtain ⟨s, rfl⟩ := eq_publishing goes.loop owned
  exact ⟨watch, s, wait, answer, goes⟩

theorem Scene.Winds.finishes (winds : scene.Winds t c (some publisher))
    (aligned : ∀ state, scene.before.stateOf t = some state → state.Aligned)
    (hand : scene.before.look t Work.inHand? none = some id) :
    scene.after.look t Work.inHand? none = some id ∨ scene.Settles publisher id := by
  by_cases hgoer : scene.goer? = some t
  · obtain ⟨watch, s, wait, answer, goes⟩ := winds.publishing_of_goer hgoer
    rw [goes.look, Work.look_publishing]
    rw [goes.shows] at hand
    have haligned : s.Aligned := aligned _ (stateOf_of_get goes.get)
    rcases Publishing.finishes _ answer haligned hand with
      hstill | ⟨entry, hwritten, habout⟩ | ⟨notice, htold, hdrops⟩ | ⟨outcome, habout, hcarried⟩
    · exact .inl hstill
    · exact .inr (.inl ⟨entry, goes.history_of_appended hwritten, habout⟩)
    · exact .inr (.inr (.inl ⟨notice, hdrops,
        goes.tells_of_mem (Turn.mem_notices_andThen htold _ _)⟩))
    · exact .inr (.inr (.inr ⟨outcome, habout, (goes.carried rfl).trans hcarried⟩))
  · exact .inl ((winds.look_of_others hgoer).trans hand)

theorem Scene.Winds.givesBack (winds : scene.Winds t c (some publisher))
    (more : scene.before.look t Work.unpublished [] ≠ []) :
    scene.after.look t Work.unpublished [] = scene.before.look t Work.unpublished [] ∨
      scene.after.requestOf t =
        some (.release ((scene.before.look t Work.unpublished []).map Message.id)) := by
  by_cases hgoer : scene.goer? = some t
  · obtain ⟨watch, s, wait, answer, goes⟩ := winds.publishing_of_goer hgoer
    rw [goes.shows] at more ⊢
    obtain ⟨next, hnext, hrest⟩ :=
      Publishing.givesBack (scene.before.carriedFor (.publishing publisher s)) answer more
    rw [goes.look, goes.request, Work.look_publishing, Work.look_publishing, hnext]
    exact hrest.imp id (congrArg some)
  · exact .inl (winds.look_of_others hgoer)

/-- A publisher's loop that is told to stop hands over as many messages as it may. -/
theorem Scene.Winds.handsOver_le (winds : scene.Winds t c (some publisher)) :
    (scene.handsOver t).toNat + scene.after.look t Work.allowance 0 ≤
      scene.before.look t Work.allowance 0 := by
  by_cases hgoer : scene.goer? = some t
  · obtain ⟨watch, s, wait, answer, goes⟩ := winds.publishing_of_goer hgoer
    have hhanded := Publishing.handed_le (scene.before.carriedFor (.publishing publisher s))
      answer
    rw [handsOver, goes.shows, goes.look, goes.request, Work.look_publishing, Work.look_publishing]
    revert hhanded
    cases (s.resume c true (scene.before.carriedFor (.publishing publisher s)) answer).2.progress with
    | waiting next =>
      intro hhanded
      refine Nat.le_trans (Nat.le_of_eq ?_) hhanded
      simp only [Progress.look, hgoer, decide_true, Bool.true_and, Option.any_some]
      exact (next.handed_eq c).symm
    | finished =>
      intro hhanded
      simp [Progress.look]
  · rw [handsOver, decide_eq_false hgoer, Bool.false_and, Bool.toNat_false, Nat.zero_add]
    exact Nat.le_of_eq (winds.look_of_others hgoer)

theorem Scene.Winds.fetches {limit : Nat} (winds : scene.Winds t c (some publisher))
    (goer : scene.goer? = some t) (asks : scene.before.requestOf t = some (.fetch limit)) :
    scene.after.store.claimed = scene.before.store.claimed ∨
      ∃ batch, (scene.before.store.fetch limit).1 = .ok batch ∧ batch.map Message.id =
        (scene.after.look t Work.inHand? none).toList ++
          (scene.after.look t Work.unpublished []).map Message.id := by
  obtain ⟨watch, s, wait, answer, goes⟩ := winds.publishing_of_goer goer
  have hasks : s.request c = .fetch limit := Option.some.inj (goes.asks.symm.trans asks)
  obtain ⟨summary, rfl⟩ := Publishing.fetching_of_request hasks
  cases hasks
  have hfetches := goes.resumed.fetches
  rw [goes.look, goes.look, Work.look_publishing, Work.look_publishing]
  change Except StoreFailure (List Message) at answer
  cases answer with
  | error failure => exact .inl hfetches
  | ok batch => exact .inr ⟨batch, hfetches, Publishing.hand_of_fetched c _ summary batch rfl⟩

/-- A publisher's loop that comes to its end leaves no carried outcomes, if there were none when it
gave up the claims on their messages. -/
theorem Scene.Winds.empties (winds : scene.Winds t c (some publisher))
    (live : scene.before.isLive t = true) (ends : scene.after.isLive t = false)
    (cleared : ∀ ids wait, scene.before.stateOf t =
      some (.running (.publishing publisher (.releasing ids)) wait) →
        scene.before.carried.getD publisher [] = []) :
    scene.after.carried.getD publisher [] = [] := by
  cases winds with
  | @goes task work wait answer config owned goes =>
    obtain ⟨s, rfl⟩ := eq_publishing goes.loop owned
    rw [goes.carried rfl]
    rcases goes.next with ⟨next, wait', watch, hget, -⟩ | ⟨-, result, hlast⟩
    · cases ends.symm.trans (isLive_of_running (stateOf_of_get hget))
    · obtain ⟨⟨⟩, hfinished, -⟩ := Turn.finished_cases hlast
      rcases Publishing.leaves hfinished with hempty | ⟨⟨ids, rfl⟩, hsame⟩
      · exact hempty
      · refine hsame.trans (cleared ids wait ?_)
        rw [stateOf_of_get goes.get, goes.was]
        rfl
  | stays goer same =>
    have hstate : scene.after.stateOf t = scene.before.stateOf t := by
      rw [stateOf, stateOf, same]
    cases ((isLive_congr hstate).trans live).symm.trans ends
  | leaves goer ended => cases ended.symm.trans live

end Publisher

/-- A bound on the turns that a publisher's loop can still take when it is to stop, if `n` outcomes
are carried when it comes to have them to itself. -/
def World.turnsLeft (w : World) (t : TaskId) (c : Config) (publisher n : Nat) : Nat :=
  w.look t (Work.turnsLeftFrom c n (w.carried.getD publisher []).length) 0

section Publisher

variable {scene : Scene} {t : TaskId} {c : Config} {publisher : PublisherId} {n : Nat}

/-- **Every scene in which a publisher's loop goes on that was told to stop uses up a turn of those
that are left.** -/
theorem Scene.Winds.turnsLeft_lt (winds : scene.Winds t c (some publisher))
    (same : scene.goer? = some t → scene.before.look t Work.isOpening false = true →
      (scene.before.carried.getD publisher []).length = n)
    (others : scene.goer? ≠ some t → scene.before.insideOf t = some publisher →
      scene.after.carried.getD publisher [] = scene.before.carried.getD publisher []) :
    (decide (scene.goer? = some t)).toNat + scene.after.turnsLeft t c publisher n ≤
      scene.before.turnsLeft t c publisher n := by
  by_cases hgoer : scene.goer? = some t
  · obtain ⟨watch, s, wait, answer, goes⟩ := winds.publishing_of_goer hgoer
    rw [decide_eq_true hgoer, Bool.toNat_true, Nat.add_comm, turnsLeft, turnsLeft, goes.shows,
      goes.look, Work.look_publishing, goes.carried rfl]
    refine Publishing.turnsLeftFrom_lt _ answer fun opening => ?_
    exact same hgoer ((goes.shows ..).trans opening)
  · rw [decide_eq_false hgoer, Bool.toNat_false, Nat.zero_add, turnsLeft, turnsLeft,
      winds.look_of_others hgoer]
    cases winds with
    | goes config owned goes => exact absurd goes.goer hgoer
    | leaves goer ended =>
      exact Nat.le_of_eq (by rw [look_of_not_live ended, look_of_not_live ended])
    | stays goer hsame was =>
      cases was with
      | stopped ended => exact Nat.le_of_eq (by rw [look_of_ended ended, look_of_ended ended])
      | gone gone => exact Nat.le_of_eq (by rw [look_of_gone gone, look_of_gone gone])
      | @going task work wait config owned get was loop =>
        obtain ⟨s, rfl⟩ := eq_publishing loop owned
        rw [look_of_get get was loop, look_of_get get was loop]
        show s.turnsLeftFrom c n _ ≤ s.turnsLeftFrom c n _
        unfold Publishing.turnsLeftFrom
        split
        · next inside =>
          have hinside : scene.before.insideOf t = some publisher := by
            rw [insideOf_of_stateOf (stateOf_of_get get), was, TaskState.inside?_ofWork]
            exact if_pos inside
          exact Nat.le_of_eq (by rw [others hgoer hinside])
        · exact Nat.le_refl _

/-- A bound on the turns that are left, by what is carried by now. -/
theorem Scene.Winds.turnsLeft_le (winds : scene.Winds t c (some publisher))
    (goer : scene.goer? = some t) :
    scene.before.turnsLeft t c publisher (scene.before.carried.getD publisher []).length ≤
      ((scene.before.carried.getD publisher []).length + 2) * c.turnsToRecord + 7 := by
  obtain ⟨watch, s, wait, answer, goes⟩ := winds.publishing_of_goer goer
  rw [World.turnsLeft, goes.shows]
  exact Nat.le_trans (Nat.le_of_eq (s.turnsLeftFrom_eq c _ _ fun _ => rfl)) (s.turnsLeft_le c _)

/-- A loop that is told to stop, and has gone on, does not begin another batch. -/
theorem Scene.Winds.not_opening (winds : scene.Winds t c (some publisher))
    (goer : scene.goer? = some t) : scene.after.look t Work.isOpening false = false := by
  obtain ⟨watch, s, wait, answer, goes⟩ := winds.publishing_of_goer goer
  rw [goes.look, Work.look_publishing]
  exact Publishing.not_opening _ answer

end Publisher

/-! ## A consumer's loop in every scene -/

section Consumer

variable {scene : Scene} {t : TaskId} {c : Config}

/-- What works for no publisher as a loop is a consumer's loop. -/
theorem eq_consuming {work : Work} (loop : work.isLoop = true) (owned : work.publisher? = none) :
    ∃ s, work = .consuming s := by
  cases work with
  | consuming s => exact ⟨s, rfl⟩
  | publishing | batching => cases owned
  | recording | handling => cases loop

theorem Scene.Winds.consuming_of_goer (winds : scene.Winds t c none)
    (goer : scene.goer? = some t) :
    ∃ watch s wait, ∃ answer : ((Work.consuming s).request c).Answer,
      scene.Goes t ⟨c, watch, .running (.ofWork (.consuming s)) wait⟩ (.consuming s) wait
        answer := by
  obtain ⟨watch, work, wait, answer, owned, goes⟩ := winds.goes_of_goer goer
  obtain ⟨s, rfl⟩ := eq_consuming goes.loop owned
  exact ⟨watch, s, wait, answer, goes⟩

/-- A consumer's loop that is told to stop does not ask for another receipt. -/
theorem Scene.Winds.hears_le (winds : scene.Winds t c none) :
    (scene.hears t).toNat + scene.after.look t Work.receiving 0 ≤
      scene.before.look t Work.receiving 0 := by
  by_cases hgoer : scene.goer? = some t
  · obtain ⟨watch, s, wait, answer, goes⟩ := winds.consuming_of_goer hgoer
    have hnone : scene.after.look t Work.receiving 0 = 0 := by
      rw [goes.look, Work.look_consuming]
      cases hp : (s.resume c true answer).progress with
      | waiting next => exact next.receiving_of_ne (Consuming.not_listening hp)
      | finished => rfl
    rw [hnone, goes.shows, hears, goes.asks, decide_eq_true hgoer]
    exact Nat.le_of_eq (s.isReceive_request c)
  · rw [hears, decide_eq_false hgoer, Bool.false_and, Bool.toNat_false, Nat.zero_add]
    exact Nat.le_of_eq (winds.look_of_others hgoer)

/-- **Every scene in which a consumer's loop goes on that was told to stop uses up a turn of those
that are left**, if the loop is told so also once it has waited. -/
theorem Scene.Winds.turnsLeft_lt_of_consuming (winds : scene.Winds t c none)
    (halted : scene.goer? = some t → scene.before.IsHalted t) :
    (decide (scene.goer? = some t)).toNat + scene.after.look t (Work.turnsLeft c) 0 ≤
      scene.before.look t (Work.turnsLeft c) 0 := by
  by_cases hgoer : scene.goer? = some t
  · obtain ⟨watch, s, wait, answer, goes⟩ := winds.consuming_of_goer hgoer
    rw [decide_eq_true hgoer, Bool.toNat_true, Nat.add_comm, goes.shows, goes.look,
      Work.look_consuming]
    exact Consuming.turnsLeft_lt answer (goes.heeds (halted hgoer))
  · rw [decide_eq_false hgoer, Bool.toNat_false, Nat.zero_add]
    exact Nat.le_of_eq (winds.look_of_others hgoer)

end Consumer

/-! ## Plays -/

section Plays

variable {c₀ c : Config} {clockStart : Int} {ids : List MessageId} {scenes earlier later : List Scene}
  {w₁ w : World} {t : TaskId} {owner : Option PublisherId} {publisher : PublisherId}

/-- In every scene of a play something happens to the world that others of the scenes have led to. -/
theorem Play.before {scene : Scene} (rest : Play w₁ later w) (h : scene ∈ later) :
    ∃ front, front ⊆ later ∧ Play w₁ front scene.before ∧
      scene.before.happen? scene.happening = some scene.after := by
  obtain ⟨front, back, rfl⟩ := List.append_of_mem h
  rw [List.append_cons] at rest
  obtain ⟨w₂, hthis, -⟩ := rest.split
  exact ⟨front, List.subset_append_left front _, hthis.last.1, hthis.last.2.1⟩

/-- A publisher's loop that gives up the claims of carried outcomes carries none any more. -/
theorem Play.cleared {given : List MessageId} {wait : Wait}
    (play : Play (.initial c₀ clockStart ids) scenes w) (alone : UsedAlone t publisher scenes)
    (now : w.stateOf t = some (.running (.publishing publisher (.releasing given)) wait)) :
    w.carried.getD publisher [] = [] := by
  induction play with
  | nil => cases now
  | @snoc scenes w w' happening play step ih =>
    have hbefore := ih fun scene hscene => alone scene (List.mem_append_left _ hscene)
    have halone := alone _ (List.mem_append_right _ (List.mem_singleton_self _))
    have hpassage := (passage_of_happen play.apart.1 step).1
    by_cases hmover : happening.mover? = some t
    · rcases resumed_of_happen step hmover now with hidle | ⟨task, work, wait', answer, -, -, hgoes⟩
      · cases hidle
      obtain ⟨state, task', -, hensues, hget⟩ := hgoes.next
      have hstate := Option.some.inj ((stateOf_of_get hget).symm.trans now)
      cases hensues with
      | ends => cases hstate
      | waits hnext =>
        cases work with
        | publishing other s =>
          rcases Turn.waiting_cases hnext with ⟨s', hs, rfl⟩ | ⟨-, -, hlast⟩
          · cases hstate
            exact ((hgoes.carried publisher).trans (if_pos rfl)).trans (Publishing.abandons hs)
          · cases hlast
        | recording | handling | batching | consuming =>
          rcases Turn.waiting_cases hnext with ⟨s', -, rfl⟩ | ⟨_, _, hlast⟩
          · cases hstate
          · cases hlast
    · by_cases ht : w.fresh ≤ t
      · cases TaskState.not_begun_of_isNew (hpassage.arrivals t _ ht now).2
      have hwas := (hpassage.others t (Nat.lt_of_not_le ht) hmover).symm.trans now
      have hother : happening ≠ .turn t := fun hturn => hmover (hturn ▸ rfl)
      exact (carried_of_others (halone (isLive_of_running hwas)) step hother).trans (hbefore hwas)

/-- A publisher's loop that is told to stop, and is not about to begin a batch, never is again. -/
theorem Play.not_opening (rest : Play w₁ later w)
    (winds : ∀ scene ∈ later, scene.Winds t c (some publisher))
    (before : w₁.look t Work.isOpening false = false) :
    w.look t Work.isOpening false = false := by
  induction rest with
  | nil => exact before
  | @snoc later w w' happening rest step ih =>
    have hlast := winds _ (List.mem_append_right _ (List.mem_singleton_self _))
    by_cases hgoer : Scene.goer? ⟨w, happening, w'⟩ = some t
    · exact hlast.not_opening hgoer
    · exact (hlast.look_of_others hgoer).trans
        (ih fun scene hscene => winds scene (List.mem_append_left _ hscene))

/-- What is carried stays as it is while others go on and the loop has it to itself. -/
theorem Play.carried_kept (first : Play (.initial c₀ clockStart ids) earlier w₁)
    (rest : Play w₁ later w) (t : TaskId) (publisher : PublisherId) :
    ∀ scene ∈ later, scene.goer? ≠ some t → scene.before.insideOf t = some publisher →
      scene.after.carried.getD publisher [] = scene.before.carried.getD publisher [] := by
  intro scene hscene others inside
  obtain ⟨front, -, hplay, hstep⟩ := rest.before hscene
  exact carried_of_inside (first.append hplay).exclusive inside hstep (Scene.not_turn others)

/-- The scenes in which a task goes on are the first one and those after it. -/
theorem moves_of_head {scene : Scene} (head : (moves t later).head? = some scene) :
    scene.goer? = some t ∧ ∃ front back, later = front ++ scene :: back ∧
      (moves t later).length = (moves t back).length + 1 := by
  obtain ⟨hgoer, front, back, rfl, hfront⟩ :=
    List.find?_eq_some_iff_append.mp ((List.head?_filter ..).symm.trans head)
  refine ⟨of_decide_eq_true hgoer, front, back, rfl, ?_⟩
  have hnone : moves t front = [] :=
    List.filter_eq_nil_iff.mpr fun other hother => by simpa using hfront other hother
  have hsplit : moves t (front ++ scene :: back) = moves t front ++ scene :: moves t back :=
    (List.filter_append ..).trans (congrArg _ (List.filter_cons_of_pos hgoer))
  rw [hsplit, hnone, List.nil_append, List.length_cons]

/-- **A publisher's loop that is told to stop takes a bounded number of turns**, by what is carried
when it takes the first one. -/
theorem Play.few {scene : Scene} (first : Play (.initial c₀ clockStart ids) earlier w₁)
    (rest : Play w₁ later w) (winds : ∀ scene ∈ later, scene.Winds t c (some publisher))
    (head : (moves t later).head? = some scene) : (moves t later).length ≤
      ((scene.before.carried.getD publisher []).length + 2) * c.turnsToRecord + 7 := by
  have hothers := first.carried_kept rest t publisher
  obtain ⟨hgoer, front, back, rfl, hlength⟩ := moves_of_head head
  have hscene : scene ∈ front ++ scene :: back :=
    List.mem_append_right _ (List.mem_cons_self ..)
  have hback (next : Scene) (hnext : next ∈ back) : next ∈ front ++ scene :: back :=
    List.mem_append_right _ (List.mem_cons_of_mem _ hnext)
  rw [List.append_cons] at rest
  obtain ⟨w₂, hthis, hrest⟩ := rest.split
  obtain ⟨-, -, rfl⟩ := hthis.last
  -- the first turn is one of those that are left, and after it no batch is begun
  have hfirst := (winds scene hscene).turnsLeft_lt (fun _ _ => rfl) (hothers scene hscene)
  have hlater := hrest.count_le (fun scene => scene.goer? = some t)
    (fun w => w.turnsLeft t c publisher (scene.before.carried.getD publisher []).length)
    fun next hnext => by
      refine (winds next (hback next hnext)).turnsLeft_lt (fun _ hopening => ?_)
        (hothers next (hback next hnext))
      obtain ⟨between, hbetween, hplay, -⟩ := hrest.before hnext
      cases hopening.symm.trans (hplay.not_opening
        (fun next hnext => winds next (hback next (hbetween hnext)))
        ((winds scene hscene).not_opening hgoer))
  rw [decide_eq_true hgoer, Bool.toNat_true] at hfirst
  rw [hlength]
  exact Nat.le_trans (by rw [moves]; omega) ((winds scene hscene).turnsLeft_le hgoer)

/-- What both loops have in common that are told to stop. -/
theorem windsUp_of_play (first : Play (.initial c₀ clockStart ids) earlier w₁)
    (rest : Play w₁ later w) (winds : w₁.Winds t c owner) (there : t < w₁.fresh)
    (told : w₁.IsToldToStop t)
    (stays : ∀ scene ∈ later, scene.after.isLive t = true → scene.after.IsToldToStop t)
    (spared : ∀ scene ∈ later, scene.before.spares t = true) : WindsUp t later w := by
  obtain ⟨hnow, hscenes⟩ := rest.winds winds there told stays spared
  refine ⟨hnow.atOnce (first.append rest).heedful (rest.told told stays), fun scene hscene => ?_,
    fun scene hscene => ?_, fun scene hscene entry => (hscenes scene hscene).writes,
    fun reply n ended => ?_⟩
  · obtain ⟨hscene, hgoer⟩ := List.mem_filter.mp hscene
    exact (hscenes scene hscene).sleeps (of_decide_eq_true hgoer)
  · obtain ⟨hscene, hgoer⟩ := List.mem_filter.mp hscene
    exact (hscenes scene hscene).awakes (of_decide_eq_true hgoer)
  · cases hnow with
    | going config owned get was =>
      rw [stateOf_of_get get, was] at ended
      cases ended
    | stopped stopped =>
      cases stopped.symm.trans ended
      rfl
    | gone gone =>
      rw [stateOf, gone] at ended
      cases ended

/-- How a publisher's loop winds up. -/
theorem publisherWindsUp_of_play (first : Play (.initial c₀ clockStart ids) earlier w₁)
    (rest : Play w₁ later w) (winds : w₁.Winds t c (some publisher)) (there : t < w₁.fresh)
    (told : w₁.IsToldToStop t)
    (stays : ∀ scene ∈ later, scene.after.isLive t = true → scene.after.IsToldToStop t)
    (spared : ∀ scene ∈ later, scene.before.spares t = true) :
    PublisherWindsUp c publisher t earlier later w := by
  obtain ⟨hnow, hscenes⟩ := rest.winds winds there told stays spared
  exact
    { windsUp_of_play first rest winds there told stays spared with
      handsOver := by
        have hcount := rest.count_le (Scene.handsOver t) (fun w => w.look t Work.allowance 0)
          fun scene hscene => (hscenes scene hscene).handsOver_le
        have hallowed : w₁.look t Work.allowance 0 ≤ 1 :=
          winds.look_le fun work _ _ => work.allowance_le
        omega
      fetches := fun scene hscene limit => by
        obtain ⟨hscene, hgoer⟩ := List.mem_filter.mp hscene
        exact (hscenes scene hscene).fetches (of_decide_eq_true hgoer)
      finishes := fun scene hscene id => by
        obtain ⟨front, -, hplay, -⟩ := rest.before hscene
        exact (hscenes scene hscene).finishes ((first.append hplay).heedful.aligned t)
      givesBack := fun scene hscene => (hscenes scene hscene).givesBack
      empties := fun alone scene hscene live ends => by
        obtain ⟨front, hfront, hplay, -⟩ := rest.before hscene
        refine (hscenes scene hscene).empties live ends fun given wait =>
          (first.append hplay).cleared ?_
        exact fun scene hscene => alone scene
          ((List.mem_append.mp hscene).elim (List.mem_append_left _)
            fun h => List.mem_append_right _ (hfront h))
      few := fun scene => first.few rest hscenes
      goesOn := fun live =>
        (hnow.goesOn (first.append rest).heedful (rest.told told stays) live).imp_right fun h => by
          obtain ⟨hasks, publisher, howned, hshared⟩ := h
          cases howned
          exact ⟨hasks, hshared⟩ }

/-- How a consumer's loop winds up. -/
theorem consumerWindsUp_of_play (first : Play (.initial c₀ clockStart ids) earlier w₁)
    (rest : Play w₁ later w) (winds : w₁.Winds t c none) (there : t < w₁.fresh)
    (told : w₁.IsToldToStop t)
    (stays : ∀ scene ∈ later, scene.after.isLive t = true → scene.after.IsToldToStop t)
    (spared : ∀ scene ∈ later, scene.before.spares t = true) : ConsumerWindsUp c t later w := by
  obtain ⟨hnow, hscenes⟩ := rest.winds winds there told stays spared
  exact
    { windsUp_of_play first rest winds there told stays spared with
      hears := by
        have hcount := rest.count_le (Scene.hears t) (fun w => w.look t Work.receiving 0)
          fun scene hscene => (hscenes scene hscene).hears_le
        have hreceiving : w₁.look t Work.receiving 0 ≤ 1 :=
          winds.look_le fun work _ _ => work.receiving_le
        omega
      few := fun halted => by
        have hcount := rest.count_le (fun scene => scene.goer? = some t)
          (fun w => w.look t (Work.turnsLeft c) 0) fun scene hscene =>
            (hscenes scene hscene).turnsLeft_lt_of_consuming fun hgoer =>
              halted scene (List.mem_filter.mpr ⟨hscene, decide_eq_true hgoer⟩)
        have hleft : w₁.look t (Work.turnsLeft c) 0 ≤ c.turnsToHandle + 1 :=
          winds.look_le fun work loop owned => by
            obtain ⟨s, rfl⟩ := eq_consuming loop owned
            exact s.turnsLeft_le c
        exact Nat.le_trans (Nat.le_trans (Nat.le_add_right _ _) hcount) hleft
      goesOn := fun live =>
        (hnow.goesOn (first.append rest).heedful (rest.told told stays) live).resolve_right
          fun h => by
            obtain ⟨-, publisher, howned, -⟩ := h
            cases howned }

end Plays

/-- **A loop that is told to stop, at whatever moment, winds up.** If it goes on being told so, and
is not made to crash, it never waits again for what its signal cuts short; it makes the pauses
between tries and leaves no entry of the history unwritten; and it comes to its end after a bounded
number of turns, which it can take at once or when time has come. A publisher's loop hands at most one
more message to the broker, is done with the one in hand, and asks for the release of all others. It
may have to wait while somebody else works for its publisher; otherwise it leaves no carried outcome.
A consumer's loop takes at most one more receipt; a signal that was given up before the loop had seen
its last setting may let it try once more. -/
theorem stops_at_safe_points {c₀ c : Config} {clockStart : Int} {ids : List MessageId}
    {earlier later : List Scene} {w₁ w : World} {t : TaskId} {watch : Option Watch}
    {state : TaskState} (first : Play (.initial c₀ clockStart ids) earlier w₁)
    (rest : Play w₁ later w) (there : w₁.tasks.get? t = some ⟨c, watch, state⟩)
    (told : w₁.IsToldToStop t)
    (stays : ∀ scene ∈ later, scene.after.isLive t = true → scene.after.IsToldToStop t)
    (spared : ∀ scene ∈ later, scene.before.spares t = true) :
    (∀ publisher s wait, state = .running (.publishing publisher s) wait →
      PublisherWindsUp c publisher t earlier later w) ∧
    ∀ s wait, state = .running (.consuming s) wait → ConsumerWindsUp c t later w := by
  have hthere : t < w₁.fresh := lt_fresh_of_stateOf first.apart.1 (stateOf_of_get there)
  refine ⟨fun publisher s wait was => ?_, fun s wait was => ?_⟩
  · subst was
    have hget : w₁.tasks.get? t =
        some ⟨c, watch, .running (.ofWork (.publishing publisher s)) wait⟩ := there
    exact publisherWindsUp_of_play first rest (winds_of_get hget rfl) hthere told stays spared
  · subst was
    have hget : w₁.tasks.get? t = some ⟨c, watch, .running (.ofWork (.consuming s)) wait⟩ := there
    exact consumerWindsUp_of_play first rest (winds_of_get hget rfl) hthere told stays spared

/-! ### Two loops that stop together -/

/-- Whether a loop has stopped. -/
def TaskState.hasStopped : TaskState → Bool
  | .ended .stopped _ => true
  | _ => false

instance (w : World) (t : TaskId) : Decidable (w.IsToldToStop t) :=
  decidable_of_iff ((w.tasks.get? t).any w.stops = true) (Option.any_eq_true _ _)

instance (w : World) (t : TaskId) : Decidable (w.IsHalted t) :=
  decidable_of_iff ((w.tasks.get? t).any w.halts = true) (Option.any_eq_true _ _)

/-- A task goes on being told to stop and is not made to crash until it has stopped. -/
def ToldUntilStopped (t : TaskId) (later : List Scene) (w : World) : Prop :=
  (∀ scene ∈ later, scene.after.isLive t = true → scene.after.IsToldToStop t) ∧
    (∀ scene ∈ later, scene.before.spares t = true) ∧
    (w.stateOf t).any TaskState.hasStopped = true

instance (t : TaskId) (later : List Scene) (w : World) : Decidable (ToldUntilStopped t later w) :=
  inferInstanceAs (Decidable (_ ∧ _ ∧ _))

/-- Tasks 3 and 7 stop, the one after it has taken a receipt and the other after it has handed over
the first of three messages. -/
def StopTogether (later : List Scene) (w : World) : Prop :=
  ToldUntilStopped 3 later w ∧ ToldUntilStopped 7 later w ∧
    (∀ scene ∈ moves 3 later, scene.before.IsHalted 3) ∧
    (later.filter (Scene.hears 3)).length = 1 ∧ (later.filter (Scene.handsOver 7)).length = 1 ∧
    w.history.size = 1 ∧ w.store.claimed = []

instance (later : List Scene) (w : World) : Decidable (StopTogether later w) :=
  inferInstanceAs (Decidable (_ ∧ _ ∧ _ ∧ _ ∧ _ ∧ _ ∧ _))

/-- A consumer's loop waits for receipts, of which there is one, and a publisher's loop is about to
fetch a batch of three messages, when both are told to stop. -/
def listeningAndFetching : List Happening :=
  [.begin (.insertMany 3), .turn 0, .begin (.subscribe "r" none), .turn 1,
    .begin (.deliver (.delivered (.ofNat 9)) none), .turn 2, .begin (.runConsumer "r" "s"), .turn 3,
    .turn 3, .begin (.runPublisher "p" "s"), .turn 7, .turn 7, .turn 7,
    .begin (.setSignal "s" true), .turn 12]

/-- The two loops stop. -/
def stoppingBoth : List Happening :=
  [.turn 7, .hear 3, .turn 3, .turn 7, .turn 7, .turn 7, .turn 7, .turn 7]

/-- Two tasks are at a consumer's loop and at the loop of a publisher, and are told to stop. -/
def ToldBoth (w : World) : Prop :=
  w.look 3 (fun work => some work.publisher?) none = some none ∧
    w.look 7 (fun work => some work.publisher?) none = some (some 8) ∧
    w.IsToldToStop 3 ∧ w.IsToldToStop 7

instance (w : World) : Decidable (ToldBoth w) :=
  inferInstanceAs (Decidable (_ ∧ _ ∧ _ ∧ _))

/-- Who shows a publisher, or that there is none, is at a loop for it. -/
theorem loop_of_look {w : World} {t : TaskId} {owner : Option PublisherId}
    (h : w.look t (fun work => some work.publisher?) none = some owner) :
    ∃ c watch work wait, w.tasks.get? t = some ⟨c, watch, .running (.ofWork work) wait⟩ ∧
      work.isLoop = true ∧ work.publisher? = owner := by
  unfold look stateOf at h
  cases hget : w.tasks.get? t with
  | none =>
    rw [hget] at h
    cases h
  | some task =>
    obtain ⟨c, watch, state⟩ := task
    rw [hget] at h
    cases state with
    | ended => cases h
    | running activity wait =>
      cases activity with
      | publishing publisher s =>
        cases h
        exact ⟨c, watch, .publishing publisher s, wait, rfl, rfl, rfl⟩
      | consuming s =>
        cases h
        exact ⟨c, watch, .consuming s, wait, rfl, rfl, rfl⟩
      | _ => cases h

theorem stops_at_safe_points_together :
    ∃ earlier later w₁ w c watch s wait c' watch' s' wait',
      Play (.initial .default 0 []) earlier w₁ ∧ Play w₁ later w ∧
      w₁.tasks.get? 3 = some ⟨c, watch, .running (.consuming s) wait⟩ ∧
      w₁.tasks.get? 7 = some ⟨c', watch', .running (.publishing 8 s') wait'⟩ ∧
      w₁.IsToldToStop 3 ∧ w₁.IsToldToStop 7 ∧ StopTogether later w ∧
      ConsumerWindsUp c 3 later w ∧ PublisherWindsUp c' 8 7 earlier later w := by
  obtain ⟨earlier, w₁, first, ⟨hconsumer, hpublisher, htold, htold'⟩, hlater⟩ :=
    exists_play listeningAndFetching (w := .initial .default 0 []) (P := fun _ w₁ =>
      ToldBoth w₁ ∧ (w₁.play? stoppingBoth).any (fun p => decide (StopTogether p.1 p.2)) = true)
    (by decide +kernel)
  obtain ⟨later, w, rest, htogether⟩ := exists_play stoppingBoth (P := StopTogether) hlater
  obtain ⟨⟨hstays, hspared, -⟩, ⟨hstays', hspared', -⟩, -⟩ := id htogether
  obtain ⟨c, watch, work, wait, hget, hloop, howned⟩ := loop_of_look hconsumer
  obtain ⟨c', watch', work', wait', hget', hloop', howned'⟩ := loop_of_look hpublisher
  obtain ⟨s, rfl⟩ := eq_consuming hloop howned
  obtain ⟨s', rfl⟩ := eq_publishing hloop' howned'
  exact ⟨earlier, later, w₁, w, c, watch, s, wait, c', watch', s', wait', first, rest, hget, hget',
    htold, htold', htogether,
    (stops_at_safe_points first rest hget htold hstays hspared).2 s wait rfl,
    (stops_at_safe_points first rest hget' htold' hstays' hspared').1 8 s' wait' rfl⟩

/-! ### What becomes of outcomes besides -/

/-- Task 2 is at the loop of publisher 3 and is told to stop. -/
def ToldPublisher (w : World) : Prop :=
  w.look 2 Work.publisher? none = some 3 ∧ w.IsToldToStop 2

instance (w : World) : Decidable (ToldPublisher w) :=
  inferInstanceAs (Decidable (_ ∧ _))

/-- The loop stops, and in all that time the outcome of a message is neither recorded nor carried. -/
def StopsUnrecorded (id : MessageId) (later : List Scene) (w : World) : Prop :=
  ToldUntilStopped 2 later w ∧ w.history.entriesOf id = [] ∧
    ∀ scene ∈ later, scene.after.carried.getD 3 [] = []

instance (id : MessageId) (later : List Scene) (w : World) :
    Decidable (StopsUnrecorded id later w) :=
  inferInstanceAs (Decidable (_ ∧ _ ∧ _))

/-- The loop stops, and its publisher carries an outcome then. -/
def StopsCarrying (later : List Scene) (w : World) : Prop :=
  ToldUntilStopped 2 later w ∧ w.carried.getD 3 [] ≠ []

instance (later : List Scene) (w : World) : Decidable (StopsCarrying later w) :=
  inferInstanceAs (Decidable (_ ∧ _))

/-- The broker takes a message, and before its outcome is recorded the loop is told to stop. -/
def tellPublishing : List Happening :=
  [.begin (.insertMany 2), .turn 0,
    .begin (.script .update [⟨0, false, some (.store (.conflict .notEnqueued))⟩]), .turn 1,
    .begin (.runPublisher "p" "s"), .turn 2, .turn 2, .turn 2, .turn 2,
    .begin (.setSignal "s" true), .turn 9]

/-- The loop waits after an outcome that it could not record, and is told to stop. -/
def tellPausing : List Happening :=
  [.begin (.insertMany 2), .turn 0,
    .begin (.script .update [⟨0, false, some (.store (.unavailable ""))⟩,
      ⟨0, false, some (.store (.unavailable ""))⟩]), .turn 1,
    .begin (.runPublisher "p" "s"), .turn 2, .turn 2, .turn 2, .turn 2, .turn 2, .turn 2, .turn 2,
    .turn 2, .begin (.setSignal "s" true), .turn 13]

/-- The loop takes its carried outcome away, and before it has given up the claim somebody else
carries another one with the same publisher. -/
def stopBeside : List Happening :=
  [.turn 2, .turn 2, .begin (.batch "p" "t"), .turn 16, .turn 16, .turn 16, .turn 16, .turn 16,
    .turn 16, .turn 2]

/-- An outcome in hand need be neither recorded nor carried: the store may refuse it. And a loop can
leave carried outcomes behind, if somebody else works for its publisher at the same time. -/
theorem outcome_refused_or_left :
    (∃ earlier later w₁ w id, Play (.initial .default 0 []) earlier w₁ ∧ Play w₁ later w ∧
      ToldPublisher w₁ ∧ w₁.look 2 Work.inHand? none = some id ∧ StopsUnrecorded id later w) ∧
    ∃ earlier later w₁ w,
      Play (.initial { Config.default with storeRetries := 0 } 0 []) earlier w₁ ∧
      Play w₁ later w ∧ ToldPublisher w₁ ∧ StopsCarrying later w := by
  constructor
  · obtain ⟨earlier, w₁, first, htold, hhand, hlater⟩ :=
      exists_play tellPublishing (w := .initial .default 0 []) (P := fun _ w₁ =>
        ToldPublisher w₁ ∧ w₁.look 2 Work.inHand? none = some (.ofNat 1) ∧
          (w₁.play? [.turn 2, .turn 2, .turn 2, .turn 2]).any
            (fun p => decide (StopsUnrecorded (.ofNat 1) p.1 p.2)) = true)
      (by decide +kernel)
    obtain ⟨later, w, rest, hstops⟩ := exists_play [.turn 2, .turn 2, .turn 2, .turn 2]
      (P := StopsUnrecorded (.ofNat 1)) hlater
    exact ⟨earlier, later, w₁, w, _, first, rest, htold, hhand, hstops⟩
  · obtain ⟨earlier, w₁, first, htold, hlater⟩ :=
      exists_play tellPausing (w := .initial { Config.default with storeRetries := 0 } 0 [])
        (P := fun _ w₁ => ToldPublisher w₁ ∧
          (w₁.play? stopBeside).any (fun p => decide (StopsCarrying p.1 p.2)) = true)
      (by decide +kernel)
    obtain ⟨later, w, rest, hstops⟩ := exists_play stopBeside (P := StopsCarrying) hlater
    exact ⟨earlier, later, w₁, w, first, rest, htold, hstops⟩

end Rehearsal

end Outbox
