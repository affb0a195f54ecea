import Mathlib.Data.List.Permutation
import Outbox.Proofs.Interplay.Setback
import Outbox.Proofs.Rehearsal.Pausing
import Outbox.Proofs.SafePoints
/-!
# `Proofs.Backoff` — a loop that gets nowhere pauses

A loop that got nowhere tries again. That it does not spin is up to its pauses: whatever fails, for
however long and in whatever order the tasks go on, a loop that its signal does not wake makes its
next try no sooner than the time of a backoff after it gave up the last. Which backoff that is
depends on what went wrong, and settings are usable with one of the two being zero. So the loops
never spin exactly if they wait after a failure at all; if they do not, then a publisher's loop
makes as many tries at one instant as the store fails calls.
-/

namespace Outbox

open Interplay

namespace Interplay.Work

/-- Whether a publisher's loop is in the middle of a batch. -/
def isBatching : Work → Bool
  | .publishing _ (.batching _) => true
  | _ => false

/-- Whether a call is a consumer's loop. -/
def isConsuming : Work → Bool
  | .consuming _ => true
  | _ => false

/-- Only a publisher's loop is about to begin a batch. -/
theorem eq_opening {work : Work} (h : work.isOpening = true) :
    ∃ publisher, work = .publishing publisher (.batching .opening) := by
  cases work with
  | publishing publisher s =>
    cases s with
    | batching batch => cases batch <;> first | exact ⟨publisher, rfl⟩ | cases h
    | starting | pausing | abandoning | releasing => cases h
  | recording | handling | batching | consuming => cases h

section Turns

variable {c : Config} {stop : Bool} {carried : List Outcome} {publisher : PublisherId}

/-- What a publisher's loop tells is what its process does. -/
theorem setback_publishing {s : Publishing} {answer : ((publishing publisher s).request c).Answer}
    (h : ((publishing publisher s).resume c stop carried answer).2.notices.any Notice.isSetback =
      true) : (s.resume c stop carried answer).2.notices.any Notice.isSetback = true := by
  refine Bool.of_not_eq_false fun hplain => ?_
  obtain ⟨-, -, htold⟩ := Turn.told_of_andThen hplain h
  cases htold

/-- What a consumer's loop tells is what its process does. -/
theorem setback_consuming {s : Consuming} {answer : ((consuming s).request c).Answer}
    (h : ((consuming s).resume c stop carried answer).2.notices.any Notice.isSetback = true) :
    (s.resume c stop answer).notices.any Notice.isSetback = true := by
  refine Bool.of_not_eq_false fun hplain => ?_
  obtain ⟨-, -, htold⟩ := Turn.told_of_andThen hplain h
  cases htold

/-- A batch goes on but does not begin again, or the loop pauses because it was in vain. -/
theorem next_of_leads {s : Batching} {J : Batching → Prop}
    (answer : ((publishing publisher (.batching s)).request c).Answer)
    (leads : (s.resume c stop carried answer).2.Leads J (Batching.isVain · = true)) :
    (∃ next, ((publishing publisher (.batching s)).resume c stop carried answer).2.progress =
        .waiting (.publishing publisher (.batching next)) ∧ next.isOpening = false ∧ J next) ∨
      ∃ milliseconds,
        ((publishing publisher (.batching s)).resume c stop carried answer).2.progress =
          .waiting (.publishing publisher (.pausing milliseconds)) ∧
        min c.idleBackoff c.errorBackoff ≤ milliseconds := by
  have hopening : (s.resume c stop carried answer).2.progress.look Batching.isOpening false =
      false := s.not_opening carried answer
  unfold Turn.Leads at leads
  cases hp : (s.resume c stop carried answer).2.progress with
  | waiting next =>
    rw [hp] at leads hopening
    refine .inl ⟨next, congrArg Turn.progress (Turn.andThen_of_waiting ?_ _ _), hopening, leads⟩
    exact congrArg Turn.progress (Turn.andThen_of_waiting hp _ _)
  | finished result =>
    rw [hp] at leads
    obtain ⟨milliseconds, hpausing, hlong⟩ := Publishing.pausing_of_vain stop leads
    refine .inr ⟨milliseconds, congrArg Turn.progress (Turn.andThen_of_waiting ?_ _ _), hlong⟩
    exact (congrArg Turn.progress (Turn.andThen_of_finished hp _ _)).trans hpausing

end Turns

end Interplay.Work

namespace Rehearsal

open World

/-! ## Tries -/

/-- What is told in a scene, the latest first. -/
def Scene.news (scene : Scene) : List Notice :=
  scene.after.told.take (scene.after.told.length - scene.before.told.length)

/-- Whether a publisher's loop begins an iteration in a scene. -/
def Scene.opens (t : TaskId) (scene : Scene) : Bool :=
  scene.goer? = some t && scene.after.look t Work.isOpening false

/-- Whether a publisher's loop comes to the end of an iteration in a scene, and does not begin
another at once. -/
def Scene.closes (t : TaskId) (scene : Scene) : Bool :=
  scene.goer? = some t && scene.before.look t Work.isBatching false &&
    !scene.after.look t Work.isBatching false

/-- Whether a loop tells in a scene that it could not record something, or not subscribe. -/
def Scene.setsBack (t : TaskId) (scene : Scene) : Bool :=
  scene.goer? = some t && scene.news.any Notice.isSetback

/-- Whether an attempt of a consumer's loop fails in a scene: to record a receipt, or to subscribe
anew. -/
def Scene.failsAttempt (t : TaskId) (scene : Scene) : Bool :=
  scene.before.look t Work.isConsuming false && scene.setsBack t

/-- The settings of a task. -/
def World.configOf (w : World) (t : TaskId) : Option Config :=
  (w.tasks.get? t).map Task.config

/-- A publisher's loop has published nothing in some scenes: it hands no message to the broker, or
it cannot record what came of one. -/
def Fruitless (t : TaskId) (scenes : List Scene) : Prop :=
  (∀ scene ∈ scenes, scene.handsOver t = false) ∨ ∃ scene ∈ scenes, scene.setsBack t = true

instance (t : TaskId) : DecidablePred (Fruitless t) := fun scenes =>
  inferInstanceAs (Decidable
    ((∀ scene ∈ scenes, scene.handsOver t = false) ∨ ∃ scene ∈ scenes, scene.setsBack t = true))

/-- A publisher's loop with the settings `c` begins an iteration in one scene and the next one in
another. It has published nothing between them, and its signal does not wake it. -/
def IteratesInVain (c : Config) (t : TaskId) (first : Scene) (between : List Scene)
    (second : Scene) : Prop :=
  first.after.configOf t = some c ∧ first.opens t = true ∧
    (∀ scene ∈ between, scene.opens t = false) ∧ second.opens t = true ∧
    Unsignalled t (between ++ [second]) ∧ Fruitless t between

instance (c : Config) (t : TaskId) (first : Scene) (between : List Scene) (second : Scene) :
    Decidable (IteratesInVain c t first between second) :=
  inferInstanceAs (Decidable (_ ∧ _ ∧ _ ∧ _ ∧ _ ∧ _))

/-- An attempt of a consumer's loop with the settings `c` fails in one scene and the next one to
fail does so in another, and its signal does not wake it between them. -/
def FailsAgain (c : Config) (t : TaskId) (first : Scene) (between : List Scene)
    (second : Scene) : Prop :=
  first.before.configOf t = some c ∧ first.failsAttempt t = true ∧
    (∀ scene ∈ between, scene.failsAttempt t = false) ∧ second.failsAttempt t = true ∧
    Unsignalled t (between ++ [second])

instance (c : Config) (t : TaskId) (first : Scene) (between : List Scene) (second : Scene) :
    Decidable (FailsAgain c t first between second) :=
  inferInstanceAs (Decidable (_ ∧ _ ∧ _ ∧ _ ∧ _))

/-- In every play, time passes between two iterations of a publisher's loop with the settings `c`,
from the end of one that published nothing to the beginning of the next. -/
def IterationsPaced (c : Config) : Prop :=
  ∀ {c₀ : Config} {clockStart : Int} {ids : List MessageId} {earlier between : List Scene}
    {first second : Scene} {w : World} {t : TaskId},
    Play (.initial c₀ clockStart ids) (earlier ++ first :: (between ++ [second])) w →
    IteratesInVain c t first between second →
    ∃ last ∈ between, last.closes t = true ∧ last.after.now < second.before.now

/-- In every play, time passes between two failed attempts of a consumer's loop with the settings
`c`, from one to the next. -/
def AttemptsPaced (c : Config) : Prop :=
  ∀ {c₀ : Config} {clockStart : Int} {ids : List MessageId} {earlier between : List Scene}
    {first second : Scene} {w : World} {t : TaskId},
    Play (.initial c₀ clockStart ids) (earlier ++ first :: (between ++ [second])) w →
    FailsAgain c t first between second → first.after.now < second.before.now

/-! ## Loops among the scenes -/

namespace World

/-- A loop with the settings `c` goes on, for a publisher or for none. -/
def RunsLoop (w : World) (t : TaskId) (c : Config) (owner : Option PublisherId) : Prop :=
  ∃ watch work wait, w.tasks.get? t = some ⟨c, watch, .running (.ofWork work) wait⟩ ∧
    work.isLoop = true ∧ work.publisher? = owner

/-- A publisher's loop with the settings `c` is in the middle of a batch for which `I` holds. -/
def RunsBatch (w : World) (t : TaskId) (c : Config) (I : Batching → Prop) : Prop :=
  ∃ watch publisher batch wait, w.tasks.get? t =
    some ⟨c, watch, .running (.ofWork (.publishing publisher (.batching batch))) wait⟩ ∧ I batch

section Loops

variable {w w' : World} {happening : Happening} {t : TaskId} {c : Config} {watch : Option Watch}
  {work : Work} {wait : Wait} {publisher : PublisherId} {batch : Batching}
  {owner : Option PublisherId} {I J : Batching → Prop}

/-- Who shows something of a loop is at a loop. -/
theorem loop_of_shows {f : Work → Bool} (h : w.look t f false = true) :
    ∃ c watch work wait, w.tasks.get? t = some ⟨c, watch, .running (.ofWork work) wait⟩ ∧
      work.isLoop = true ∧ f work = true := by
  unfold look stateOf at h
  cases hget : w.tasks.get? t with
  | none =>
    rw [hget] at h
    cases h
  | some task =>
    obtain ⟨c, watch, state⟩ := task
    rw [hget] at h
    cases state with
    | ended => cases h
    | running activity wait =>
      cases activity with
      | publishing publisher s => exact ⟨c, watch, .publishing publisher s, wait, rfl, rfl, h⟩
      | consuming s => exact ⟨c, watch, .consuming s, wait, rfl, rfl, h⟩
      | _ => cases h

/-- What is told when a task goes on by an answer. -/
theorem Resumed.news {task : Task} {answer : (work.request task.config).Answer}
    (resumed : Resumed w t task work answer w') (happening : Happening) :
    Scene.news ⟨w, happening, w'⟩ = (w.outcome task work answer).2.notices.reverse := by
  rw [Scene.news, resumed.told, List.length_append, Nat.add_sub_cancel, List.take_left]

/-- A loop that goes on crashes, ends, or is at its loop still. -/
theorem RunsLoop.happen (runs : w.RunsLoop t c owner) (there : t < w.fresh)
    (step : w.happen? happening = some w') : w'.RunsLoop t c owner ∨ w'.isLive t = false := by
  obtain ⟨watch, work, wait, hget, hloop, howned⟩ := runs
  by_cases hgoer : Scene.goer? ⟨w, happening, w'⟩ = some t
  · rcases crashed_or_resumed step hget hgoer with hdead | ⟨answer, hresumed⟩
    · exact .inr hdead
    · cases hp : (w.outcome _ work answer).2.progress with
      | waiting next =>
        obtain ⟨hnext, hsame⟩ := Work.loop_of_waiting hloop hp
        obtain ⟨watch', wait', hget', -⟩ := hresumed.get hp
        exact .inl ⟨watch', next, wait', hget', hnext, hsame.trans howned⟩
      | finished result =>
        obtain ⟨state, task', -, hensues, hget'⟩ := hresumed.next
        rw [hp] at hensues
        cases hensues with
        | waits next => cases next
        | ends => exact .inr (isLive_of_ended (stateOf_of_get hget'))
  · exact .inl ⟨watch, work, wait, get_of_others step there hget hgoer, hloop, howned⟩

/-- A loop has come to the end of a batch that was in vain, and rests. -/
def RestsInVain (w : World) (t : TaskId) (c : Config) : Prop :=
  w.look t Work.isBatching false = false ∧
    ∃ milliseconds, min c.idleBackoff c.errorBackoff ≤ milliseconds ∧
      w.Rests t c w.now milliseconds

/-- **A batch whose turns keep a property or end it in vain is followed by a pause.** -/
theorem RunsBatch.happen (runs : w.RunsBatch t c I) (step : w.happen? happening = some w')
    (goer : Scene.goer? ⟨w, happening, w'⟩ = some t)
    (leads : Batching.LeadsOn c I J) :
    w'.RunsBatch t c (fun batch => batch.isOpening = false ∧ J batch) ∨ w'.RestsInVain t c ∨
      w'.isLive t = false := by
  obtain ⟨watch, publisher, s, wait, hget, hI⟩ := runs
  rcases crashed_or_resumed step hget goer with hdead | ⟨answer, hresumed⟩
  · exact .inr (.inr hdead)
  rcases Work.next_of_leads answer (leads _ _ answer hI) with
    ⟨next, hnext, hopening, hJ⟩ | ⟨milliseconds, hnext, hlong⟩
  · obtain ⟨watch', wait', hget', -⟩ := hresumed.get hnext
    exact .inl ⟨watch', publisher, next, wait', hget', hopening, hJ⟩
  · obtain ⟨watch', wait', hget', -⟩ := hresumed.get hnext
    refine .inr (.inl ⟨?_, milliseconds, hlong, hresumed.rests hnext rfl⟩)
    exact look_of_get hget' rfl rfl _ _

/-- Who is about to begin a batch is in the middle of one. -/
theorem batching_of_opening (h : w.look t Work.isOpening false = true) :
    w.look t Work.isBatching false = true := by
  obtain ⟨c, watch, work, wait, hget, hloop, hopening⟩ := loop_of_shows h
  rw [look_of_get hget rfl hloop]
  cases work with
  | publishing publisher s => cases s <;> first | rfl | cases hopening
  | recording | handling | batching | consuming => cases hopening

end Loops

end World

/-! ## Iterations -/

section Iterations

variable {w₁ w w' : World} {later : List Scene} {second : Scene} {t : TaskId} {c : Config}
  {owner : Option PublisherId} {I J : Batching → Prop}

theorem Play.runsLoop (rest : Play w₁ later w) (there : t < w₁.fresh)
    (runs : w₁.RunsLoop t c owner) : w.RunsLoop t c owner ∨ w.isLive t = false := by
  induction rest with
  | nil => exact .inl runs
  | snoc rest step ih =>
    have hthere := Nat.lt_of_lt_of_le there rest.fresh
    rcases ih with hruns | hdead
    · exact hruns.happen hthere step
    · exact .inr (dead_of_happen step hthere hdead)

/-- A batch that is in vain is still going on, or the loop has paused since its end for as long as
it is to, or rests still; unless it has crashed. -/
theorem Play.batch_in_vain (rest : Play w₁ later w) (there : t < w₁.fresh)
    (runs : w₁.RunsBatch t c I) (unsignalled : Unsignalled t later)
    (leads : Batching.LeadsOn c I J)
    (keeps : ∀ scene ∈ later, scene.goer? = some t → scene.after.RunsBatch t c J →
      scene.after.RunsBatch t c I) :
    w.RunsBatch t c I ∨ w.isLive t = false ∨ ∃ last ∈ later, last.closes t = true ∧
      ∃ milliseconds, min c.idleBackoff c.errorBackoff ≤ milliseconds ∧
        (w.Rests t c last.after.now milliseconds ∨ last.after.now + milliseconds ≤ w.now) := by
  induction rest with
  | nil => exact .inl runs
  | @snoc later w w' happening rest step ih =>
    have hthere := Nat.lt_of_lt_of_le there rest.fresh
    have hlast : (⟨w, happening, w'⟩ : Scene) ∈ later ++ [⟨w, happening, w'⟩] :=
      List.mem_append_right _ (List.mem_singleton_self _)
    rcases ih (fun scene hscene => unsignalled scene (List.mem_append_left _ hscene))
      (fun scene hscene => keeps scene (List.mem_append_left _ hscene)) with
      hruns | hdead | ⟨last, hmem, hcloses, milliseconds, hlong, hrests⟩
    · by_cases hgoer : Scene.goer? ⟨w, happening, w'⟩ = some t
      · rcases hruns.happen step hgoer leads with
          hnext | ⟨hover, milliseconds, hlong, hrests⟩ | hdead
        · obtain ⟨watch, publisher, batch, wait, hget, -, hJ⟩ := hnext
          exact .inl (keeps _ hlast hgoer ⟨watch, publisher, batch, wait, hget, hJ⟩)
        · refine .inr (.inr ⟨_, hlast, ?_, milliseconds, hlong, .inl hrests⟩)
          obtain ⟨watch, publisher, batch, wait, hget, -⟩ := hruns
          have hbatching : w.look t Work.isBatching false = true := look_of_get hget rfl rfl _ _
          simp only [Scene.closes, hgoer, hbatching, hover, decide_true, Bool.and_self,
            Bool.not_false]
        · exact .inr (.inl hdead)
      · obtain ⟨watch, publisher, batch, wait, hget, hI⟩ := hruns
        exact .inl ⟨watch, publisher, batch, wait, get_of_others step hthere hget hgoer, hI⟩
    · exact .inr (.inl (dead_of_happen step hthere hdead))
    · refine .inr (.inr ⟨last, List.mem_append_left _ hmem, hcloses, milliseconds, hlong, ?_⟩)
      rcases hrests with hrests | hover
      · exact hrests.happen hthere step (unsignalled _ hlast)
      · exact .inr (Nat.le_trans hover (onward_of_happen step).now)

/-- **After a batch that is in vain the loop begins the next iteration no sooner than the time of a
backoff after its end.** -/
theorem Play.closed_before (rest : Play w₁ (later ++ [second]) w) (there : t < w₁.fresh)
    (runs : w₁.RunsBatch t c I) (opens : second.opens t = true)
    (unsignalled : Unsignalled t (later ++ [second]))
    (leads : Batching.LeadsOn c I J)
    (keeps : ∀ scene ∈ later, scene.goer? = some t → scene.after.RunsBatch t c J →
      scene.after.RunsBatch t c I) :
    ∃ last ∈ later, last.closes t = true ∧
      last.after.now + min c.idleBackoff c.errorBackoff ≤ second.before.now := by
  obtain ⟨hrest, hstep, -⟩ := rest.last
  rw [Scene.opens, Bool.and_eq_true, decide_eq_true_eq] at opens
  obtain ⟨hgoer, hopening⟩ := opens
  rcases hrest.batch_in_vain there runs
    (fun scene hscene => unsignalled scene (List.mem_append_left _ hscene)) leads keeps with
    hruns | hdead | ⟨last, hmem, hcloses, milliseconds, hlong, hrests⟩
  · -- a batch that is going on does not begin again, and is followed by a pause
    rcases hruns.happen hstep hgoer leads with hnext | ⟨hover, -⟩ | hdead
    · obtain ⟨watch, publisher, batch, wait, hget, hnot, -⟩ := hnext
      rw [look_of_get hget rfl rfl] at hopening
      cases hnot.symm.trans hopening
    · cases hover.symm.trans (batching_of_opening hopening)
    · cases (look_of_not_live hdead _ _).symm.trans hopening
  · cases (live_of_goer hstep hgoer).symm.trans hdead
  · refine ⟨last, hmem, hcloses, Nat.le_trans (Nat.add_le_add_left hlong _) ?_⟩
    refine hrests.elim (fun hrests => ?_) id
    exact hrests.due hstep hgoer
      (unsignalled _ (List.mem_append_right _ (List.mem_singleton_self _)) hgoer)

end Iterations

/-! ## Backoffs -/

section Backoffs

variable {c c₀ : Config} {clockStart : Int} {ids : List MessageId}
  {earlier between later scenes : List Scene} {first second : Scene} {w₀ w w' : World} {t : TaskId}

/-- A play up to a scene, the scene, and the play after it. -/
theorem Play.parts (play : Play w₀ (earlier ++ first :: later) w) :
    Play w₀ earlier first.before ∧ first.before.happen? first.happening = some first.after ∧
      Play first.after later w := by
  rw [List.append_cons] at play
  obtain ⟨w₁, hthis, hlater⟩ := play.split
  obtain ⟨hearlier, hstep, rfl⟩ := hthis.last
  exact ⟨hearlier, hstep, hlater⟩

/-- Who is there has a number that was given out. -/
theorem Play.there {task : Task} (play : Play (.initial c₀ clockStart ids) scenes w)
    (get : w.tasks.get? t = some task) : t < w.fresh := by
  refine Nat.lt_of_not_le fun hnew => ?_
  cases (stateOf_of_get get).symm.trans (play.apart.1 t hnew)

/-- A loop that goes on later has not come to its end. -/
theorem Play.not_dead (play : Play w₀ (later ++ [second]) w) (there : t < w₀.fresh)
    (goer : second.goer? = some t) (dead : w₀.isLive t = false) : False := by
  obtain ⟨hlater, hstep, -⟩ := play.last
  cases (live_of_goer hstep goer).symm.trans (hlater.dead there dead)

/-- A publisher's loop that is set back is in a batch that could not record an outcome. -/
theorem World.RunsLoop.stuck {scene : Scene} {publisher : PublisherId}
    (runs : scene.before.RunsLoop t c (some publisher))
    (step : scene.before.happen? scene.happening = some scene.after)
    (setback : scene.setsBack t = true) :
    scene.after.RunsBatch t c (·.isStuck = true) ∨ scene.after.isLive t = false := by
  obtain ⟨watch, work, wait, hget, hloop, howned⟩ := runs
  obtain ⟨s, rfl⟩ := eq_publishing hloop howned
  rw [Scene.setsBack, Bool.and_eq_true, decide_eq_true_eq] at setback
  obtain ⟨hgoer, htold⟩ := setback
  rcases crashed_or_resumed step hget hgoer with hdead | ⟨answer, hresumed⟩
  · exact .inr hdead
  rw [hresumed.news scene.happening, List.any_reverse] at htold
  obtain ⟨batch, hbatch, hstuck⟩ := Publishing.stuck_of_setback (Work.setback_publishing htold)
  obtain ⟨watch', wait', hget', -⟩ :=
    hresumed.get (congrArg Turn.progress (Turn.andThen_of_waiting hbatch _ _))
  exact .inl ⟨watch', publisher, batch, wait', hget', hstuck⟩

/-- After a batch that hands nothing over the loop pauses. -/
theorem Play.closed_of_none (rest : Play w₀ (between ++ [second]) w) (there : t < w₀.fresh)
    (runs : w₀.RunsBatch t c (·.isEmptyHanded = true))
    (unhanded : ∀ scene ∈ between, scene.handsOver t = false) (next : second.opens t = true)
    (unsignalled : Unsignalled t (between ++ [second])) : ∃ last ∈ between, last.closes t = true ∧
      last.after.now + min c.idleBackoff c.errorBackoff ≤ second.before.now := by
  refine rest.closed_before there runs next unsignalled Batching.leadsOn_of_emptyHanded
    fun scene hscene hgoer hruns => ?_
  -- a batch that comes to a message hands it over
  obtain ⟨watch, publisher, batch, wait, hget, hempty | ⟨summary, m, rest, rfl⟩⟩ := hruns
  · exact ⟨watch, publisher, batch, wait, hget, hempty⟩
  · have hhands : scene.handsOver t = true := by
      rw [Scene.handsOver, requestOf_of_get hget rfl, hgoer, decide_eq_true rfl]
      rfl
    cases (unhanded scene hscene).symm.trans hhands

/-- After a batch that could not record an outcome the loop pauses. -/
theorem Play.closed_of_setback {scene : Scene} {publisher : PublisherId}
    (rest : Play w₀ (between ++ [second]) w) (there : t < w₀.fresh)
    (runs : w₀.RunsLoop t c (some publisher)) (mem : scene ∈ between)
    (setback : scene.setsBack t = true) (next : second.opens t = true)
    (unsignalled : Unsignalled t (between ++ [second])) : ∃ last ∈ between, last.closes t = true ∧
      last.after.now + min c.idleBackoff c.errorBackoff ≤ second.before.now := by
  obtain ⟨front, back, rfl⟩ := List.append_of_mem mem
  rw [List.append_assoc, List.cons_append] at rest unsignalled
  obtain ⟨hfront, hstep, hback⟩ := rest.parts
  have hgoer : second.goer? = some t := by
    rw [Scene.opens, Bool.and_eq_true, decide_eq_true_eq] at next
    exact next.1
  have hbefore : t < scene.before.fresh := Nat.lt_of_lt_of_le there hfront.fresh
  have hafter : t < scene.after.fresh := Nat.lt_of_lt_of_le hbefore (onward_of_happen hstep).fresh
  rcases hfront.runsLoop there runs with hruns | hdead
  · rcases hruns.stuck hstep setback with hstuck | hdead
    · obtain ⟨last, hlast, hcloses⟩ := hback.closed_before hafter hstuck next
        (fun scene hscene => unsignalled scene
          (List.mem_append_right _ (List.mem_cons_of_mem _ hscene)))
        Batching.leadsOn_of_stuck fun _ _ _ hstuck => hstuck
      exact ⟨last, List.mem_append_right _ (List.mem_cons_of_mem _ hlast), hcloses⟩
    · exact (hback.not_dead hafter hgoer hdead).elim
  · exact (hback.not_dead hafter hgoer (dead_of_happen hstep hbefore hdead)).elim

/-- **An iteration that published nothing is followed by a backoff**, and which one it is is up to
what went wrong. -/
theorem Play.iteration_closed
    (play : Play (.initial c₀ clockStart ids) (earlier ++ first :: (between ++ [second])) w)
    (vain : IteratesInVain c t first between second) : ∃ last ∈ between, last.closes t = true ∧
      last.after.now + min c.idleBackoff c.errorBackoff ≤ second.before.now := by
  obtain ⟨hconfig, hopens, -, hnext, unsignalled, fruitless⟩ := vain
  obtain ⟨hearlier, hstep, hrest⟩ := play.parts
  rw [Scene.opens, Bool.and_eq_true] at hopens
  obtain ⟨c', watch, work, wait, hget, -, hopening⟩ := loop_of_shows hopens.2
  rw [World.configOf, hget, Option.map_some, Option.some_inj] at hconfig
  obtain rfl : c' = c := hconfig
  obtain ⟨publisher, rfl⟩ := Work.eq_opening hopening
  have hthere : t < first.after.fresh := (hearlier.snoc hstep).there hget
  rcases fruitless with hnone | ⟨scene, hscene, hsetback⟩
  · exact hrest.closed_of_none hthere ⟨watch, publisher, .opening, wait, hget, rfl⟩ hnone hnext
      unsignalled
  · exact hrest.closed_of_setback hthere ⟨watch, _, wait, hget, rfl, rfl⟩ hscene hsetback hnext
      unsignalled

/-- **An attempt that failed is followed by a backoff.** -/
theorem Play.attempt_closed
    (play : Play (.initial c₀ clockStart ids) (earlier ++ first :: (between ++ [second])) w)
    (again : FailsAgain c t first between second) :
    first.after.now + c.errorBackoff ≤ second.before.now := by
  obtain ⟨hconfig, hfails, -, hnext, unsignalled⟩ := again
  obtain ⟨hearlier, hstep, hrest⟩ := play.parts
  rw [Scene.failsAttempt, Scene.setsBack, Bool.and_eq_true, Bool.and_eq_true,
    decide_eq_true_eq] at hfails hnext
  obtain ⟨hconsuming, hgoer, htold⟩ := hfails
  obtain ⟨c', watch, work, wait, hget, -, hshows⟩ := loop_of_shows hconsuming
  rw [World.configOf, hget, Option.map_some, Option.some_inj] at hconfig
  obtain rfl : c' = c := hconfig
  have hthere : t < first.after.fresh :=
    Nat.lt_of_lt_of_le (hearlier.there hget) (onward_of_happen hstep).fresh
  rcases crashed_or_resumed hstep hget hgoer with hdead | ⟨answer, hresumed⟩
  · exact (hrest.not_dead hthere hnext.2.1 hdead).elim
  cases work with
  | consuming s =>
    rw [hresumed.news first.happening, List.any_reverse] at htold
    obtain ⟨pausing, hwaits, hpauses⟩ := Consuming.pauses_of_setback (Work.setback_consuming htold)
    have hrests := hresumed.rests
      (congrArg Turn.progress (Turn.andThen_of_waiting hwaits _ _)) hpauses
    obtain ⟨hbetween, hlast, -⟩ := hrest.last
    rcases hbetween.rests hthere hrests
      (fun scene hscene => unsignalled scene (List.mem_append_left _ hscene)) with hrests | hover
    · exact hrests.due hlast hnext.2.1
        (unsignalled _ (List.mem_append_right _ (List.mem_singleton_self _)) hnext.2.1)
    · exact hover
  | recording | handling | batching | publishing => cases hshows

end Backoffs

/-! ## Without a backoff after failures -/

section Spinning

/-- A play with two scenes, and what is between them, that have a property that can be computed. -/
theorem exists_between (front back : List Happening) {w : World}
    {P : Scene → List Scene → Scene → Prop}
    [∀ first between second, Decidable (P first between second)]
    (h : (w.play? front).any (fun p => p.1.getLast?.any fun first =>
      (first.after.play? back).any fun q => q.1.getLast?.any fun second =>
        decide (P first q.1.dropLast second)) = true) :
    ∃ earlier first between second w',
      Play w (earlier ++ first :: (between ++ [second])) w' ∧ P first between second := by
  obtain ⟨⟨scenes, w₁⟩, hfront, hlast⟩ := (Option.any_eq_true _ _).mp h
  obtain ⟨first, hfirst, hback⟩ := (Option.any_eq_true _ _).mp hlast
  obtain ⟨⟨later, w'⟩, hlater, hlast⟩ := (Option.any_eq_true _ _).mp hback
  obtain ⟨second, hsecond, hP⟩ := (Option.any_eq_true _ _).mp hlast
  obtain ⟨earlier, rfl⟩ := List.getLast?_eq_some_iff.mp hfirst
  obtain ⟨between, rfl⟩ := List.getLast?_eq_some_iff.mp hsecond
  rw [List.dropLast_concat] at hP
  refine ⟨earlier, first, between, second, w', ?_, of_decide_eq_true hP⟩
  obtain ⟨hearlier, hstep, -⟩ := (Play.of_play? hfront).last
  rw [List.append_cons]
  exact (hearlier.snoc hstep).append (.of_play? hlater)

/-- Task 1 begins an iteration in the last of some scenes, but not before; it hands nothing over in
any of them, and its signal does not wake it. -/
def ComesRound (before : List Scene) (last : Scene) : Prop :=
  (∀ scene ∈ before, scene.opens 1 = false) ∧ last.opens 1 = true ∧
    (∀ scene ∈ before ++ [last], scene.handsOver 1 = false) ∧ Unsignalled 1 (before ++ [last])

instance (before : List Scene) (last : Scene) : Decidable (ComesRound before last) :=
  inferInstanceAs (Decidable (_ ∧ _ ∧ _ ∧ _))

theorem ComesRound.count {before : List Scene} {last : Scene} (round : ComesRound before last) :
    (before ++ [last]).countP (·.opens 1) = 1 := by
  obtain ⟨hbefore, hopens, -⟩ := round
  have hnone : before.countP (·.opens 1) = 0 :=
    List.countP_eq_zero.mpr fun scene hscene => Bool.not_eq_true _ ▸ hbefore scene hscene
  rw [List.countP_append, hnone, List.countP_singleton, if_pos hopens]

/-- A publisher's loop with the settings `c` goes on as task 1, and the store is going to fail so
many calls. -/
def World.besieged (c : Config) (failures : Nat) (s : Publishing) (wait : Wait) (fresh : Nat)
    (told : List Notice) : World :=
  { World.initial c 0 [] with
    store := { Store.empty with failures }
    signals := ⟨[(3, .fresh)]⟩
    signalNames := ⟨[("s", 3)]⟩
    carried := ⟨[(2, [])]⟩
    publisherNames := ⟨[("p", 2)]⟩
    tasks := ⟨[(0, ⟨c, none, .ended .done 0⟩),
      (1, ⟨c, some ⟨3, 0⟩, .running (.publishing 2 s) wait⟩)]⟩
    fresh
    told }

variable {c : Config} {failures fresh arrival : Nat} {wait : Wait} {told : List Notice}

/-- The loop has nothing to recover, and fetches. -/
theorem fetches_of_besieged :
    (World.besieged c failures (.batching .opening) wait fresh told).happen? (.turn 1) =
      some (.besieged c failures (.batching (.fetching .blank)) ⟨fresh, some 0, .none⟩ (fresh + 1)
        told) :=
  rfl

/-- The fetch fails, and the loop pauses. -/
theorem pauses_of_besieged :
    (World.besieged c (failures + 1) (.batching (.fetching .blank)) ⟨arrival, some 0, .none⟩ fresh
      told).happen? (.turn 1) =
        some (.besieged c failures (.pausing c.errorBackoff)
          ⟨fresh, some (0 + c.errorBackoff), .none⟩ (fresh + 1)
          (.batchFailed Store.operationFault :: told)) :=
  rfl

/-- A pause that takes no time is over at once, and the loop begins again. -/
theorem opens_of_besieged (zero : c.errorBackoff = 0) :
    (World.besieged c failures (.pausing c.errorBackoff)
      ⟨arrival, some (0 + c.errorBackoff), .none⟩ fresh told).happen? (.turn 1) =
        some (.besieged c failures (.batching .opening) ⟨fresh, none, .none⟩ (fresh + 1) told) := by
  rw [zero]
  rfl

/-- **While the store fails, a loop with no backoff after failures comes round in no time.** -/
theorem comesRound_of_besieged (zero : c.errorBackoff = 0) : ∃ before last wait' told',
    Play (.besieged c (failures + 1) (.batching .opening) wait fresh told) (before ++ [last])
      (.besieged c failures (.batching .opening) wait' (fresh + 3) told') ∧
      ComesRound before last := by
  have hfetches : Play (.besieged c (failures + 1) (.batching .opening) wait fresh told) _ _ :=
    .snoc .nil fetches_of_besieged
  have hplay := (hfetches.snoc pauses_of_besieged).snoc (opens_of_besieged zero)
  exact ⟨_, _, _, _, hplay, of_decide_eq_true rfl⟩

/-- A publisher's loop begins its first iteration when the store is going to fail so many calls. -/
theorem exists_besieged (c : Config) (failures : Nat) : ∃ before last wait told,
    Play (.initial c 0 []) (before ++ [last])
      (.besieged c failures (.batching .opening) wait 6 told) ∧ ComesRound before last := by
  let happenings : List Happening := [.begin (.failOperations failures), .turn 0,
    .begin (.runPublisher "p" "s"), .turn 1, .turn 1]
  have hlast : ((World.initial c 0 []).play? happenings).bind (fun p =>
      p.1.getLast?.map Scene.after) = some (.besieged c failures (.batching .opening)
        ⟨5, none, .none⟩ 6 [.publisherStarted c.exchange c.batchSize]) := by
    cbv
  have hround : ((World.initial c 0 []).play? happenings).all (fun p =>
      p.1.getLast?.all fun last => decide (ComesRound p.1.dropLast last)) = true := by
    cbv
  obtain ⟨⟨scenes, w⟩, hplay, hlast⟩ := Option.bind_eq_some_iff.mp hlast
  obtain ⟨last, hmem, hbesieged⟩ := Option.map_eq_some_iff.mp hlast
  rw [hplay, Option.all_some, hmem, Option.all_some] at hround
  obtain ⟨before, rfl⟩ := List.getLast?_eq_some_iff.mp hmem
  rw [List.dropLast_concat] at hround
  have hthis := Play.of_play? hplay
  obtain ⟨-, -, hw⟩ := hthis.last
  rw [← hw, hbesieged] at hthis
  exact ⟨before, last, _, _, hthis, of_decide_eq_true hround⟩

/-- **With no backoff after failures a publisher's loop spins**: it makes any number of iterations
in which it hands nothing over, and no time passes. -/
theorem spins (zero : c.errorBackoff = 0) (n : Nat) : ∃ scenes w,
    Play (.initial c 0 []) scenes w ∧ w.now = 0 ∧ w.configOf 1 = some c ∧
      scenes.countP (·.opens 1) = n + 1 ∧ (∀ scene ∈ scenes, scene.handsOver 1 = false) ∧
      Unsignalled 1 scenes := by
  -- the rounds that have been made leave the store to fail the rest
  have hrounds : ∀ rounds failures, ∃ scenes wait fresh told,
      Play (.initial c 0 []) scenes (.besieged c failures (.batching .opening) wait fresh told) ∧
        scenes.countP (·.opens 1) = rounds + 1 ∧ (∀ scene ∈ scenes, scene.handsOver 1 = false) ∧
        Unsignalled 1 scenes := by
    intro rounds
    induction rounds with
    | zero =>
      intro failures
      obtain ⟨before, last, wait, told, hplay, hround⟩ := exists_besieged c failures
      exact ⟨_, wait, 6, told, hplay, hround.count, hround.2.2⟩
    | succ rounds ih =>
      intro failures
      obtain ⟨scenes, wait, fresh, told, hplay, hcount, hnone, hunsignalled⟩ := ih (failures + 1)
      obtain ⟨before, last, wait', told', hlater, hround⟩ := comesRound_of_besieged zero
      refine ⟨_, wait', fresh + 3, told', hplay.append hlater, ?_, ?_, ?_⟩
      · rw [List.countP_append, hcount, hround.count]
      · exact List.forall_mem_append.mpr ⟨hnone, hround.2.2.1⟩
      · exact List.forall_mem_append.mpr ⟨hunsignalled, hround.2.2.2⟩
  obtain ⟨scenes, wait, fresh, told, hplay, hcounts⟩ := hrounds n 0
  exact ⟨scenes, _, hplay, rfl, rfl, hcounts⟩

/-- A publisher's loop whose fetches fail makes two iterations at one instant. -/
theorem not_iterationsPaced (zero : c.errorBackoff = 0) : ¬ IterationsPaced c := by
  intro paced
  obtain ⟨earlier, first, wait, told, hplay, -, hopens, -⟩ := exists_besieged c 1
  obtain ⟨between, second, wait', told', hlater, hbetween, hnext, hnone, hunsignalled⟩ :=
    comesRound_of_besieged zero
  obtain ⟨hearlier, hstep, hfirst⟩ := hplay.last
  obtain ⟨-, hlast, hsecond⟩ := hlater.last
  have hwhole := hplay.append hlater
  rw [← List.append_cons] at hwhole
  have hconfig : first.after.configOf 1 = some c := by
    rw [hfirst]
    rfl
  obtain ⟨last, -, -, hlt⟩ := paced hwhole ⟨hconfig, hopens, hbetween, hnext, hunsignalled,
    .inl fun scene hscene => hnone scene (List.mem_append_left _ hscene)⟩
  -- all this is at the moment 0
  have hnow : second.before.now ≤ second.after.now := (onward_of_happen hlast).now
  rw [hsecond] at hnow
  exact Nat.not_lt_zero _ (Nat.lt_of_lt_of_le hlt hnow)

/-- A consumer's loop loses its connection, and cannot subscribe anew after it has paused. -/
def losesConnection (backoff : Nat) : List Happening :=
  [.begin (.subscribe "s" (some "q")), .turn 0, .begin (.setReachable false), .turn 1,
    .begin (.cut "x" (some "q")), .turn 2, .begin (.runConsumer "s" "t"), .turn 3, .turn 3, .turn 3,
    .wait backoff, .turn 3, .turn 3]

/-- A consumer's loop that lost its connection tries to subscribe twice at one instant. -/
theorem not_attemptsPaced (zero : c.errorBackoff = 0) : ¬ AttemptsPaced c := by
  intro paced
  obtain ⟨batchSize, idle, error, exchange, queue, attempts, delay, retries⟩ := c
  subst zero
  obtain ⟨earlier, first, between, second, w, hplay, hagain, hnow⟩ := exists_between
    (losesConnection 0) [.turn 3, .turn 3]
    (w := .initial ⟨batchSize, idle, 0, exchange, queue, attempts, delay, retries⟩ 0 [])
    (P := fun first between second =>
      FailsAgain ⟨batchSize, idle, 0, exchange, queue, attempts, delay, retries⟩ 3 first between
        second ∧ second.before.now ≤ first.after.now)
    (by cbv)
  exact Nat.not_lt.mpr hnow (paced hplay hagain)

/-- **Usable settings keep the loops from spinning exactly if the loops wait after failures.** That
they wait after an empty batch is what makes the settings usable. -/
theorem paced_iff (usable : c.check = .ok ()) :
    (IterationsPaced c ↔ 0 < c.errorBackoff) ∧ (AttemptsPaced c ↔ 0 < c.errorBackoff) := by
  have hidle : 0 < c.idleBackoff := (Config.check_eq_ok_iff.mp usable).2.1
  refine ⟨⟨fun paced => ?_, fun hpositive => ?_⟩, fun paced => ?_, fun hpositive => ?_⟩
  · exact Nat.pos_of_ne_zero fun zero => not_iterationsPaced zero paced
  · intro _ _ _ _ _ _ _ _ _ play vain
    obtain ⟨last, hlast, hcloses, hlong⟩ := play.iteration_closed vain
    refine ⟨last, hlast, hcloses, Nat.lt_of_lt_of_le ?_ hlong⟩
    exact Nat.lt_add_of_pos_right (Nat.lt_min.mpr ⟨hidle, hpositive⟩)
  · exact Nat.pos_of_ne_zero fun zero => not_attemptsPaced zero paced
  · intro _ _ _ _ _ _ _ _ _ play again
    exact Nat.lt_of_lt_of_le (Nat.lt_add_of_pos_right hpositive) (play.attempt_closed again)

theorem paced_iff_default :
    (∃ earlier first between second w,
      Play (.initial .default 0 []) (earlier ++ first :: (between ++ [second])) w ∧
      IteratesInVain .default 1 first between second ∧
      ∃ last ∈ between, last.closes 1 = true ∧ last.after.now < second.before.now) ∧
    ∃ earlier first between second w,
      Play (.initial .default 0 []) (earlier ++ first :: (between ++ [second])) w ∧
      FailsAgain .default 3 first between second ∧ first.after.now < second.before.now := by
  have hpaced := paced_iff (c := .default) (by decide +kernel)
  constructor
  · obtain ⟨earlier, first, between, second, w, hplay, hvain⟩ := exists_between
      [.begin (.failOperations 1), .turn 0, .begin (.runPublisher "p" "s"), .turn 1, .turn 1]
      [.turn 1, .turn 1, .wait 2000, .turn 1] (w := .initial .default 0 [])
      (P := IteratesInVain .default 1) (by decide +kernel)
    exact ⟨earlier, first, between, second, w, hplay, hvain,
      hpaced.1.mpr (by decide) hplay hvain⟩
  · obtain ⟨earlier, first, between, second, w, hplay, hagain⟩ := exists_between
      (losesConnection 2000) [.wait 2000, .turn 3, .turn 3] (w := .initial .default 0 [])
      (P := FailsAgain .default 3) (by decide +kernel)
    exact ⟨earlier, first, between, second, w, hplay, hagain, hpaced.2.mpr (by decide) hplay hagain⟩

/-- Settings with no backoff after failures are usable, and both loops spin with them. -/
theorem unpaced_without_backoff :
    ({ Config.default with errorBackoff := 0 } : Config).check = .ok () ∧
      ¬ IterationsPaced { Config.default with errorBackoff := 0 } ∧
      ¬ AttemptsPaced { Config.default with errorBackoff := 0 } :=
  ⟨by decide +kernel, not_iterationsPaced rfl, not_attemptsPaced rfl⟩

end Spinning

end Rehearsal

end Outbox
