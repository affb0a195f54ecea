import Outbox.Proofs.Rehearsal.Told
/-!
# `Proofs.Rehearsal.Pausing` — how long a loop pauses

Whatever others do meanwhile, a loop that pauses stays where it is until it goes on itself, and it
goes on when its signal wakes it or when its time has come. So a loop that its signal does not wake
pauses for as long as it came to pause, or until the end of the play. Nothing here depends on what
the loop was told by its signal before.
-/

namespace Outbox.Rehearsal

open Interplay

namespace World

/-- Whether the signal of a task wakes it. -/
def isWoken (w : World) (t : TaskId) : Bool :=
  (w.tasks.get? t).any w.wakes

/-- A loop with the settings `c` has paused since a moment, and is to pause for so long. -/
def Rests (w : World) (t : TaskId) (c : Config) (since milliseconds : Nat) : Prop :=
  ∃ watch work wait, w.tasks.get? t = some ⟨c, watch, .running (.ofWork work) wait⟩ ∧
    work.request c = .pause milliseconds ∧ wait.due = some (since + milliseconds)

end World

/-- In some scenes a task is not woken by its signal when it goes on. -/
def Unsignalled (t : TaskId) (scenes : List Scene) : Prop :=
  ∀ scene ∈ scenes, scene.goer? = some t → scene.before.isWoken t = false

instance (t : TaskId) : DecidablePred (Unsignalled t) := fun scenes =>
  inferInstanceAs (Decidable
    (∀ scene ∈ scenes, scene.goer? = some t → scene.before.isWoken t = false))

namespace World

section Scenes

variable {w w' : World} {happening : Happening} {t : TaskId} {c : Config} {watch : Option Watch}
  {activity : Activity} {work : Work} {wait : Wait} {since milliseconds : Nat}

/-! ## One scene -/

/-- Who takes a turn, and does not hear from a subscription, is answered. -/
theorem answer_of_goer (step : w.happen? happening = some w')
    (get : w.tasks.get? t = some ⟨c, watch, .running (.ofWork work) wait⟩)
    (goer : Scene.goer? ⟨w, happening, w'⟩ = some t)
    (deaf : ∀ stream, work ≠ .consuming (.listening stream)) :
    (w.answer? t ⟨c, watch, .running (.ofWork work) wait⟩ (.ofWork work) wait
      (work.request c)).isSome = true := by
  cases happening with
  | turn id =>
    cases goer
    have hturn : w.turn? t = some w' := step
    rw [turn?_of_call get] at hturn
    obtain ⟨given, hanswer, -⟩ := Option.map_eq_some_iff.mp hturn
    exact Option.isSome_of_eq_some hanswer
  | hear id =>
    cases goer
    obtain ⟨_, _, stream, _, _, hget, -⟩ := resumed_of_hear step
    have hstate := congrArg Task.state (Option.some.inj (get.symm.trans hget))
    have hsame := (TaskState.running.inj hstate).1
    cases work with
    | consuming s =>
      cases hsame
      exact absurd rfl (deaf stream)
    | recording | handling | batching | publishing => cases hsame
  | begin | wait | forget | note | takeTold => cases goer

/-- **A task at a call that takes its turn crashes or goes on by an answer.** -/
theorem crashed_or_resumed (step : w.happen? happening = some w')
    (get : w.tasks.get? t = some ⟨c, watch, .running (.ofWork work) wait⟩)
    (goer : Scene.goer? ⟨w, happening, w'⟩ = some t) :
    w'.isLive t = false ∨
      ∃ answer, Resumed w t ⟨c, watch, .running (.ofWork work) wait⟩ work answer w' := by
  cases happening with
  | turn id =>
    cases goer
    rcases resumed_of_turn get step with ⟨-, rfl⟩ | hresumed
    · left
      rw [finish, setState_of_get _ get, isLive, stateOf, Table.get?_put, if_pos rfl]
      rfl
    · exact .inr hresumed
  | hear id =>
    cases goer
    obtain ⟨_, _, stream, _, answer, hget, hresumed⟩ := resumed_of_hear step
    cases work with
    | consuming s =>
      cases get.symm.trans hget
      exact .inr ⟨answer, hresumed⟩
    | recording | handling | batching | publishing => cases get.symm.trans hget
  | begin | wait | forget | note | takeTold => cases goer

/-- A task that goes on with something is left alone by others. -/
theorem get_of_others (step : w.happen? happening = some w') (there : t < w.fresh)
    (get : w.tasks.get? t = some ⟨c, watch, .running activity wait⟩)
    (goer : Scene.goer? ⟨w, happening, w'⟩ ≠ some t) :
    w'.tasks.get? t = some ⟨c, watch, .running activity wait⟩ := by
  refine ((onward_of_happen step).others t there fun hmover => ?_).trans get
  cases happening with
  | turn | hear => exact goer hmover
  | forget id =>
    cases hmover
    simp only [happen?] at step
    split at step
    · next hended =>
      cases (not_live_of_ended hended).symm.trans (isLive_of_running (stateOf_of_get get))
    · cases step
  | begin | wait | note | takeTold => cases hmover

/-- Only who goes on with something takes a turn. -/
theorem live_of_goer (step : w.happen? happening = some w')
    (goer : Scene.goer? ⟨w, happening, w'⟩ = some t) : w.isLive t = true := by
  cases happening with
  | turn id =>
    cases goer
    obtain ⟨_, _, _, _, hget⟩ := running_of_turn step
    exact isLive_of_running (stateOf_of_get hget)
  | hear id =>
    cases goer
    obtain ⟨_, _, _, _, _, hget, -⟩ := resumed_of_hear step
    exact isLive_of_running (stateOf_of_get hget)
  | begin | wait | forget | note | takeTold => cases goer

/-- Who has come to its end does not come back. -/
theorem dead_of_happen (step : w.happen? happening = some w') (there : t < w.fresh)
    (dead : w.isLive t = false) : w'.isLive t = false := by
  by_cases hmover : happening.mover? = some t
  · cases happening with
    | turn | hear => cases (live_of_goer step hmover).symm.trans dead
    | forget id =>
      cases hmover
      simp only [happen?] at step
      split at step <;> cases step
      rw [isLive, stateOf_forget]
    | begin | wait | note | takeTold => cases hmover
  · have hsame := (onward_of_happen step).others t there hmover
    refine (isLive_congr ?_).trans dead
    rw [stateOf, stateOf, hsame]

/-! ## Pauses -/

/-- Who pauses and is not woken is answered when its time has come. -/
theorem due_of_pause {task : Task} {r : Request} (pauses : r = .pause milliseconds)
    (unwoken : w.wakes task = false)
    (h : (w.answer? t task activity wait r).isSome = true) : w.isDue wait = true := by
  subst pauses
  unfold wakes at unwoken
  simp only [World.answer?] at h
  cases hwatch : task.watch with
  | none =>
    rw [hwatch] at h
    simp only at h
    split at h
    · assumption
    · cases h
  | some watch =>
    rw [hwatch, Option.any_some] at unwoken
    rw [hwatch] at h
    simp only [unwoken, Bool.false_or] at h
    split at h
    · assumption
    · cases h

/-- Where a task is that went on with a call; if it is to pause it does so from then on. -/
theorem Resumed.get {state : TaskState} {next : Work} {answer : (work.request c).Answer}
    (resumed : Resumed w t ⟨c, watch, state⟩ work answer w')
    (waits : (w.outcome ⟨c, watch, state⟩ work answer).2.progress = .waiting next) :
    ∃ watch' wait', w'.tasks.get? t = some ⟨c, watch', .running (.ofWork next) wait'⟩ ∧
      ∀ milliseconds, next.request c = .pause milliseconds →
        wait'.due = some (w'.now + milliseconds) := by
  obtain ⟨state', task', hseen, hensues, hget⟩ := resumed.next
  have hconfig : task'.config = c := by
    rcases hseen with rfl | ⟨-, rfl⟩ <;> rfl
  rw [waits] at hensues
  cases hensues with
  | @waits _ wait' hnext _ hpauses =>
    cases hnext
    refine ⟨task'.watch, wait', ?_, hpauses⟩
    rw [hget, hconfig]
  | ends last => cases last

/-- A loop that comes to pause rests from then on. -/
theorem Resumed.rests {state : TaskState} {next : Work} {answer : (work.request c).Answer}
    (resumed : Resumed w t ⟨c, watch, state⟩ work answer w')
    (waits : (w.outcome ⟨c, watch, state⟩ work answer).2.progress = .waiting next)
    (pauses : next.request c = .pause milliseconds) : w'.Rests t c w'.now milliseconds := by
  obtain ⟨watch', wait', hget, hdue⟩ := resumed.get waits
  exact ⟨watch', next, wait', hget, pauses, hdue milliseconds pauses⟩

/-- **A loop that rests and is not woken goes on when its time has come.** -/
theorem Rests.due (rests : w.Rests t c since milliseconds) (step : w.happen? happening = some w')
    (goer : Scene.goer? ⟨w, happening, w'⟩ = some t) (unwoken : w.isWoken t = false) :
    since + milliseconds ≤ w.now := by
  obtain ⟨watch, work, wait, hget, hpauses, hdue⟩ := rests
  rw [isWoken, hget, Option.any_some] at unwoken
  have hanswer := answer_of_goer step hget goer fun stream h => by
    subst h
    cases hpauses
  have hover := due_of_pause hpauses unwoken hanswer
  rw [isDue, hdue, Option.all_some] at hover
  exact of_decide_eq_true hover

/-- A loop that rests does so until its time has come. -/
theorem Rests.happen (rests : w.Rests t c since milliseconds) (there : t < w.fresh)
    (step : w.happen? happening = some w')
    (unwoken : Scene.goer? ⟨w, happening, w'⟩ = some t → w.isWoken t = false) :
    w'.Rests t c since milliseconds ∨ since + milliseconds ≤ w'.now := by
  by_cases hgoer : Scene.goer? ⟨w, happening, w'⟩ = some t
  · exact .inr (Nat.le_trans (rests.due step hgoer (unwoken hgoer)) (onward_of_happen step).now)
  · obtain ⟨watch, work, wait, hget, hpauses, hdue⟩ := rests
    exact .inl ⟨watch, work, wait, get_of_others step there hget hgoer, hpauses, hdue⟩

end Scenes

end World

/-! ## Plays -/

section Plays

variable {w₁ w : World} {scenes : List Scene} {t : TaskId} {c : Config}
  {since milliseconds : Nat}

/-- Time does not run back. -/
theorem Play.now (play : Play w₁ scenes w) : w₁.now ≤ w.now := by
  induction play with
  | nil => exact Nat.le_refl _
  | snoc _ step ih => exact Nat.le_trans ih (World.onward_of_happen step).now

/-- Who has come to its end has done so for good. -/
theorem Play.dead (play : Play w₁ scenes w) (there : t < w₁.fresh) (dead : w₁.isLive t = false) :
    w.isLive t = false := by
  induction play with
  | nil => exact dead
  | snoc play step ih =>
    exact World.dead_of_happen step (Nat.lt_of_lt_of_le there play.fresh) ih

/-- **A loop that rests and is not woken is at rest until its time has come**, in whatever order the
others go on. -/
theorem Play.rests (play : Play w₁ scenes w) (there : t < w₁.fresh)
    (rests : w₁.Rests t c since milliseconds) (unsignalled : Unsignalled t scenes) :
    w.Rests t c since milliseconds ∨ since + milliseconds ≤ w.now := by
  induction play with
  | nil => exact .inl rests
  | @snoc scenes w w' happening play step ih =>
    have hlast := unsignalled _ (List.mem_append_right _ (List.mem_singleton_self _))
    rcases ih fun scene hscene => unsignalled scene (List.mem_append_left _ hscene) with
      hrests | hover
    · exact hrests.happen (Nat.lt_of_lt_of_le there play.fresh) step hlast
    · exact .inr (Nat.le_trans hover (World.onward_of_happen step).now)

end Plays

end Outbox.Rehearsal
