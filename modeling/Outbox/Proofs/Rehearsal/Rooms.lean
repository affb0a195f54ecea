import Outbox.Proofs.Interplay.Doing
import Outbox.Proofs.Rehearsal.Heed
/-!
# `Proofs.Rehearsal.Rooms` — who has carried outcomes to itself

Several tasks may work for one publisher, but at most one of them at a time has its carried outcomes
to itself, since whoever is to enter waits until nobody is inside. So what is carried when a task has
entered stays as it is until the task itself changes it.
-/

namespace Outbox.Rehearsal

open Interplay

/-! ## Views -/

namespace TaskState

/-- The publisher whose carried outcomes a task has to itself. -/
def inside? : TaskState → Option PublisherId
  | .running (.batching publisher s) _ => if s.isInside then some publisher else none
  | .running (.publishing publisher s) _ => if s.isInside then some publisher else none
  | _ => none

theorem inside?_ofWork (work : Work) (wait : Wait) :
    (running (.ofWork work) wait).inside? = work.inside? := by
  cases work <;> rfl

variable {state : TaskState} {publisher : PublisherId}

/-- Who has carried outcomes to itself is at a call that has. -/
theorem work_of_inside (h : state.inside? = some publisher) :
    ∃ work wait, state = .running (.ofWork work) wait ∧ work.publisher? = some publisher ∧
      work.isInside = true := by
  unfold inside? at h
  split at h
  · next other s wait =>
    split at h <;> cases h
    exact ⟨.batching publisher s, wait, rfl, rfl, by assumption⟩
  · next other s wait =>
    split at h <;> cases h
    exact ⟨.publishing publisher s, wait, rfl, rfl, by assumption⟩
  · cases h

/-- Who has carried outcomes to itself is in the middle of a loop or a batch. -/
theorem begun_of_inside (h : state.inside? = some publisher) : state.hasBegun = true := by
  obtain ⟨work, wait, rfl, hworks, hinside⟩ := work_of_inside h
  cases work with
  | batching other s => cases s <;> first | rfl | cases hinside
  | publishing other s => cases s <;> first | rfl | cases hinside
  | recording | handling | consuming => cases hworks

end TaskState

namespace World

/-- Whether nobody but a task works for a publisher. -/
def worksAlone (w : World) (t : TaskId) (publisher : Nat) : Bool :=
  w.activities.all fun (other, activity, _) =>
    other == t || activity.room? != some (.carried publisher)

/-- The publisher whose carried outcomes a task has to itself. -/
def insideOf (w : World) (t : TaskId) : Option PublisherId :=
  w.stateOf t >>= TaskState.inside?

/-- At most one task has the carried outcomes of a publisher to itself. -/
def Exclusive (w : World) : Prop :=
  ∀ t u publisher, w.insideOf t = some publisher → w.insideOf u = some publisher → t = u

section Views

variable {w w' : World} {t u : TaskId} {task : Task} {state : TaskState} {activity : Activity}
  {work : Work} {wait : Wait} {publisher : PublisherId}

theorem insideOf_of_stateOf (was : w.stateOf t = some state) : w.insideOf t = state.inside? := by
  rw [insideOf, was, Option.bind_eq_bind, Option.bind_some]

theorem mem_activities (was : w.stateOf t = some (.running activity wait)) :
    (t, activity, wait) ∈ w.activities := by
  obtain ⟨task, hget, hstate⟩ := Option.map_eq_some_iff.mp was
  refine List.mem_filterMap.mpr ⟨_, Table.mem_entries_of_get? hget, ?_⟩
  simp only [hstate]

/-- Who works for a publisher is the one that does so alone. -/
theorem eq_of_worksAlone (alone : w.worksAlone t publisher = true)
    (was : w.stateOf u = some (.running activity wait))
    (works : activity.room? = some (.carried publisher)) : u = t := by
  have hother := List.all_eq_true.mp alone _ (mem_activities was)
  simp only [works, bne_self_eq_false, Bool.or_false, beq_iff_eq] at hother
  exact hother

/-- Who works for a publisher alone may enter. -/
theorem mayEnter_of_worksAlone (alone : w.worksAlone t publisher = true)
    (works : activity.room? = some (.carried publisher)) : w.mayEnter t activity wait = true := by
  refine List.all_eq_true.mpr fun ⟨other, theirs, theirWait⟩ hactive => ?_
  have hother := List.all_eq_true.mp alone _ hactive
  simp only [Bool.or_eq_true, beq_iff_eq, bne_iff_ne] at hother
  simp only [works, Bool.or_eq_true, beq_iff_eq, bne_iff_ne]
  exact .inl (hother.imp id Ne.symm)

/-- Who may enter finds nobody else inside. -/
theorem eq_of_mayEnter (may : w.mayEnter t (.ofWork work) wait = true)
    (works : work.publisher? = some publisher) (inside : w.insideOf u = some publisher) : u = t := by
  obtain ⟨state, hstate, hinside⟩ := Option.bind_eq_some_iff.mp inside
  obtain ⟨theirs, theirWait, rfl, htheirs, hin⟩ := TaskState.work_of_inside hinside
  have hlook := List.all_eq_true.mp may _ (mem_activities hstate)
  simp only [Activity.room?_ofWork works, Activity.room?_ofWork htheirs, Activity.isInside_ofWork,
    hin, bne_self_eq_false, Bool.or_false, Bool.true_or, Bool.not_true, beq_iff_eq] at hlook
  exact hlook

end Views

/-! ## One at a time -/

section Exclusive

variable {w w' : World} {t u : TaskId} {task : Task} {work : Work} {wait : Wait}
  {publisher : PublisherId} {happening : Happening}

/-- A call that has carried outcomes to itself after a turn had them before, or finds nobody else who
has. -/
theorem Resumed.inside {answer : (work.request task.config).Answer}
    (resumed : Resumed w t task work answer w') (get : w.tasks.get? t = some task)
    (was : task.state = .running (.ofWork work) wait) (inside : w'.insideOf t = some publisher) :
    w.insideOf t = some publisher ∨ ∀ u, w.insideOf u = some publisher → u = t := by
  obtain ⟨state, task', -, hensues, hget⟩ := resumed.next
  rw [insideOf_of_stateOf (stateOf_of_get hget)] at inside
  cases hensues with
  | ends => cases inside
  | @waits next wait' hnext =>
    simp only [TaskState.inside?_ofWork, Work.inside?] at inside
    split at inside
    · next hin =>
      have hworks := (publisher?_of_turn _ _ answer hnext).symm.trans inside
      cases hbefore : work.isInside with
      | true =>
        left
        rw [insideOf_of_stateOf (stateOf_of_get get), was, TaskState.inside?_ofWork, Work.inside?,
          if_pos hbefore, hworks]
      | false =>
        right
        by_cases henter : work.request task.config = .enter
        · obtain ⟨_, hmay⟩ := resumed.enters henter
          exact fun u hu => eq_of_mayEnter hmay hworks hu
        · -- without asking for them it cannot have got them
          have hout := (enters_of_work (w.stops task) (w.carriedFor work) answer hbefore henter).2
          rw [outcome] at hnext
          rw [hnext] at hout
          exact absurd (hin.symm.trans hout) (by decide)
    · cases inside

/-- Who has carried outcomes to itself after a scene had them before, or has gone on and finds nobody
else who has. -/
theorem inside_of_happen (numbered : ∀ t, w.fresh ≤ t → w.stateOf t = none)
    (step : w.happen? happening = some w') (inside : w'.insideOf t = some publisher) :
    w.insideOf t = some publisher ∨
      happening.mover? = some t ∧ ∀ u, w.insideOf u = some publisher → u = t := by
  obtain ⟨state, hnow, hinside⟩ := Option.bind_eq_some_iff.mp inside
  have hbegun := TaskState.begun_of_inside hinside
  have hpassage := (passage_of_happen numbered step).1
  by_cases ht : w.fresh ≤ t
  · cases (TaskState.not_begun_of_isNew (hpassage.arrivals t state ht hnow).2).symm.trans hbegun
  by_cases hmover : happening.mover? = some t
  · rcases resumed_of_happen step hmover hnow with hidle | ⟨task, work, wait, answer, get, was, h⟩
    · cases hidle.symm.trans hbegun
    · exact (h.inside get was inside).imp_right fun htake => ⟨hmover, htake⟩
  · have hwas := (hpassage.others t (Nat.lt_of_not_le ht) hmover).symm.trans hnow
    exact .inl ((insideOf_of_stateOf hwas).trans hinside)

/-- **In every scene at most one task has the carried outcomes of a publisher to itself.** -/
theorem Exclusive.happen (exclusive : w.Exclusive)
    (numbered : ∀ t, w.fresh ≤ t → w.stateOf t = none) (step : w.happen? happening = some w') :
    w'.Exclusive := by
  intro t u publisher ht hu
  rcases inside_of_happen numbered step ht with ht | ⟨hmover, htake⟩
  · rcases inside_of_happen numbered step hu with hu | ⟨-, hutake⟩
    · exact exclusive t u publisher ht hu
    · exact hutake t ht
  · rcases inside_of_happen numbered step hu with hu | ⟨humover, -⟩
    · exact (htake u hu).symm
    · exact Option.some.inj (hmover.symm.trans humover)

/-- Only a turn of who works for a publisher changes what it carries. -/
theorem carried_of_happen (step : w.happen? happening = some w') (publisher : PublisherId) :
    w'.carried.getD publisher [] = w.carried.getD publisher [] ∨
      ∃ u task work wait answer, happening = .turn u ∧ w.tasks.get? u = some task ∧
        task.state = .running (.ofWork work) wait ∧ work.publisher? = some publisher ∧
        Resumed w u task work answer w' := by
  cases happening with
  | turn u =>
    obtain ⟨c, watch, activity, wait, hget⟩ := running_of_turn step
    have hcall {work : Work} (hactivity : activity = .ofWork work) :
        w'.carried.getD publisher [] = w.carried.getD publisher [] ∨
          ∃ u' task work wait answer, Happening.turn u = .turn u' ∧ w.tasks.get? u' = some task ∧
            task.state = .running (.ofWork work) wait ∧ work.publisher? = some publisher ∧
            Resumed w u' task work answer w' := by
      subst hactivity
      rcases resumed_of_turn hget step with ⟨-, rfl⟩ | ⟨answer, hresumed⟩
      · exact .inl (by rw [(w.plain_finish u .crashed).carried])
      · by_cases hworks : work.publisher? = some publisher
        · exact .inr ⟨u, _, work, wait, answer, rfl, hget, rfl, hworks, hresumed⟩
        · exact .inl ((hresumed.carried publisher).trans (if_neg hworks))
    cases activity with
    | batching other s => exact hcall (rfl : _ = Activity.ofWork (.batching other s))
    | publishing other s => exact hcall (rfl : _ = Activity.ofWork (.publishing other s))
    | consuming s => exact hcall (rfl : _ = Activity.ofWork (.consuming s))
    | _ => exact .inl (by rw [(plain_of_turn hget rfl step).carried])
  | hear u =>
    obtain ⟨c', watch, stream, wait, answer, hget, hresumed⟩ := resumed_of_hear step
    exact .inl ((hresumed.carried publisher).trans (if_neg (Option.some_ne_none publisher).symm))
  | forget u =>
    simp only [World.happen?] at step
    split at step <;> cases step
    exact .inl rfl
  | begin | wait | note | takeTold =>
    cases step
    exact .inl rfl

/-- Where a task works for a publisher alone, what others do leaves the carried outcomes alone. -/
theorem carried_of_others (alone : w.worksAlone t publisher = true)
    (step : w.happen? happening = some w') (other : happening ≠ .turn t) :
    w'.carried.getD publisher [] = w.carried.getD publisher [] := by
  rcases carried_of_happen step publisher with
    hsame | ⟨u, task, work, wait, answer, rfl, hget, hwas, hworks, -⟩
  · exact hsame
  · have hstate := (stateOf_of_get hget).trans (congrArg some hwas)
    cases eq_of_worksAlone alone hstate (Activity.room?_ofWork hworks)
    exact absurd rfl other

/-- **Nobody changes the carried outcomes that another task has to itself.** -/
theorem carried_of_inside (exclusive : w.Exclusive) (inside : w.insideOf t = some publisher)
    (step : w.happen? happening = some w') (other : happening ≠ .turn t) :
    w'.carried.getD publisher [] = w.carried.getD publisher [] := by
  rcases carried_of_happen step publisher with
    hsame | ⟨u, task, work, wait, answer, rfl, hget, hwas, hworks, hresumed⟩
  · exact hsame
  have hne : t ≠ u := by
    rintro rfl
    exact other rfl
  have hout : work.isInside = false := by
    refine Bool.eq_false_iff.mpr fun hin => hne (exclusive t u publisher inside ?_)
    rw [insideOf_of_stateOf (stateOf_of_get hget), hwas, TaskState.inside?_ofWork, Work.inside?,
      if_pos hin, hworks]
  -- while the other is inside nobody else gets in
  have henter : work.request task.config ≠ .enter := fun henter => by
    obtain ⟨_, hmay⟩ := hresumed.enters henter
    exact hne (eq_of_mayEnter hmay hworks inside)
  have hcarried := (enters_of_work (w.stops task) (w.carriedFor work) answer hout henter).1
  rw [hresumed.carried, if_pos hworks, outcome, hcarried, carriedFor, hworks]

end Exclusive

end World

/-- In a play at most one task has the carried outcomes of a publisher to itself. -/
theorem Play.exclusive {c : Config} {clockStart : Int} {ids : List MessageId} {scenes : List Scene}
    {w : World} (play : Play (.initial c clockStart ids) scenes w) : w.Exclusive := by
  induction play with
  | nil => exact fun t u publisher ht => by cases ht
  | snoc play step ih => exact ih.happen play.apart.1 step

end Outbox.Rehearsal
