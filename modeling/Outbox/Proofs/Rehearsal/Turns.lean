import Outbox.Proofs.Rehearsal.Command
/-!
# `Proofs.Rehearsal.Turns` — every turn does to the pipeline what `Deed` says

Most tasks leave the pipeline alone, whatever they are answered. A build, a start or a stop goes on
by the answer to its request, and what it makes of the answer is given by the process alone; what
remains is to follow the roster on its way back to the pipeline.
-/

namespace Outbox.Rehearsal.World

/-! ## Tasks that leave the pipeline alone -/

/-- A task takes a turn. -/
def Turns (w : World) (id : TaskId) (w' : World) : Prop :=
  ∃ old new, w.Turned id old new w'

section Turns

variable {w w' w₁ : World} {id : TaskId} {activity : Activity} {wait : Wait} {new : TaskState}

theorem lt_fresh_of_stateOf {state : TaskState} (numbered : ∀ t, w.fresh ≤ t → w.stateOf t = none)
    (was : w.stateOf id = some state) : id < w.fresh := by
  by_contra hle
  rw [numbered id (Nat.le_of_not_lt hle)] at was
  cases was

/-- Something was done, and then the task went on. -/
theorem turned_of_goes (numbered : ∀ t, w.fresh ≤ t → w.stateOf t = none)
    (was : w.stateOf id = some (.running activity wait)) (passage : Passage none w w₁)
    (goes : Goes id (.running activity wait) new w₁ w')
    (deed : Deed w id w' (.running activity wait) new)
    (undisturbed : (TaskState.running activity wait).writes = false → Undisturbed w w') :
    Turns w id w' :=
  ⟨_, new, was, (goes.states id).trans (if_pos rfl), isLive_of_running was,
    passage.goes goes (lt_fresh_of_stateOf numbered was), deed, undisturbed⟩

theorem turns_aside (numbered : ∀ t, w.fresh ≤ t → w.stateOf t = none)
    (was : w.stateOf id = some (.running activity wait))
    (steady : Steady (TaskState.running activity wait).writes w w₁)
    (goes : Goes id (.running activity wait) new w₁ w') (standing : w'.standing = w₁.standing)
    (beside : w.Beside (.running activity wait) new) : Turns w id w' := by
  have hsame : w'.pipeline = w.pipeline :=
    (congrArg Standing.pipeline standing).trans steady.pipeline
  refine turned_of_goes numbered was (passage_of_states numbered steady.states steady.fresh) goes
    (.aside beside hsame) fun quiet => ?_
  exact (steady.undisturbed quiet).trans (undisturbed_of_standing standing)

theorem turns_finish (numbered : ∀ t, w.fresh ≤ t → w.stateOf t = none)
    (was : w.stateOf id = some (.running activity wait))
    (plain : (TaskState.running activity wait).isCommand = false)
    (steady : Steady (TaskState.running activity wait).writes w w₁) (reply : Reply) :
    Turns w id (w₁.finish id reply) :=
  turns_aside numbered was steady (goes_finish ((steady.states id).trans was) reply)
    (w₁.standing_finish id reply) (.of_loop plain rfl rfl rfl)

theorem turns_await (numbered : ∀ t, w.fresh ≤ t → w.stateOf t = none)
    (was : w.stateOf id = some (.running activity wait))
    (steady : Steady (TaskState.running activity wait).writes w w₁) {next : Activity}
    (waits : ∀ c, (next.request? c).isSome = true)
    (beside : ∀ wait', w.Beside (.running activity wait) (.running next wait')) :
    Turns w id (w₁.await id next) := by
  obtain ⟨wait', hgoes⟩ := goes_await ((steady.states id).trans was) waits
  exact turns_aside numbered was steady hgoes (w₁.standing_await id next) (beside wait')

theorem turns_awaitUntil (numbered : ∀ t, w.fresh ≤ t → w.stateOf t = none)
    (was : w.stateOf id = some (.running activity wait))
    (steady : Steady (TaskState.running activity wait).writes w w₁) {next : Activity}
    (milliseconds : Nat)
    (beside : ∀ wait', w.Beside (.running activity wait) (.running next wait')) :
    Turns w id (w₁.awaitUntil id next milliseconds) := by
  obtain ⟨wait', hgoes⟩ := goes_awaitUntil ((steady.states id).trans was) next milliseconds
  exact turns_aside numbered was steady hgoes (w₁.standing_awaitUntil id next milliseconds)
    (beside wait')

theorem turns_settle {σ α : Type} (numbered : ∀ t, w.fresh ≤ t → w.stateOf t = none)
    (was : w.stateOf id = some (.running activity wait))
    (plain : (TaskState.running activity wait).isCommand = false)
    (steady : Steady (TaskState.running activity wait).writes w w₁) {wrap : σ → Activity}
    (waits : ∀ s c, ((wrap s).request? c).isSome = true) (reply : α → Reply) (turn : Turn σ α)
    (beside : ∀ s wait', w.Beside (.running activity wait) (.running (wrap s) wait')) :
    Turns w id (w₁.settle id wrap reply turn) := by
  have hstanding := w₁.standing_settle id wrap reply turn
  rcases goes_settle ((steady.states id).trans was) waits reply turn with
    ⟨s, wait', -, hgoes⟩ | ⟨outcome, -, hgoes⟩
  · exact turns_aside numbered was steady hgoes hstanding (beside s wait')
  · exact turns_aside numbered was steady hgoes hstanding (.of_loop plain rfl rfl rfl)

/-- A task begins with its action. -/
theorem turns_begin {action : Action} (numbered : ∀ t, w.fresh ≤ t → w.stateOf t = none)
    (was : w.stateOf id = some (.running (.acting action) wait)) :
    Turns w id (w.begin id action) := by
  -- only the adding of a task needs a word of its own
  have hatOnce (spawns : ∀ name other, action ≠ .spawn name other) :
      Turns w id (w.doAtOnce id action) := by
    unfold doAtOnce
    split
    · next reply w₁ hact =>
      exact turns_finish numbered was rfl (steady_of_actAtOnce spawns hact) reply
    · exact turns_finish numbered was rfl (steady_refl _ w) .refused
  have hpipeline {next : Activity} (waits : ∀ c, (next.request? c).isSome = true)
      (outside : ∀ wait', (TaskState.running next wait').isInside = false) :
      Turns w id (w.withPipeline id next) := by
    unfold withPipeline
    split
    · exact turns_finish numbered was rfl (steady_refl _ w) .refused
    · next pipeline hpipeline =>
      obtain ⟨task, htask, -⟩ := Option.map_eq_some_iff.mp was
      have halike : w.Alike
          { w with tasks := w.tasks.put id { task with config := pipeline.config } } :=
        alike_put htask rfl
      have hbuilt : w.pipeline.isSome = true := Option.isSome_iff_exists.mpr ⟨_, hpipeline⟩
      simp only [htask]
      exact turns_await numbered was (halike.steady_of_standing rfl) waits fun wait' =>
        ⟨rfl, outside wait', (fun h => by cases h), fun _ => hbuilt⟩
  cases action with
  | spawn name other =>
    have hadds := w.adds_addTask w.config none (.acting other)
    have hwas : (w.addTask w.config none (.acting other)).2.stateOf id =
        some (.running (.acting (.spawn name other)) wait) := by
      rw [stateOf_addTask, if_neg (Nat.ne_of_gt (lt_fresh_of_stateOf numbered was))]
      exact was
    have hnamed : (w.addTask w.config none (.acting other)).2.Alike
        { (w.addTask w.config none (.acting other)).2 with
          taskNames := w.taskNames.put name w.fresh } :=
      alike_of_eq rfl rfl rfl (Nat.le_refl _)
    have hgoes := hnamed.goes (goes_finish ((hnamed.states id).trans hwas) .done)
    have hstanding : (w.begin id (.spawn name other)).standing = w.standing :=
      standing_finish ..
    have hbeside : w.Beside (.running (.acting (.spawn name other)) wait) (.ended .done w.now) :=
      .of_loop rfl rfl rfl rfl
    exact turned_of_goes numbered was (hadds.passage numbered rfl) hgoes
      (.aside hbeside (congrArg Standing.pipeline hstanding))
      fun _ => undisturbed_of_standing hstanding
  | pop exchange timeout =>
    exact turns_await numbered was (steady_refl _ w) (fun _ => rfl)
      fun _ => .of_plain rfl rfl rfl rfl
  | record outcome =>
    exact turns_await numbered was (steady_refl _ w) (fun _ => rfl)
      fun _ => .of_plain rfl rfl rfl rfl
  | handle r =>
    exact turns_await numbered was (steady_refl _ w) (fun _ => rfl)
      fun _ => .of_plain rfl rfl rfl rfl
  | build omitted =>
    exact turns_await numbered was (steady_refl _ w) (fun _ => rfl)
      fun _ => .of_plain rfl rfl rfl rfl
  | serveForever exchange queue =>
    exact turns_await numbered was (steady_refl _ w) (fun _ => rfl)
      fun _ => .of_plain rfl rfl rfl rfl
  | batch publisher signal =>
    exact turns_await numbered was
      ((w.steady_publisherOf publisher).trans (steady_watchFor _ id signal)) (fun _ => rfl)
      fun _ => .of_plain rfl rfl rfl rfl
  | runPublisher publisher signal =>
    exact turns_await numbered was
      ((w.steady_publisherOf publisher).trans (steady_watchFor _ id signal)) (fun _ => rfl)
      fun _ => .of_plain rfl rfl rfl rfl
  | runConsumer name signal =>
    simp only [begin]
    split
    · exact turns_finish numbered was rfl (steady_refl _ w) .refused
    · next stream hstream =>
      have herased : Steady (TaskState.running (.acting (.runConsumer name signal)) wait).writes w
          { w with streamNames := w.streamNames.erase name } := steady_aside rfl rfl rfl
      exact turns_await numbered was (herased.trans (steady_watchFor _ id signal)) (fun _ => rfl)
        fun _ => .of_plain rfl rfl rfl rfl
  | next name timeout =>
    simp only [begin]
    split
    · exact turns_finish numbered was rfl (steady_refl _ w) .refused
    · next stream hstream =>
      have hbeside (wait' : Wait) : w.Beside (.running (.acting (.next name timeout)) wait)
          (.running (.awaiting name stream) wait') := .of_plain rfl rfl rfl rfl
      have herased : Steady (TaskState.running (.acting (.next name timeout)) wait).writes w
          { w with streamNames := w.streamNames.erase name } := steady_aside rfl rfl rfl
      exact turns_awaitUntil numbered was herased timeout hbeside
  | start => exact hpipeline (fun _ => rfl) fun _ => rfl
  | stop choice => exact hpipeline (fun _ => rfl) fun _ => rfl
  | shutDown => exact hpipeline (fun _ => rfl) fun _ => rfl
  | advance milliseconds =>
    exact turns_awaitUntil numbered was (steady_refl _ w) milliseconds
      fun _ => .of_plain rfl rfl rfl rfl
  | join name =>
    simp only [begin]
    split
    · exact turns_finish numbered was rfl (steady_refl _ w) .refused
    · exact turns_awaitUntil numbered was (steady_refl _ w) joinLimit
        fun _ => .of_plain rfl rfl rfl rfl
  | insert | insertMany | fetch | update | release | get | tally | failOperations | failUpdates
  | append | entriesOf | allEntries | historyIsEmpty | setReachable | reject | failPublications
  | ready | publish | deliver | serve | close | cut | subscribers | subscribe | unsubscribe
  | setSignal | dropSignal | setClock | script | isFinished | impossible =>
    exact hatOnce fun _ _ h => Action.noConfusion h

/-- A task gets the answer to a request and goes on with it, or is made to crash. -/
theorem turns_answered {r : Request} {resume : World → r.Answer → World} {task : Task}
    (numbered : ∀ t, w.fresh ≤ t → w.stateOf t = none)
    (was : w.stateOf id = some (.running activity wait))
    (plain : (TaskState.running activity wait).isCommand = false)
    (launches : ∀ publisher consumer, r ≠ .launch publisher consumer)
    (writes : (TaskState.running activity wait).writes = false → r.writes = false)
    (hturn : answered id (w.answer? id task activity wait r) resume = some w')
    (resumed : ∀ w₁ answer, Steady (TaskState.running activity wait).writes w w₁ →
      Turns w id (resume w₁ answer)) : Turns w id w' := by
  have hsteady {w₁ : World} (h : Steady r.writes w w₁) :
      Steady (TaskState.running activity wait).writes w w₁ :=
    { h with undisturbed := fun quiet => h.undisturbed (writes quiet) }
  rcases answered_cases hturn with ⟨w₁, hanswer, rfl⟩ | ⟨w₁, answer, hanswer, rfl⟩
  · exact turns_finish numbered was plain (hsteady (steady_of_answer launches hanswer)) .crashed
  · exact resumed w₁ answer (hsteady (steady_of_answer launches hanswer))

/-! ## Building a pipeline -/

/-- Either a part is missing, or a new pipeline is in place without loops. -/
theorem build_cases (w : World) (omitted : List Part) :
    (∃ failure, w.build omitted = (.assemblyFailure failure, w)) ∨
      ∃ k, (w.build omitted).2.number = some k ∧ (w.build omitted).2.roster = .empty ∧
        w.fresh ≤ k ∧ k < (w.build omitted).2.fresh ∧ Undisturbed w (w.build omitted).2 := by
  refine (w.build_eq omitted).imp_right ?_
  rintro ⟨config, loops, hbuild⟩
  rw [hbuild]
  have hcleared := List.foldlRecOn
    (motive := fun w' : World => w'.fresh = w.fresh ∧ Undisturbed w w') loops
    (fun w loop => w.changeSignal loop.signal Signal.giveUp) ⟨rfl, .refl w⟩
    fun w' h loop _ => ⟨h.1, h.2.trans (.of_eq rfl rfl)⟩
  exact ⟨_, rfl, rfl, Nat.le_of_eq hcleared.1.symm, Nat.lt_succ_self _,
    hcleared.2.trans (.of_eq rfl rfl)⟩

theorem turns_building {omitted : List Part} {task : Task}
    (numbered : ∀ t, w.fresh ≤ t → w.stateOf t = none)
    (was : w.stateOf id = some (.running (.building omitted) wait))
    (hturn : answered id (w.answer? id task (.building omitted) wait .enter)
      (fun w _ => (w.build omitted).2.finish id (w.build omitted).1) = some w') :
    Turns w id w' := by
  rcases answered_cases hturn with ⟨w₁, hanswer, -⟩ | ⟨w₁, answer, hanswer, rfl⟩
  · cases (answer_enter rfl hanswer).2.1
  · obtain ⟨rfl, -, halone⟩ := answer_enter rfl hanswer
    have halike := w₁.alike_build omitted
    have hstanding := (w₁.build omitted).2.standing_finish id (w₁.build omitted).1
    rcases w₁.build_cases omitted with
      ⟨failure, hbuild⟩ | ⟨k, hnumber, hroster, habove, hbelow, hquiet⟩
    · rw [hbuild]
      exact turns_finish numbered was rfl (steady_refl _ w₁) _
    · have hgoes := goes_finish ((halike.states id).trans was) (w₁.build omitted).1
      have hpipeline := congrArg Standing.pipeline hstanding
      refine turned_of_goes numbered was (passage_of_states numbered halike.states halike.fresh)
        hgoes (.builds halone ?_ ?_ habove ?_) fun _ => ?_
      · exact (number_of_pipeline hpipeline).trans hnumber
      · exact (roster_of_pipeline hpipeline).trans hroster
      · exact Nat.lt_of_lt_of_le hbelow hgoes.fresh
      · exact hquiet.trans (undisturbed_of_standing hstanding)

/-! ## Starting a pipeline -/

/-- A process goes on after the roster was put back. -/
theorem settled_setRoster {σ α : Type} {old : TaskState} (was : w.stateOf id = some old)
    (roster : Roster) {wrap : σ → Activity} (waits : ∀ s c, ((wrap s).request? c).isSome = true)
    (reply : α → Reply) (turn : Turn σ α) :
    (∃ s wait', turn.progress = .waiting s ∧
        Goes id old (.running (wrap s) wait') w ((w.setRoster roster).settle id wrap reply turn)) ∨
      ∃ outcome, turn.progress = .finished outcome ∧
        Goes id old (.ended (reply outcome) w.now) w
          ((w.setRoster roster).settle id wrap reply turn) := by
  have halike := w.alike_setRoster roster
  rcases goes_settle ((halike.states id).trans was) waits reply turn with
    ⟨s, wait', hturn, hgoes⟩ | ⟨outcome, hturn, hgoes⟩
  · exact .inl ⟨s, wait', hturn, halike.goes hgoes⟩
  · exact .inr ⟨outcome, hturn, halike.goes hgoes⟩

theorem undisturbed_setRoster {σ α : Type} (w : World) (roster : Roster) (id : TaskId)
    (wrap : σ → Activity) (reply : α → Reply) (turn : Turn σ α) :
    Undisturbed w ((w.setRoster roster).settle id wrap reply turn) := by
  have hstanding := (w.setRoster roster).standing_settle id wrap reply turn
  exact .of_eq (congrArg Standing.store hstanding) (congrArg Standing.history hstanding)

theorem number_settled {σ α : Type} (w : World) (roster : Roster) (id : TaskId)
    (wrap : σ → Activity) (reply : α → Reply) (turn : Turn σ α) :
    ((w.setRoster roster).settle id wrap reply turn).number = w.number := by
  have hstanding := (w.setRoster roster).standing_settle id wrap reply turn
  exact (number_of_pipeline (congrArg Standing.pipeline hstanding)).trans
    (w.number_setRoster roster)

theorem roster_settled {σ α : Type} {roster : Roster} (id : TaskId)
    (missing : w.pipeline = none → roster = .empty) (wrap : σ → Activity) (reply : α → Reply)
    (turn : Turn σ α) :
    ((w.setRoster roster).settle id wrap reply turn).roster = roster := by
  have hstanding := (w.setRoster roster).standing_settle id wrap reply turn
  exact (roster_of_pipeline (congrArg Standing.pipeline hstanding)).trans
    (roster_setRoster missing)

/-- A roster that was not changed is put back. -/
theorem pipeline_settled {σ α : Type} (w : World) (id : TaskId) (wrap : σ → Activity)
    (reply : α → Reply) (turn : Turn σ α) :
    ((w.setRoster w.roster).settle id wrap reply turn).pipeline = w.pipeline := by
  have hstanding := (w.setRoster w.roster).standing_settle id wrap reply turn
  refine (congrArg Standing.pipeline hstanding).trans ?_
  show w.pipeline.map _ = w.pipeline
  unfold World.roster
  cases w.pipeline <;> rfl

theorem turns_opening {c : Config} {task : Task}
    (numbered : ∀ t, w.fresh ≤ t → w.stateOf t = none)
    (was : w.stateOf id = some (.running (.starting .opening) wait))
    (hturn : answered id (w.answer? id task (.starting .opening) wait .enter)
      (fun w answer =>
        (w.setRoster (Starting.opening.resume c w.ended w.roster answer).1).settle id .starting
          .ofStart (Starting.opening.resume c w.ended w.roster answer).2) = some w') :
    Turns w id w' := by
  rcases answered_cases hturn with ⟨w₁, hanswer, -⟩ | ⟨w₁, answer, hanswer, rfl⟩
  · cases (answer_enter rfl hanswer).2.1
  · obtain ⟨rfl, -, halone⟩ := answer_enter rfl hanswer
    have hmissing (missing : w₁.pipeline = none) :
        (Roster.reapAll w₁.ended w₁.roster).1 = .empty := by
      rw [roster_of_missing missing]
      rfl
    have hpassage := passage_of_states numbered (fun _ => rfl) (Nat.le_refl w₁.fresh)
    change Turns w₁ id ((w₁.setRoster (Roster.reapAll w₁.ended w₁.roster).1).settle id .starting
      .ofStart (Starting.survey w₁.ended w₁.roster).2)
    generalize hsurveyed : (Starting.survey w₁.ended w₁.roster).2 = turn
    have hroster := roster_settled id hmissing .starting .ofStart turn
    have hcases := Starting.survey_cases w₁.ended w₁.roster
    rw [hsurveyed] at hcases
    rcases settled_setRoster was _ waits_starting .ofStart turn with
      ⟨s, wait', hnext, hgoes⟩ | ⟨outcome, hnext, hgoes⟩
    · rcases hcases with ⟨-, hfinished⟩ | ⟨s', hwaiting, hinside, hfits, hmissing⟩
      · cases hfinished.symm.trans hnext
      · cases hwaiting.symm.trans hnext
        refine turned_of_goes numbered was hpassage hgoes
          (.surveys halone (number_settled ..) hroster ?_) fun _ => undisturbed_setRoster ..
        rw [hroster]
        exact .incomplete hmissing hinside hfits
    · rcases hcases with ⟨hall, hfinished⟩ | ⟨s', hwaiting, -⟩
      · cases hfinished.symm.trans hnext
        refine turned_of_goes numbered was hpassage hgoes
          (.surveys halone (number_settled ..) hroster ?_) fun _ => undisturbed_setRoster ..
        rw [hroster]
        exact .complete hall
      · cases hwaiting.symm.trans hnext

theorem turns_preparing {s : Starting} {c : Config} {task : Task}
    (numbered : ∀ t, w.fresh ≤ t → w.stateOf t = none)
    (was : w.stateOf id = some (.running (.starting s) wait))
    (prepares : s = .probing ∨ s = .subscribing)
    (hturn : answered id (w.answer? id task (.starting s) wait (s.request c))
      (fun w answer => (w.setRoster (s.resume c w.ended w.roster answer).1).settle id .starting
        .ofStart (s.resume c w.ended w.roster answer).2) = some w') :
    Turns w id w' := by
  have hlaunches (publisher : Bool) (consumer : Option StreamId) :
      s.request c ≠ .launch publisher consumer := by
    rcases prepares with rfl | rfl <;> exact Request.noConfusion
  have hquiet : (s.request c).writes = false := by
    rcases prepares with rfl | rfl <;> rfl
  have hdone {w₁ : World} {new : TaskState} (steady : Steady (s.request c).writes w w₁)
      (hgoes : Goes id (.running (.starting s) wait) new w₁ w') (same : w'.pipeline = w₁.pipeline)
      (undisturbed : Undisturbed w₁ w')
      (outcome : Prepared (fun s' => s.Fits w.roster → s'.Fits w.roster) new) : Turns w id w' :=
    turned_of_goes numbered was (passage_of_states numbered steady.states steady.fresh) hgoes
      (.prepares prepares (same.trans steady.pipeline) outcome)
      fun _ => (steady.undisturbed hquiet).trans undisturbed
  rcases answered_cases hturn with ⟨w₁, hanswer, rfl⟩ | ⟨w₁, answer, hanswer, rfl⟩
  · have hsteady := steady_of_answer hlaunches hanswer
    have hstanding := w₁.standing_finish id .crashed
    exact hdone hsteady (goes_finish ((hsteady.states id).trans was) .crashed)
      (congrArg Standing.pipeline hstanding) (undisturbed_of_standing hstanding)
      (.failed Reply.noConfusion Reply.noConfusion)
  · have hsteady := steady_of_answer hlaunches hanswer
    have hroster := roster_of_pipeline hsteady.pipeline
    obtain ⟨hkept, hcases⟩ := Starting.prepare_cases c w₁.ended w₁.roster prepares answer
    rw [hkept] at hdone ⊢
    rcases settled_setRoster ((hsteady.states id).trans was) w₁.roster waits_starting .ofStart
      (s.resume c w₁.ended w₁.roster answer).2 with
      ⟨s', wait', hnext, hgoes⟩ | ⟨outcome, hnext, hgoes⟩
    · rcases hcases with ⟨s'', hwaiting, hinside', hfits⟩ | ⟨failure, hfinished, -⟩
      · cases hwaiting.symm.trans hnext
        rw [hroster] at hfits
        exact hdone hsteady hgoes (pipeline_settled ..) (undisturbed_setRoster ..)
          (.ready hinside' hfits)
      · cases hfinished.symm.trans hnext
    · rcases hcases with ⟨s'', hwaiting, -⟩ | ⟨failure, hfinished, hother⟩
      · cases hwaiting.symm.trans hnext
      · cases hfinished.symm.trans hnext
        refine hdone hsteady hgoes (pipeline_settled ..) (undisturbed_setRoster ..) (.failed ?_ ?_)
        · exact Reply.noConfusion
        · exact fun h => hother (Reply.startFailure.inj h)

theorem turns_launching {publisher : Bool} {consumer : Option StreamId} {c : Config} {task : Task}
    (numbered : ∀ t, w.fresh ≤ t → w.stateOf t = none)
    (was : w.stateOf id = some (.running (.starting (.launching publisher consumer)) wait))
    (hturn : answered id
      (w.answer? id task (.starting (.launching publisher consumer)) wait
        (.launch publisher consumer))
      (fun w answer =>
        (w.setRoster ((Starting.launching publisher consumer).resume c w.ended w.roster answer).1).settle
          id .starting .ofStart
          ((Starting.launching publisher consumer).resume c w.ended w.roster answer).2) = some w') :
    Turns w id w' := by
  rcases answered_cases hturn with ⟨w₁, hanswer, -⟩ | ⟨w₁, answer, hanswer, rfl⟩
  · cases hanswer
  · have hgiven : some ((w.launch publisher consumer).2, some (w.launch publisher consumer).1) =
        some (w₁, some answer) := hanswer
    cases hgiven
    obtain ⟨hpassage, hpipeline, hundisturbed, hloops⟩ := launch_spec numbered publisher consumer
    have hroster := roster_of_pipeline hpipeline
    have hwas := (hpassage.others id (lt_fresh_of_stateOf numbered was) nofun).trans was
    have hmissing (missing : (w.launch publisher consumer).2.pipeline = none) :
        (w.launched publisher consumer).over w.roster = .empty := by
      rw [hpipeline] at missing
      rw [roster_of_missing missing]
      simp only [launched, launch, missing]
      rfl
    change Turns w id (((w.launch publisher consumer).2.setRoster
      ((w.launched publisher consumer).over (w.launch publisher consumer).2.roster)).settle id
        .starting .ofStart
        (.after (.pipelineStarted c.receiptQueue publisher consumer.isSome) (.finish (.ok ()))))
    rw [hroster]
    generalize hturn' : (Turn.after (.pipelineStarted c.receiptQueue publisher consumer.isSome)
      (.finish (.ok ())) : Starting.StartTurn) = turn
    rcases settled_setRoster hwas ((w.launched publisher consumer).over w.roster) waits_starting
      .ofStart turn with ⟨s, wait', hnext, -⟩ | ⟨outcome, hnext, hgoes⟩
    · subst hturn'
      cases hnext
    · have hdone : Reply.ofStart outcome = .done := by
        subst hturn'
        cases hnext
        rfl
      rw [hdone] at hgoes
      have hthere := lt_fresh_of_stateOf numbered was
      refine turned_of_goes numbered was hpassage hgoes
        (.launches ?_ (roster_settled id hmissing ..) ?_) fun _ => ?_
      · exact (number_settled ..).trans (number_of_pipeline hpipeline)
      · refine ⟨fun role loop hloop => ?_, hloops.distinct⟩
        obtain ⟨htask, habove, hbelow, hstate, hlive⟩ := hloops.arrived role loop hloop
        have hsame := (hgoes.states loop.task).trans
          (if_neg (Nat.ne_of_lt (Nat.lt_of_lt_of_le hthere htask)))
        refine ⟨htask, habove, Nat.lt_of_lt_of_le hbelow hgoes.fresh, ?_, ?_⟩
        · rw [hsame]
          exact hstate
        · rw [isLive_congr hsame]
          exact hlive
      · exact hundisturbed.trans (undisturbed_setRoster ..)

/-! ## Stopping a pipeline -/

theorem signal_wake (w : World) (id : TaskId) (signal : SignalId) :
    (w.wake id).signal signal = w.signal signal := by
  unfold wake
  split <;> rfl

/-- A stop that has the roster sets the signals of the loops that it holds and no others, and what
it waits for is the end of a loop. -/
theorem answer_stopping {s : Stopping} {task : Task} {given : Option s.request.Answer}
    (inside : s.isInside = true)
    (h : w.answer? id task activity wait s.request = some (w₁, given)) :
    given.isSome = true ∧
      (∀ signal, (∀ role loop, s.held role = some loop → loop.signal ≠ signal) →
        w₁.signal signal = w.signal signal) ∧
      ∀ loop, s.awaited = some loop → (w.ended loop.task).isSome = true := by
  cases s with
  | opening choice => cases inside
  | halting loops =>
    have hgiven := Option.some.inj h
    cases hgiven
    refine ⟨rfl, fun signal hspared => ?_, nofun⟩
    refine List.foldlRecOn (motive := fun w' : World => w'.signal signal = w.signal signal)
      loops.toList _ rfl fun w' hw' loop hmem => ?_
    obtain ⟨role, hrole⟩ := Roster.exists_of_mem_toList hmem
    rw [signal_wake, ← hw']
    show (w'.signals.put loop.signal _).getD signal .fresh = w'.signals.getD signal .fresh
    rw [Table.getD_put, if_neg (hspared role loop hrole)]
  | joiningPublisher publisher consumer =>
    obtain ⟨ending, hended, hgiven⟩ := Option.map_eq_some_iff.mp h
    cases hgiven
    refine ⟨rfl, fun _ _ => rfl, fun loop hloop => ?_⟩
    cases hloop
    exact Option.isSome_iff_exists.mpr ⟨ending, hended⟩
  | joiningConsumer consumer =>
    obtain ⟨ending, hended, hgiven⟩ := Option.map_eq_some_iff.mp h
    cases hgiven
    refine ⟨rfl, fun _ _ => rfl, fun loop hloop => ?_⟩
    cases hloop
    exact Option.isSome_iff_exists.mpr ⟨ending, hended⟩

/-- What a stop makes of an answer. -/
def stopOn (w : World) (id : TaskId) (shutDown : Bool) (s : Stopping) (answer : s.request.Answer) :
    World :=
  let last : Turn Stopping Unit :=
    if shutDown then .after .pipelineShutDown (.finish ()) else .finish ()
  (w.setRoster (s.resume w.roster answer).1).settle id (.stopping · shutDown) (fun () => .done)
    ((s.resume w.roster answer).2.andThen (fun s => s) fun () => last)

theorem turns_choosing {choice : StopChoice} {shutDown : Bool} {task : Task}
    (numbered : ∀ t, w.fresh ≤ t → w.stateOf t = none)
    (was : w.stateOf id = some (.running (.stopping (.opening choice) shutDown) wait))
    (hturn : answered id (w.answer? id task (.stopping (.opening choice) shutDown) wait .enter)
      (fun w answer => w.stopOn id shutDown (.opening choice) answer) = some w') :
    Turns w id w' := by
  rcases answered_cases hturn with ⟨w₁, hanswer, -⟩ | ⟨w₁, answer, hanswer, rfl⟩
  · cases (answer_enter rfl hanswer).2.1
  · obtain ⟨rfl, -, halone⟩ := answer_enter rfl hanswer
    have hmissing (missing : w₁.pipeline = none) : choice.spared w₁.roster = .empty := by
      rw [roster_of_missing missing]
      obtain ⟨publisher, consumer⟩ := choice
      cases publisher <;> cases consumer <;> rfl
    have hpassage := passage_of_states numbered (fun _ => rfl) (Nat.le_refl w₁.fresh)
    have hwaits (s : Stopping) (c : Config) :
        ((Activity.stopping s shutDown).request? c).isSome = true := rfl
    change Turns w₁ id ((w₁.setRoster (choice.spared w₁.roster)).settle id
      (Activity.stopping · shutDown) (fun () => Reply.done)
      (.wait (.halting (choice.chosen w₁.roster))))
    have hstanding := (w₁.setRoster (choice.spared w₁.roster)).standing_settle id
      (Activity.stopping · shutDown) (fun () => Reply.done)
      (.wait (.halting (choice.chosen w₁.roster)))
    rcases settled_setRoster was (choice.spared w₁.roster) hwaits (fun () => Reply.done)
      (.wait (.halting (choice.chosen w₁.roster))) with
      ⟨s, wait', hnext, hgoes⟩ | ⟨outcome, hnext, -⟩
    · cases hnext
      exact turned_of_goes numbered was hpassage hgoes
        (.chooses halone (number_settled ..) (roster_settled id hmissing ..)
          (congrArg Standing.signals hstanding))
        fun _ => undisturbed_setRoster ..
    · cases hnext

theorem turns_stopping {s : Stopping} {shutDown : Bool} {task : Task}
    (numbered : ∀ t, w.fresh ≤ t → w.stateOf t = none)
    (was : w.stateOf id = some (.running (.stopping s shutDown) wait)) (inside : s.isInside = true)
    (hturn : answered id (w.answer? id task (.stopping s shutDown) wait s.request)
      (fun w answer => w.stopOn id shutDown s answer) = some w') :
    Turns w id w' := by
  have hlaunches (publisher : Bool) (consumer : Option StreamId) :
      s.request ≠ .launch publisher consumer := by
    cases s <;> exact Request.noConfusion
  have hquiet : s.request.writes = false := by
    cases s <;> rfl
  rcases answered_cases hturn with ⟨w₁, hanswer, -⟩ | ⟨w₁, answer, hanswer, rfl⟩
  · cases (answer_stopping inside hanswer).1
  · have hsteady := steady_of_answer hlaunches hanswer
    obtain ⟨-, hspared, hended⟩ := answer_stopping inside hanswer
    obtain ⟨hkept, hcases⟩ := Stopping.resume_cases w₁.roster inside answer
    unfold stopOn
    simp only
    rw [hkept]
    have hlast : (if shutDown = true then .after .pipelineShutDown (.finish ()) else .finish () :
        Turn Stopping Unit).progress = .finished () := by
      split <;> rfl
    generalize (if shutDown = true then .after .pipelineShutDown (.finish ()) else .finish () :
      Turn Stopping Unit) = last at hlast
    have hwaits (s : Stopping) (c : Config) :
        ((Activity.stopping s shutDown).request? c).isSome = true := rfl
    generalize hturn' : ((s.resume w₁.roster answer).2.andThen (fun s => s) fun () => last) = turn
    have hdone {new : TaskState} (hgoes : Goes id (.running (.stopping s shutDown) wait) new w₁
          ((w₁.setRoster w₁.roster).settle id (.stopping · shutDown) (fun () => .done) turn))
        (kept : ∀ role loop, new.held role = some loop → s.held role = some loop)
        (dropped : ∀ role loop, s.held role = some loop →
          new.held role = some loop ∨ s.awaited = some loop)
        (next : (∃ s' wait', new = .running (.stopping s' shutDown) wait' ∧ s'.isInside = true) ∨
          ∃ n, new = .ended .done n) :
        Turns w id ((w₁.setRoster w₁.roster).settle id (.stopping · shutDown) (fun () => .done)
          turn) := by
      have hstanding := (w₁.setRoster w₁.roster).standing_settle id (Activity.stopping · shutDown)
        (fun () => Reply.done) turn
      refine turned_of_goes numbered was
        (passage_of_states numbered hsteady.states hsteady.fresh) hgoes (.stops inside ?_
          (fun signal h => ?_) kept (fun role loop h => ?_) next) fun _ => ?_
      · exact (pipeline_settled ..).trans hsteady.pipeline
      · refine Eq.trans ?_ (hspared signal h)
        exact congrArg (fun signals => signals.getD signal Signal.fresh)
          (congrArg Standing.signals hstanding)
      · exact (dropped role loop h).imp_right (hended loop)
      · exact (hsteady.undisturbed hquiet).trans (undisturbed_setRoster ..)
    rcases settled_setRoster ((hsteady.states id).trans was) w₁.roster hwaits
      (fun () => Reply.done) turn with ⟨s', wait', hnext, hgoes⟩ | ⟨outcome, hnext, hgoes⟩
    · subst hturn'
      rcases Turn.waiting_cases hnext with ⟨s'', hwaiting, rfl⟩ | ⟨_, -, hwaiting⟩
      · rcases hcases with ⟨s'', hwaiting', hinside, hkept, hdropped⟩ | ⟨hfinished, -⟩
        · cases hwaiting'.symm.trans hwaiting
          exact hdone hgoes hkept hdropped (.inl ⟨_, wait', rfl, hinside⟩)
        · cases hfinished.symm.trans hwaiting
      · cases hlast.symm.trans hwaiting
    · subst hturn'
      obtain ⟨_, hfinished, -⟩ := Turn.finished_cases hnext
      rcases hcases with ⟨s'', hwaiting, -⟩ | ⟨-, hdropped⟩
      · cases hwaiting.symm.trans hfinished
      · exact hdone hgoes nofun (fun role loop h => .inr (hdropped role loop h)) (.inr ⟨_, rfl⟩)

/-! ## All turns -/

theorem not_launch_of_elsewhere {r : Request} (h : isElsewhere r = true) (publisher : Bool)
    (consumer : Option StreamId) : r ≠ .launch publisher consumer := by
  rintro rfl
  cases h

theorem not_launch_of_consuming (c : Config) (s : Consuming) (publisher : Bool)
    (consumer : Option StreamId) : s.request c ≠ .launch publisher consumer := by
  cases s with
  | handling stream work => exact not_launch_of_elsewhere (elsewhere_handling c work) _ _
  | _ => exact Request.noConfusion

/-- **What one turn does to the pipeline.** -/
theorem turns_of_turn (numbered : ∀ t, w.fresh ≤ t → w.stateOf t = none)
    (hturn : w.turn? id = some w') : Turns w id w' := by
  cases hget : w.tasks.get? id with
  | none => simp [turn?, hget] at hturn
  | some task =>
    have hwas : w.stateOf id = some task.state := by
      rw [stateOf, hget]
      rfl
    obtain ⟨c, watch, state⟩ := task
    simp only [turn?, hget, Option.bind_eq_bind, Option.bind_some] at hturn
    simp only at hwas
    cases state with
    | ended => cases hturn
    | running activity wait =>
      cases activity with
      | acting action =>
        cases hturn
        exact turns_begin numbered hwas
      | sleeping =>
        simp only at hturn
        split at hturn
        · cases hturn
          exact turns_finish numbered hwas rfl (steady_refl _ w) .done
        · cases hturn
      | awaiting name stream =>
        have hback (broker : Broker) :
            Steady (TaskState.running (.awaiting name stream) wait).writes w
              (({ w with broker } : World).nameStream name stream) := steady_aside rfl rfl rfl
        simp only at hturn
        split at hturn
        · cases hturn
          exact turns_finish numbered hwas rfl (hback _) _
        · cases hturn
          exact turns_finish numbered hwas rfl (hback _) _
        · cases hturn
          exact turns_finish numbered hwas rfl (hback _) _
        · split at hturn
          · cases hturn
            exact turns_finish numbered hwas rfl (hback _) _
          · cases hturn
      | joining name other =>
        have hforgot : Steady (TaskState.running (.joining name other) wait).writes w
            { w with taskNames := w.taskNames.erase name } := steady_aside rfl rfl rfl
        simp only at hturn
        split at hturn
        · cases hturn
          exact turns_finish numbered hwas rfl hforgot .crashed
        · cases hturn
          exact turns_finish numbered hwas rfl hforgot _
        · split at hturn
          · cases hturn
            exact turns_finish numbered hwas rfl (steady_refl _ w) .timedOut
          · cases hturn
      | popping s =>
        have hquiet : s.request.writes = false := by
          cases s <;> rfl
        refine turns_answered numbered hwas rfl (not_launch_of_elsewhere (elsewhere_popping s))
          (fun _ => hquiet) hturn fun w₁ answer hsteady => ?_
        exact turns_settle numbered hwas rfl hsteady (fun _ _ => rfl) _ _
          fun _ _ => .of_plain rfl rfl rfl rfl
      | serving exchange queue served s =>
        have hquiet : s.request.writes = false := by
          cases s <;> rfl
        refine turns_answered numbered hwas rfl (not_launch_of_elsewhere (elsewhere_popping s))
          (fun _ => hquiet) hturn fun w₁ answer hsteady => ?_
        have hawait {w₂ : World} (served' : Nat) (s' : Popping) (h : Steady false w w₂) :
            Turns w id (w₂.await id (.serving exchange queue served' s')) :=
          turns_await numbered hwas h (fun _ => rfl) fun _ => .of_plain rfl rfl rfl rfl
        split
        · exact hawait _ _ hsteady
        · next p _ =>
          cases p with
          | none => exact hawait _ _ hsteady
          | some p => exact hawait _ _ (hsteady.trans (steady_aside rfl rfl rfl))
      | recording s =>
        refine turns_answered numbered hwas rfl (not_launch_of_elsewhere (elsewhere_recording c s))
          (fun quiet => by cases quiet) hturn fun w₁ answer hsteady => ?_
        exact turns_settle numbered hwas rfl hsteady (fun _ _ => rfl) _ _
          fun _ _ => .of_plain rfl rfl rfl rfl
      | handling s =>
        refine turns_answered numbered hwas rfl (not_launch_of_elsewhere (elsewhere_handling c s))
          (fun quiet => by cases quiet) hturn fun w₁ answer hsteady => ?_
        exact turns_settle numbered hwas rfl hsteady (fun _ _ => rfl) _ _
          fun _ _ => .of_plain rfl rfl rfl rfl
      | batching publisher s =>
        refine turns_answered numbered hwas rfl (not_launch_of_elsewhere (elsewhere_batching c s))
          (fun quiet => by cases quiet) hturn fun w₁ answer hsteady => ?_
        have hcarried (carried : Table Nat (List Outcome)) : Steady true w { w₁ with carried } :=
          hsteady.trans (steady_aside rfl rfl rfl)
        exact turns_settle numbered hwas rfl (hcarried _) (fun _ _ => rfl) _ _
          fun _ _ => .of_plain rfl rfl rfl rfl
      | publishing publisher s =>
        refine turns_answered numbered hwas rfl (not_launch_of_elsewhere (elsewhere_publishing c s))
          (fun quiet => by cases quiet) hturn fun w₁ answer hsteady => ?_
        have hcarried (carried : Table Nat (List Outcome)) : Steady true w { w₁ with carried } :=
          hsteady.trans (steady_aside rfl rfl rfl)
        exact turns_settle numbered hwas rfl (hcarried _) (fun _ _ => rfl) _ _
          fun _ _ => .of_loop rfl rfl rfl rfl
      | consuming s =>
        refine turns_answered numbered hwas rfl (not_launch_of_consuming c s)
          (fun quiet => by cases quiet) hturn fun w₁ answer hsteady => ?_
        exact turns_settle numbered hwas rfl hsteady (fun _ _ => rfl) _ _
          fun _ _ => .of_loop rfl rfl rfl rfl
      | building omitted => exact turns_building numbered hwas hturn
      | stopping s shutDown =>
        cases s with
        | opening choice => exact turns_choosing numbered hwas hturn
        | _ => exact turns_stopping numbered hwas rfl hturn
      | starting s =>
        cases s with
        | opening => exact turns_opening numbered hwas hturn
        | probing => exact turns_preparing numbered hwas (.inl rfl) hturn
        | subscribing => exact turns_preparing numbered hwas (.inr rfl) hturn
        | launching publisher consumer => exact turns_launching numbered hwas hturn

/-- Who hears is a consumer's loop. -/
theorem stateOf_of_hear (hhear : w.hear? id = some w') :
    ∃ stream wait, w.stateOf id = some (.running (.consuming (.listening stream)) wait) := by
  simp only [hear?, Option.bind_eq_bind, Option.bind_eq_some_iff] at hhear
  obtain ⟨task, hget, hhear⟩ := hhear
  split at hhear
  · next stream wait hstate =>
    refine ⟨stream, wait, ?_⟩
    rw [stateOf, hget, ← hstate]
    rfl
  · cases hhear

/-- A loop that hears from its subscription before it heeds its signal leaves the pipeline alone. -/
theorem turns_of_hear (numbered : ∀ t, w.fresh ≤ t → w.stateOf t = none)
    (hhear : w.hear? id = some w') : Turns w id w' := by
  simp only [hear?, Option.bind_eq_bind, Option.bind_eq_some_iff] at hhear
  obtain ⟨task, hget, hhear⟩ := hhear
  split at hhear
  · next stream wait hstate =>
    have hwas : w.stateOf id = some (.running (.consuming (.listening stream)) wait) := by
      rw [stateOf, hget, ← hstate]
      rfl
    refine turns_answered numbered hwas rfl (fun _ _ => Request.noConfusion)
      (fun quiet => by cases quiet) hhear fun w₁ answer hsteady => ?_
    exact turns_settle numbered hwas rfl hsteady (fun _ _ => rfl) _ _
      fun _ _ => .of_loop rfl rfl rfl rfl
  · cases hhear

end Turns

end Outbox.Rehearsal.World
