import Outbox.Proofs.Rehearsal.Steady
import Outbox.Proofs.Rehearsal.Holding
/-!
# `Proofs.Rehearsal.Command` — what one turn does to the pipeline

The pipeline is changed by the tasks that build, start and stop it, and by nobody else. Each of them
first waits until nobody has the roster; a start or a stop then has it to itself until its end.
`Deed` says for each of their turns what becomes of the roster and of the pipeline's number, and
`Turned` adds what holds of every turn: no other task goes on, and whoever is added begins at the
beginning.
-/

namespace Outbox

/-! ## Rosters -/

/-- The loop of a kind. -/
def Roster.loop (roster : Roster) : Role → Option Launched
  | .publisher => roster.publisher
  | .consumer => roster.consumer

/-- The loops of one roster, and those of another where there are none. -/
def Roster.over (roster other : Roster) : Roster :=
  ⟨roster.publisher.or other.publisher, roster.consumer.or other.consumer⟩

theorem Roster.loop_over (roster other : Roster) (role : Role) :
    (roster.over other).loop role = (roster.loop role).or (other.loop role) := by
  cases role <;> rfl

/-- Whether a loop is to be stopped. -/
def StopChoice.selects (choice : StopChoice) : Role → Bool
  | .publisher => choice.publisher
  | .consumer => choice.consumer

theorem StopChoice.loop_spared (choice : StopChoice) (roster : Roster) (role : Role) :
    (choice.spared roster).loop role = if choice.selects role then none else roster.loop role := by
  cases role <;> rfl

theorem StopChoice.loop_chosen (choice : StopChoice) (roster : Roster) (role : Role) :
    (choice.chosen roster).loop role = if choice.selects role then roster.loop role else none := by
  cases role <;> rfl

/-- The loops that a stop has taken off the roster and has not seen the end of. -/
def Stopping.held : Stopping → Role → Option Launched
  | .opening _, _ => none
  | .halting loops, role => loops.loop role
  | .joiningPublisher publisher _, .publisher => some publisher
  | .joiningPublisher _ consumer, .consumer => consumer
  | .joiningConsumer _, .publisher => none
  | .joiningConsumer consumer, .consumer => some consumer

/-- Whether a start that goes on like this sets going just what is missing on a roster. -/
def Starting.Fits (roster : Roster) : Starting → Prop
  | .opening => True
  | .probing => roster.publisher = none
  | .subscribing => roster.consumer = none
  | .launching publisher consumer =>
    publisher = roster.publisher.isNone ∧ consumer.isSome = roster.consumer.isNone

/-- A loop is struck off if it has ended. -/
theorem Roster.loop_reapAll (ended : TaskId → Option Ending) (roster : Roster) (role : Role) :
    (reapAll ended roster).1.loop role =
      (roster.loop role).filter fun loop => (ended loop.task).isNone := by
  have hreap (role : Role) (slot : Option Launched) :
      (reap role ended slot).1 = slot.filter fun loop => (ended loop.task).isNone := by
    cases slot with
    | none => rfl
    | some loop => cases h : ended loop.task <;> simp [reap, Option.filter, h]
  cases role with
  | publisher => exact hreap .publisher roster.publisher
  | consumer => exact hreap .consumer roster.consumer

/-- A start has nothing to do where no loop is missing, and goes on where one is. -/
theorem Starting.survey_cases (ended : TaskId → Option Ending) (roster : Roster) :
    ((∀ role, ((roster.reapAll ended).1.loop role).isSome = true) ∧
        (survey ended roster).2.progress = .finished (.error .alreadyRunning)) ∨
      ∃ s, (survey ended roster).2.progress = .waiting s ∧ s.isInside = true ∧
        s.Fits (roster.reapAll ended).1 ∧ ∃ role, (roster.reapAll ended).1.loop role = none := by
  unfold survey
  generalize roster.reapAll ended = reaped
  obtain ⟨⟨publisher, consumer⟩, notices⟩ := reaped
  cases publisher with
  | none => exact .inr ⟨.probing, rfl, rfl, rfl, .publisher, rfl⟩
  | some publisher =>
    cases consumer with
    | none => exact .inr ⟨.subscribing, rfl, rfl, rfl, .consumer, rfl⟩
    | some consumer =>
      refine .inl ⟨fun role => ?_, rfl⟩
      cases role <;> rfl

/-- While it makes sure of the broker a start leaves the roster alone, and goes on to set going what
is missing or fails. -/
theorem Starting.prepare_cases (c : Config) (ended : TaskId → Option Ending) (roster : Roster)
    {s : Starting} (prepares : s = .probing ∨ s = .subscribing) (answer : (s.request c).Answer) :
    (s.resume c ended roster answer).1 = roster ∧
      ((∃ s', (s.resume c ended roster answer).2.progress = .waiting s' ∧ s'.isInside = true ∧
          (s.Fits roster → s'.Fits roster)) ∨
        ∃ failure, (s.resume c ended roster answer).2.progress = .finished (.error failure) ∧
          failure ≠ .alreadyRunning) := by
  obtain ⟨publisher, consumer⟩ := roster
  rcases prepares with rfl | rfl
  · change Except BrokerFailure Unit at answer
    cases answer with
    | error failure => exact ⟨rfl, .inr ⟨_, rfl, StartFailure.noConfusion⟩⟩
    | ok =>
      cases consumer with
      | none => exact ⟨rfl, .inl ⟨_, rfl, rfl, fun _ => rfl⟩⟩
      | some loop =>
        refine ⟨rfl, .inl ⟨_, rfl, rfl, fun missing => ⟨?_, rfl⟩⟩⟩
        change publisher = none at missing
        rw [missing]
        rfl
  · change Except BrokerFailure StreamId at answer
    cases answer with
    | error failure => exact ⟨rfl, .inr ⟨_, rfl, StartFailure.noConfusion⟩⟩
    | ok stream =>
      refine ⟨rfl, .inl ⟨_, rfl, rfl, fun missing => ⟨rfl, ?_⟩⟩⟩
      change consumer = none at missing
      rw [missing]
      rfl

/-- The loop whose end a stop waits for. -/
def Stopping.awaited : Stopping → Option Launched
  | .joiningPublisher loop _ | .joiningConsumer loop => some loop
  | .opening _ | .halting _ => none

theorem Roster.exists_of_mem_toList {roster : Roster} {loop : Launched} (h : loop ∈ roster.toList) :
    ∃ role, roster.loop role = some loop := by
  rcases List.mem_append.mp h with hmem | hmem
  · exact ⟨.publisher, Option.mem_toList.mp hmem⟩
  · exact ⟨.consumer, Option.mem_toList.mp hmem⟩

/-- After the loops were told to stop, a stop waits for the end of each of them. -/
theorem Stopping.joinAll_cases (loops : Roster) :
    (∃ s, (joinAll loops).progress = .waiting s ∧ s.isInside = true ∧ s.held = loops.loop) ∨
      (joinAll loops).progress = .finished () ∧ ∀ role, loops.loop role = none := by
  obtain ⟨publisher, consumer⟩ := loops
  cases publisher with
  | some publisher => exact .inl ⟨_, rfl, rfl, by funext role; cases role <;> rfl⟩
  | none =>
    cases consumer with
    | some consumer => exact .inl ⟨_, rfl, rfl, by funext role; cases role <;> rfl⟩
    | none => exact .inr ⟨rfl, fun role => by cases role <;> rfl⟩

/-- A stop that has the roster leaves it alone. It goes on to hold what it held but for the loop
whose end it has seen, and comes to its end when it holds nothing more. -/
theorem Stopping.resume_cases (roster : Roster) {s : Stopping} (inside : s.isInside = true)
    (answer : s.request.Answer) :
    (s.resume roster answer).1 = roster ∧
      ((∃ s', (s.resume roster answer).2.progress = .waiting s' ∧ s'.isInside = true ∧
          (∀ role loop, s'.held role = some loop → s.held role = some loop) ∧
          ∀ role loop, s.held role = some loop →
            s'.held role = some loop ∨ s.awaited = some loop) ∨
        (s.resume roster answer).2.progress = .finished () ∧
          ∀ role loop, s.held role = some loop → s.awaited = some loop) := by
  cases s with
  | opening choice => cases inside
  | halting loops =>
    refine ⟨rfl, ?_⟩
    rcases joinAll_cases loops with ⟨s', hprogress, hinside, hheld⟩ | ⟨hprogress, hnone⟩
    · refine .inl ⟨s', hprogress, hinside, fun role loop h => ?_, fun role loop h => .inl ?_⟩
      · rw [hheld] at h
        exact h
      · rw [hheld]
        exact h
    · refine .inr ⟨hprogress, fun role loop h => ?_⟩
      cases (hnone role).symm.trans h
  | joiningPublisher publisher consumer =>
    refine ⟨rfl, ?_⟩
    cases consumer with
    | none =>
      refine .inr ⟨rfl, fun role loop h => ?_⟩
      cases role <;> cases h
      rfl
    | some consumer =>
      refine .inl ⟨.joiningConsumer consumer, rfl, rfl, fun role loop h => ?_,
        fun role loop h => ?_⟩
      · cases role <;> cases h
        rfl
      · cases role <;> cases h
        · exact .inr rfl
        · exact .inl rfl
  | joiningConsumer consumer =>
    refine ⟨rfl, .inr ⟨rfl, fun role loop h => ?_⟩⟩
    cases role <;> cases h
    rfl

namespace Rehearsal

/-! ## Views -/

namespace TaskState

/-- Whether a task has the roster of the pipeline to itself. -/
def isInside : TaskState → Bool
  | .running (.starting s) _ => s.isInside
  | .running (.stopping s _) _ => s.isInside
  | _ => false

/-- Whether a task is a start. -/
def isStart : TaskState → Bool
  | .running (.starting _) _ => true
  | _ => false

/-- Whether a task is a start or a stop. -/
def isCommand : TaskState → Bool
  | .running (.starting _) _ | .running (.stopping ..) _ => true
  | _ => false

/-- Whether a task runs a loop, or has come to its end. -/
def isLoop : TaskState → Bool
  | .running (.publishing ..) _ | .running (.consuming _) _ | .ended .. => true
  | _ => false

/-- Whether a task can begin like this. -/
def isNew : TaskState → Bool
  | .running (.acting _) _ => true
  | .running (.publishing _ .starting) _ | .running (.consuming (.starting _)) _ => true
  | _ => false

/-- The loops that a stop has taken off the roster and has not seen the end of. -/
def held : TaskState → Role → Option Launched
  | .running (.stopping s _) _ => s.held
  | _ => fun _ => none

theorem outside_of_isNew {state : TaskState} (h : state.isNew = true) : state.isInside = false := by
  cases state with
  | ended => rfl
  | running activity wait => cases activity <;> first | rfl | cases h

theorem not_start_of_isNew {state : TaskState} (h : state.isNew = true) :
    state.isStart = false := by
  cases state with
  | ended => rfl
  | running activity wait => cases activity <;> first | rfl | cases h

theorem outside_of_not_command {state : TaskState} (h : state.isCommand = false) :
    state.isInside = false := by
  cases state with
  | ended => rfl
  | running activity wait => cases activity <;> first | rfl | cases h

/-- Only who has the roster to itself holds loops. -/
theorem inside_of_held {state : TaskState} {role : Role} {loop : Launched}
    (h : state.held role = some loop) : state.isInside = true := by
  cases state with
  | ended => cases h
  | running activity wait =>
    cases activity with
    | stopping s shutDown =>
      cases s with
      | opening => cases h
      | _ => rfl
    | _ => cases h

end TaskState

namespace World

/-- The number of the pipeline. -/
def number (w : World) : Option Nat :=
  w.pipeline.map Pipeline.publisher

/-- Whether a task is there and has not come to its end. -/
def isLive (w : World) (t : TaskId) : Bool :=
  match w.stateOf t with
  | some (.running ..) => true
  | some (.ended ..) | none => false

/-- Nobody else has the roster. -/
def Alone (w : World) (id : TaskId) : Prop :=
  ∀ t state, w.stateOf t = some state → state.isInside = true → t = id

section Views

variable {w w' : World} {id t : TaskId} {state : TaskState} {roster : Roster}

theorem isLive_of_running {activity : Activity} {wait : Wait}
    (h : w.stateOf t = some (.running activity wait)) : w.isLive t = true := by
  unfold isLive
  rw [h]

theorem isLive_of_ended {reply : Reply} {n : Nat} (h : w.stateOf t = some (.ended reply n)) :
    w.isLive t = false := by
  unfold isLive
  rw [h]

theorem isLive_congr (h : w'.stateOf t = w.stateOf t) : w'.isLive t = w.isLive t := by
  unfold isLive
  rw [h]

/-- A task that is there has either not come to its end or it has. -/
theorem ended_of_stateOf (h : w.stateOf t = some state) :
    (w.ended t).isSome = !w.isLive t := by
  obtain ⟨⟨config, watch, state⟩, hget, rfl⟩ := Option.map_eq_some_iff.mp h
  unfold isLive ended
  rw [h, hget]
  cases state with
  | running => rfl
  | ended reply n => cases reply <;> rfl

theorem not_live_of_ended (h : (w.ended t).isSome = true) : w.isLive t = false := by
  cases hstate : w.stateOf t with
  | none =>
    unfold isLive
    rw [hstate]
  | some state =>
    rw [ended_of_stateOf hstate, Bool.not_eq_true'] at h
    exact h

theorem number_of_pipeline (h : w'.pipeline = w.pipeline) : w'.number = w.number :=
  congrArg (Option.map Pipeline.publisher) h

theorem roster_of_pipeline (h : w'.pipeline = w.pipeline) : w'.roster = w.roster := by
  unfold World.roster
  rw [h]

theorem isSome_number (w : World) : w.number.isSome = w.pipeline.isSome :=
  Option.isSome_map

@[simp]
theorem number_setRoster (w : World) (roster : Roster) :
    (w.setRoster roster).number = w.number := by
  show (w.pipeline.map _).map Pipeline.publisher = _
  rw [Option.map_map]
  rfl

/-- A roster is put back, where there is a pipeline to put it back to. -/
theorem roster_setRoster (missing : w.pipeline = none → roster = .empty) :
    (w.setRoster roster).roster = roster := by
  unfold World.roster setRoster
  cases hpipeline : w.pipeline with
  | none => exact (missing hpipeline).symm
  | some pipeline => rfl

theorem roster_of_missing (missing : w.pipeline = none) : w.roster = .empty := by
  unfold World.roster
  rw [missing]
  rfl

/-- Who may enter finds nobody else inside. -/
theorem alone_of_mayEnter {activity : Activity} {wait : Wait} (room : activity.room? = some .roster)
    (h : w.mayEnter id activity wait = true) : w.Alone id := by
  intro t state hstate hinside
  obtain ⟨task, hget, rfl⟩ := Option.map_eq_some_iff.mp hstate
  obtain ⟨config, watch, state⟩ := task
  cases state with
  | ended => cases hinside
  | running theirs theirWait =>
    -- whoever is inside is among those that were looked at, and it is the same room
    have hroom : theirs.room? = some .roster ∧ theirs.isInside = true := by
      cases theirs with
      | starting s => exact ⟨rfl, hinside⟩
      | stopping s shutDown => exact ⟨rfl, hinside⟩
      | _ => cases hinside
    have hactive : (t, theirs, theirWait) ∈ w.activities :=
      List.mem_filterMap.mpr ⟨_, Table.mem_entries_of_get? hget, rfl⟩
    have hlook := List.all_eq_true.mp h _ hactive
    simp only [room, hroom.1, hroom.2, bne_self_eq_false, Bool.or_false, Bool.true_or,
      Bool.not_true, beq_iff_eq] at hlook
    exact hlook

theorem answer_enter {task : Task} {activity : Activity} {wait : Wait} {w₁ : World}
    {given : Option Unit} (room : activity.room? = some .roster)
    (h : w.answer? id task activity wait .enter = some (w₁, given)) :
    w₁ = w ∧ given = some () ∧ w.Alone id := by
  simp only [World.answer?] at h
  split at h
  · next hmay =>
    cases h
    exact ⟨rfl, rfl, alone_of_mayEnter room hmay⟩
  · cases h

end Views

/-! ## Turns -/

/-- What happens to the tasks in a scene in which at most one goes on. -/
structure Passage (who : Option TaskId) (w w' : World) : Prop where
  fresh : w.fresh ≤ w'.fresh
  others : ∀ t, t < w.fresh → who ≠ some t → w'.stateOf t = w.stateOf t
  arrivals : ∀ t state, w.fresh ≤ t → w'.stateOf t = some state →
    t < w'.fresh ∧ state.isNew = true

/-- A task goes on from one state to another without having had the roster or getting it. -/
structure Beside (w : World) (old new : TaskState) : Prop where
  before : old.isCommand = false
  after : new.isInside = false
  loops : old.isLoop = true → new.isLoop = true
  built : new.isStart = true → w.pipeline.isSome = true

/-- A task that runs no loop goes on, and not to a start. -/
theorem Beside.of_plain {w : World} {old new : TaskState} (before : old.isCommand = false)
    (after : new.isInside = false) (loop : old.isLoop = false) (start : new.isStart = false) :
    w.Beside old new where
  before
  after
  loops h := Bool.noConfusion (loop.symm.trans h)
  built h := Bool.noConfusion (start.symm.trans h)

/-- A task that may run a loop goes on with it or ends. -/
theorem Beside.of_loop {w : World} {old new : TaskState} (before : old.isCommand = false)
    (after : new.isInside = false) (loop : new.isLoop = true) (start : new.isStart = false) :
    w.Beside old new where
  before
  after
  loops _ := loop
  built h := Bool.noConfusion (start.symm.trans h)

/-- What comes of looking over a roster from which the loops that have ended are struck off. -/
inductive Surveyed (roster : Roster) : TaskState → Prop
  | complete {n : Nat} (all : ∀ role, (roster.loop role).isSome = true) :
      Surveyed roster (.ended (.startFailure .alreadyRunning) n)
  | incomplete {s : Starting} {wait : Wait} (missing : ∃ role, roster.loop role = none)
      (inside : s.isInside = true) (fits : s.Fits roster) :
      Surveyed roster (.running (.starting s) wait)

/-- What comes of making sure of the broker. -/
inductive Prepared (fits : Starting → Prop) : TaskState → Prop
  | ready {s : Starting} {wait : Wait} (inside : s.isInside = true) (next : fits s) :
      Prepared fits (.running (.starting s) wait)
  | failed {reply : Reply} {n : Nat} (failure : reply ≠ .done)
      (other : reply ≠ .startFailure .alreadyRunning) : Prepared fits (.ended reply n)

/-- The loops that a start sets going. -/
def launched (w : World) (publisher : Bool) (consumer : Option StreamId) : Roster :=
  ⟨(w.launch publisher consumer).1.1, (w.launch publisher consumer).1.2⟩

/-- A loop is there that was not, with a task and a signal that are new. -/
structure Arrived (w : World) (loop : Launched) (w' : World) : Prop where
  task : w.fresh ≤ loop.task
  above : w.fresh ≤ loop.signal
  below : loop.signal < w'.fresh
  state : ∃ state, w'.stateOf loop.task = some state ∧ state.isLoop = true
  live : w'.isLive loop.task = true

/-- Loops have been set going. -/
structure SetGoing (w : World) (loops : Roster) (w' : World) : Prop where
  arrived : ∀ role loop, loops.loop role = some loop → w.Arrived loop w'
  distinct : ∀ role role' loop loop', loops.loop role = some loop →
    loops.loop role' = some loop' → loop.signal = loop'.signal → role = role'

/-- What one turn of a task does to the pipeline and to the signals of the loops. -/
inductive Deed (w : World) (id : TaskId) (w' : World) : (old new : TaskState) → Prop
  /-- A task does something else. -/
  | aside {old new : TaskState} (beside : w.Beside old new) (same : w'.pipeline = w.pipeline) :
      Deed w id w' old new
  /-- A new pipeline takes the place of the one before. -/
  | builds {omitted : List Part} {wait : Wait} {reply : Reply} {n k : Nat} (alone : w.Alone id)
      (number : w'.number = some k) (roster : w'.roster = .empty) (above : w.fresh ≤ k)
      (below : k < w'.fresh) :
      Deed w id w' (.running (.building omitted) wait) (.ended reply n)
  /-- A start gets the roster, strikes off the loops that have ended and sees which are missing. -/
  | surveys {wait : Wait} {new : TaskState} (alone : w.Alone id) (number : w'.number = w.number)
      (roster : w'.roster = (Roster.reapAll w.ended w.roster).1)
      (outcome : Surveyed w'.roster new) :
      Deed w id w' (.running (.starting .opening) wait) new
  /-- A start makes sure of the broker. -/
  | prepares {s : Starting} {wait : Wait} {new : TaskState}
      (prepares : s = .probing ∨ s = .subscribing) (same : w'.pipeline = w.pipeline)
      (outcome : Prepared (fun s' => s.Fits w.roster → s'.Fits w.roster) new) :
      Deed w id w' (.running (.starting s) wait) new
  /-- A start sets the missing loops going. -/
  | launches {publisher : Bool} {consumer : Option StreamId} {wait : Wait} {n : Nat}
      (number : w'.number = w.number)
      (roster : w'.roster = (w.launched publisher consumer).over w.roster)
      (loops : w.SetGoing (w.launched publisher consumer) w') :
      Deed w id w' (.running (.starting (.launching publisher consumer)) wait) (.ended .done n)
  /-- A stop gets the roster and takes the chosen loops off it. -/
  | chooses {choice : StopChoice} {shutDown : Bool} {wait wait' : Wait} (alone : w.Alone id)
      (number : w'.number = w.number) (roster : w'.roster = choice.spared w.roster)
      (signals : w'.signals = w.signals) :
      Deed w id w' (.running (.stopping (.opening choice) shutDown) wait)
        (.running (.stopping (.halting (choice.chosen w.roster)) shutDown) wait')
  /-- A stop tells the loops that it holds to stop, or has seen one of them end. -/
  | stops {s : Stopping} {shutDown : Bool} {wait : Wait} {new : TaskState}
      (inside : s.isInside = true) (same : w'.pipeline = w.pipeline)
      (spared : ∀ signal, (∀ role loop, s.held role = some loop → loop.signal ≠ signal) →
        w'.signal signal = w.signal signal)
      (kept : ∀ role loop, new.held role = some loop → s.held role = some loop)
      (dropped : ∀ role loop, s.held role = some loop →
        new.held role = some loop ∨ (w.ended loop.task).isSome = true)
      (next : (∃ s' wait', new = .running (.stopping s' shutDown) wait' ∧ s'.isInside = true) ∨
        ∃ n, new = .ended .done n) :
      Deed w id w' (.running (.stopping s shutDown) wait) new

/-- A task has taken a turn from one state to another. -/
structure Turned (w : World) (id : TaskId) (old new : TaskState) (w' : World) : Prop where
  was : w.stateOf id = some old
  now : w'.stateOf id = some new
  live : w.isLive id = true
  passage : Passage (some id) w w'
  deed : Deed w id w' old new
  undisturbed : old.writes = false → Undisturbed w w'

section Turned

variable {w w' : World} {t : TaskId} {old new : TaskState} {wait : Wait}

/-- The turn in which a start gets the roster. -/
theorem Turned.opens (turned : w.Turned t old new w')
    (opens : old = .running (.starting .opening) wait) :
    w.Alone t ∧ w'.number = w.number ∧ w'.roster = (Roster.reapAll w.ended w.roster).1 ∧
      Surveyed w'.roster new := by
  cases turned.deed with
  | aside beside same =>
    subst opens
    cases beside.before
  | surveys alone number roster outcome => exact ⟨alone, number, roster, outcome⟩
  | prepares prepares =>
    cases opens
    rcases prepares with h | h <;> cases h
  | _ => cases opens

/-- The turns of a start that has the roster. -/
theorem Turned.starts {s : Starting} (turned : w.Turned t old new w')
    (starts : old = .running (.starting s) wait) (inside : s.isInside = true) :
    ((s = .probing ∨ s = .subscribing) ∧ w'.pipeline = w.pipeline ∧
        ((∃ s' wait', new = .running (.starting s') wait' ∧ s'.isInside = true) ∨
          ∃ reply n, new = .ended reply n ∧ reply ≠ .done ∧
            reply ≠ .startFailure .alreadyRunning)) ∨
      ∃ publisher consumer n, s = .launching publisher consumer ∧ new = .ended .done n ∧
        w.SetGoing (w.launched publisher consumer) w' := by
  cases turned.deed with
  | aside beside same =>
    subst starts
    cases beside.before
  | surveys =>
    cases starts
    cases inside
  | prepares prepares same outcome =>
    cases starts
    refine .inl ⟨prepares, same, ?_⟩
    cases outcome with
    | ready inside next => exact .inl ⟨_, _, rfl, inside⟩
    | failed failure other => exact .inr ⟨_, _, rfl, failure, other⟩
  | launches number roster loops =>
    cases starts
    exact .inr ⟨_, _, _, rfl, rfl, loops⟩
  | _ => cases starts

/-- The turn in which a stop gets the roster. -/
theorem Turned.chooses {choice : StopChoice} {shutDown : Bool} (turned : w.Turned t old new w')
    (opens : old = .running (.stopping (.opening choice) shutDown) wait) :
    w'.number = w.number ∧ w'.roster = choice.spared w.roster ∧ w'.signals = w.signals ∧
      ∃ wait', new = .running (.stopping (.halting (choice.chosen w.roster)) shutDown) wait' := by
  cases turned.deed with
  | aside beside same =>
    subst opens
    cases beside.before
  | chooses alone number roster signals =>
    cases opens
    exact ⟨number, roster, signals, _, rfl⟩
  | stops inside =>
    cases opens
    cases inside
  | _ => cases opens

/-- The turns of a stop that has the roster. -/
theorem Turned.stops {s : Stopping} {shutDown : Bool} (turned : w.Turned t old new w')
    (stops : old = .running (.stopping s shutDown) wait) (inside : s.isInside = true) :
    w'.pipeline = w.pipeline ∧
      (∀ signal, (∀ role loop, s.held role = some loop → loop.signal ≠ signal) →
        w'.signal signal = w.signal signal) ∧
      (∀ role loop, new.held role = some loop → s.held role = some loop) ∧
      (∀ role loop, s.held role = some loop →
        new.held role = some loop ∨ (w.ended loop.task).isSome = true) ∧
      ((∃ s' wait', new = .running (.stopping s' shutDown) wait' ∧ s'.isInside = true) ∨
        ∃ n, new = .ended .done n) := by
  cases turned.deed with
  | aside beside same =>
    subst stops
    cases beside.before
  | chooses =>
    cases stops
    cases inside
  | stops inside same spared kept dropped next =>
    cases stops
    exact ⟨same, spared, kept, dropped, next⟩
  | _ => cases stops

end Turned

section Passage

variable {who : Option TaskId} {writes : Bool} {w w' w₁ w₂ : World} {id : TaskId}
  {old new : TaskState}

theorem Passage.refl (who : Option TaskId) (w : World)
    (numbered : ∀ t, w.fresh ≤ t → w.stateOf t = none) : Passage who w w where
  fresh := Nat.le_refl _
  others _ _ _ := rfl
  arrivals t state ht hstate := by
    rw [numbered t ht] at hstate
    cases hstate

theorem Passage.trans (h : Passage none w w₁) (h' : Passage none w₁ w₂) : Passage none w w₂ where
  fresh := Nat.le_trans h.fresh h'.fresh
  others t ht hne := (h'.others t (Nat.lt_of_lt_of_le ht h.fresh) hne).trans (h.others t ht hne)
  arrivals t state ht hstate := by
    rcases Nat.lt_or_ge t w₁.fresh with hlt | hge
    · rw [h'.others t hlt nofun] at hstate
      exact ⟨Nat.lt_of_lt_of_le hlt h'.fresh, (h.arrivals t state ht hstate).2⟩
    · exact h'.arrivals t state hge hstate

/-- No task has gone on. -/
theorem passage_of_states (numbered : ∀ t, w.fresh ≤ t → w.stateOf t = none)
    (states : ∀ t, w₁.stateOf t = w.stateOf t) (fresh : w.fresh ≤ w₁.fresh) :
    Passage none w w₁ where
  fresh
  others t _ _ := states t
  arrivals t state ht hstate := by
    rw [states t, numbered t ht] at hstate
    cases hstate

theorem Adds.passage {f : TaskId} {state : TaskState} (adds : Adds w w₁ f state)
    (numbered : ∀ t, w.fresh ≤ t → w.stateOf t = none) (new : state.isNew = true) :
    Passage none w w₁ where
  fresh := Nat.le_trans adds.new (Nat.le_of_lt adds.fresh)
  others t ht _ := by
    rw [adds.states t, if_neg]
    exact Nat.ne_of_gt (Nat.lt_of_lt_of_le ht adds.new)
  arrivals t other ht hother := by
    rw [adds.states t] at hother
    split at hother
    · next heq =>
      cases hother
      exact ⟨heq ▸ adds.fresh, new⟩
    · rw [numbered t ht] at hother
      cases hother

theorem Passage.numbered (h : Passage who w w') (t : TaskId) (ht : w'.fresh ≤ t) :
    w'.stateOf t = none := by
  cases hstate : w'.stateOf t with
  | none => rfl
  | some state =>
    have hlt := (h.arrivals t state (Nat.le_trans h.fresh ht) hstate).1
    exact absurd ht (Nat.not_le_of_lt hlt)

/-- After that a task goes on. -/
theorem Passage.goes (h : Passage none w w₁) (goes : Goes id old new w₁ w') (there : id < w.fresh) :
    Passage (some id) w w' where
  fresh := Nat.le_trans h.fresh goes.fresh
  others t ht hne := by
    rw [goes.states t, if_neg fun heq => hne (congrArg some heq)]
    exact h.others t ht nofun
  arrivals t state ht hstate := by
    rw [goes.states t, if_neg (Nat.ne_of_lt (Nat.lt_of_lt_of_le there ht))] at hstate
    obtain ⟨hlt, hnew⟩ := h.arrivals t state ht hstate
    exact ⟨Nat.lt_of_lt_of_le hlt goes.fresh, hnew⟩

end Passage

/-! ## Setting loops going -/

section Launch

variable {w w₁ w' : World} {publisher : Bool} {consumer : Option StreamId}

/-- A loop is set going. -/
structure Starts (w : World) (loop : Launched) (activity : Activity) (w₁ : World) : Prop where
  adds : Adds w w₁ loop.task (.running activity ⟨loop.task, none, .none⟩)
  standing : w₁.pipeline = w.pipeline
  undisturbed : Undisturbed w w₁
  signal : w.fresh ≤ loop.signal
  task : loop.task < w₁.fresh
  above : loop.signal < loop.task

theorem starts_launchLoop (w : World) (pipeline : Pipeline) (activity : Activity) :
    Starts w (launch.launchLoop w pipeline activity).1 activity
      (launch.launchLoop w pipeline activity).2 where
  adds := w.adds_launchLoop pipeline activity
  standing := rfl
  undisturbed := .of_eq rfl rfl
  signal := Nat.le_refl _
  task := Nat.lt_succ_self _
  above := Nat.lt_succ_self _

/-- A start sets a publisher's loop going, or not, and then a consumer's, or not. -/
theorem launched_cases (built : w.pipeline.isSome = true) (publisher : Bool)
    (consumer : Option StreamId) :
    ∃ w₁, ((publisher = false ∧ (w.launched publisher consumer).publisher = none ∧ w₁ = w) ∨
        ∃ loop n, publisher = true ∧ (w.launched publisher consumer).publisher = some loop ∧
          Starts w loop (.publishing n .starting) w₁) ∧
      ((consumer = none ∧ (w.launched publisher consumer).consumer = none ∧
          (w.launch publisher consumer).2 = w₁) ∨
        ∃ loop stream, consumer = some stream ∧
          (w.launched publisher consumer).consumer = some loop ∧
          Starts w₁ loop (.consuming (.starting stream)) (w.launch publisher consumer).2) := by
  obtain ⟨pipeline, hpipeline⟩ := Option.isSome_iff_exists.mp built
  have hfirst := w.starts_launchLoop pipeline (.publishing pipeline.publisher .starting)
  unfold launched launch
  simp only [hpipeline]
  cases publisher with
  | false =>
    refine ⟨w, .inl ⟨rfl, ?_, rfl⟩, ?_⟩
    · cases consumer <;> rfl
    · cases consumer with
      | none => exact .inl ⟨rfl, rfl, rfl⟩
      | some stream => exact .inr ⟨_, stream, rfl, rfl, w.starts_launchLoop pipeline _⟩
  | true =>
    refine ⟨_, .inr ⟨_, _, rfl, ?_, hfirst⟩, ?_⟩
    · cases consumer <;> rfl
    · cases consumer with
      | none => exact .inl ⟨rfl, rfl, rfl⟩
      | some stream => exact .inr ⟨_, stream, rfl, rfl, starts_launchLoop _ pipeline _⟩

theorem Starts.numbered {loop : Launched} {activity : Activity}
    (h : Starts w loop activity w₁) (numbered : ∀ t, w.fresh ≤ t → w.stateOf t = none) (t : TaskId)
    (ht : w₁.fresh ≤ t) : w₁.stateOf t = none := by
  rw [h.adds.states t, if_neg (Nat.ne_of_lt (Nat.lt_of_lt_of_le h.task ht))]
  exact numbered t (Nat.le_trans h.adds.new (Nat.le_trans (Nat.le_of_lt h.task) ht))

theorem Starts.passage {loop : Launched} {activity : Activity} (h : Starts w loop activity w₁)
    (numbered : ∀ t, w.fresh ≤ t → w.stateOf t = none)
    (new : (TaskState.running activity ⟨loop.task, none, .none⟩).isNew = true) :
    Passage none w w₁ :=
  h.adds.passage numbered new

theorem Starts.arrived {loop : Launched} {activity : Activity} (h : Starts w loop activity w₁)
    (runs : (TaskState.running activity ⟨loop.task, none, .none⟩).isLoop = true) :
    w.Arrived loop w₁ where
  task := h.adds.new
  above := h.signal
  below := Nat.lt_trans h.above h.task
  state := ⟨_, (h.adds.states _).trans (if_pos rfl), runs⟩
  live := isLive_of_running ((h.adds.states _).trans (if_pos rfl))

theorem Arrived.earlier {loop : Launched} (h : w₁.Arrived loop w') (fresh : w.fresh ≤ w₁.fresh) :
    w.Arrived loop w' :=
  { h with task := Nat.le_trans fresh h.task, above := Nat.le_trans fresh h.above }

theorem Arrived.later {loop : Launched} (h : w.Arrived loop w₁) (there : loop.task < w₁.fresh)
    (later : Passage none w₁ w') : w.Arrived loop w' where
  task := h.task
  above := h.above
  below := Nat.lt_of_lt_of_le h.below later.fresh
  state := by
    rw [later.others loop.task there nofun]
    exact h.state
  live := by
    rw [isLive_congr (later.others loop.task there nofun)]
    exact h.live

/-- A start that fits the roster sets going what is missing on it. -/
theorem isSome_launched (built : w.pipeline.isSome = true)
    (fits : (Starting.launching publisher consumer).Fits w.roster) (role : Role) :
    ((w.launched publisher consumer).loop role).isSome = (w.roster.loop role).isNone := by
  obtain ⟨w₁, hfirst, hsecond⟩ := w.launched_cases built publisher consumer
  obtain ⟨hpublisher, hconsumer⟩ := fits
  cases role with
  | publisher =>
    show (w.launched publisher consumer).publisher.isSome = w.roster.publisher.isNone
    rw [← hpublisher]
    rcases hfirst with ⟨rfl, hloop, -⟩ | ⟨loop, n, rfl, hloop, -⟩ <;> rw [hloop] <;> rfl
  | consumer =>
    show (w.launched publisher consumer).consumer.isSome = w.roster.consumer.isNone
    rw [← hconsumer]
    rcases hsecond with ⟨rfl, hloop, -⟩ | ⟨loop, stream, rfl, hloop, -⟩ <;> rw [hloop] <;> rfl

/-- **What comes of setting loops going.** -/
theorem launch_spec (numbered : ∀ t, w.fresh ≤ t → w.stateOf t = none) (publisher : Bool)
    (consumer : Option StreamId) :
    Passage none w (w.launch publisher consumer).2 ∧
      (w.launch publisher consumer).2.pipeline = w.pipeline ∧
      Undisturbed w (w.launch publisher consumer).2 ∧
      w.SetGoing (w.launched publisher consumer) (w.launch publisher consumer).2 := by
  cases hbuilt : w.pipeline with
  | none =>
    have hworld : (w.launch publisher consumer).2 = w := by
      simp only [launch, hbuilt]
    have hloops (role : Role) : (w.launched publisher consumer).loop role = none := by
      simp only [launched, launch, hbuilt]
      cases role <;> rfl
    rw [hworld]
    refine ⟨.refl none w numbered, hbuilt, .refl w, fun role loop h => ?_, fun role _ _ _ h => ?_⟩
    all_goals
      rw [hloops] at h
      cases h
  | some pipeline =>
    have hsome : w.pipeline.isSome = true := Option.isSome_iff_exists.mpr ⟨pipeline, hbuilt⟩
    obtain ⟨w₁, hfirst, hsecond⟩ := w.launched_cases hsome publisher consumer
    generalize w.launched publisher consumer = loops at hfirst hsecond
    generalize (w.launch publisher consumer).2 = w' at hsecond
    have hone : Passage none w w₁ ∧ w₁.pipeline = w.pipeline ∧ Undisturbed w w₁ := by
      rcases hfirst with ⟨-, -, rfl⟩ | ⟨loop, n, -, -, hstarts⟩
      · exact ⟨.refl none _ numbered, rfl, .refl _⟩
      · exact ⟨hstarts.passage numbered rfl, hstarts.standing, hstarts.undisturbed⟩
    have hnumbered := hone.1.numbered
    have htwo : Passage none w₁ w' ∧ w'.pipeline = w₁.pipeline ∧ Undisturbed w₁ w' := by
      rcases hsecond with ⟨-, -, rfl⟩ | ⟨loop, stream, -, -, hstarts⟩
      · exact ⟨.refl none _ hnumbered, rfl, .refl _⟩
      · exact ⟨hstarts.passage hnumbered rfl, hstarts.standing, hstarts.undisturbed⟩
    have hpublisher (loop : Launched) (hloop : loops.loop .publisher = some loop) :
        loop.signal < w₁.fresh ∧ w.Arrived loop w' := by
      rcases hfirst with ⟨-, hnone, -⟩ | ⟨loop', n, -, hsome, hstarts⟩
      · cases hnone.symm.trans hloop
      · cases hsome.symm.trans hloop
        have harrived := hstarts.arrived rfl
        exact ⟨harrived.below, harrived.later hstarts.task htwo.1⟩
    have hconsumer (loop : Launched) (hloop : loops.loop .consumer = some loop) :
        w₁.Arrived loop w' := by
      rcases hsecond with ⟨-, hnone, -⟩ | ⟨loop', n, -, hsome, hstarts⟩
      · cases hnone.symm.trans hloop
      · cases hsome.symm.trans hloop
        exact hstarts.arrived rfl
    -- the second loop got its numbers after the first
    have hapart (loop loop' : Launched) (hloop : loops.loop .publisher = some loop)
        (hloop' : loops.loop .consumer = some loop') : loop.signal ≠ loop'.signal :=
      Nat.ne_of_lt (Nat.lt_of_lt_of_le (hpublisher loop hloop).1 (hconsumer loop' hloop').above)
    refine ⟨hone.1.trans htwo.1, htwo.2.1.trans (hone.2.1.trans hbuilt), hone.2.2.trans htwo.2.2,
      fun role loop hloop => ?_, fun role role' loop loop' hloop hloop' hsignal => ?_⟩
    · cases role with
      | publisher => exact (hpublisher loop hloop).2
      | consumer => exact (hconsumer loop hloop).earlier hone.1.fresh
    · cases role <;> cases role'
      · rfl
      · exact absurd hsignal (hapart loop loop' hloop hloop')
      · exact absurd hsignal.symm (hapart loop' loop hloop' hloop)
      · rfl

end Launch

end World

end Rehearsal

end Outbox
