import Outbox.Proofs.OneLoopEach
import Outbox.Proofs.Rehearsal.Onward
/-!
# `Proofs.FailedStart` — a start that fails changes nothing

A start makes sure of the broker before it sets a loop going, and it subscribes last. So it can fail
only while it has done nothing yet but strike off loops that had ended: no loop, no signal, no
subscription and no backlog is touched. What it has left alone is there for the next start, which
sets going just what is missing, with the whole backlog in the consumer's subscription.
-/

namespace Outbox

/-- At most so many turns are left to a start, if nothing fails. -/
def Starting.turnsLeft : Starting → Nat
  | .opening => 4
  | .probing => 3
  | .subscribing => 2
  | .launching .. => 1

/-- A start that looks for what is missing goes on to make sure of the broker. -/
theorem Starting.prepares_of_survey {ended : TaskId → Option Ending} {roster : Roster}
    {s : Starting} (h : (survey ended roster).2.progress = .waiting s) :
    s = .probing ∨ s = .subscribing := by
  unfold survey at h
  generalize roster.reapAll ended = reaped at h
  obtain ⟨⟨publisher, consumer⟩, notices⟩ := reaped
  cases publisher <;> cases consumer <;> cases h
  · exact .inl rfl
  · exact .inl rfl
  · exact .inr rfl

/-- A start that has reached the broker subscribes if the consumer's loop is missing. -/
theorem Starting.resume_probing (c : Config) (ended : TaskId → Option Ending) (roster : Roster) :
    ∃ s, (s = .subscribing ∨ s = .launching true none) ∧
      Starting.probing.resume c ended roster (Except.ok ()) = (roster, .wait s) := by
  obtain ⟨publisher, consumer⟩ := roster
  cases consumer with
  | none => exact ⟨_, .inl rfl, rfl⟩
  | some loop => exact ⟨_, .inr rfl, rfl⟩

namespace Rehearsal

/-! ## What is to be shown -/

/-- Whether a loop is on the roster and has not ended. -/
def World.isRunning (w : World) (role : Role) : Bool :=
  Roster.isRunning w.ended (w.roster.loop role)

/-- In a scene a task changes nothing but how far it is itself, and what the pipeline has noted of
loops that have ended. -/
structure Scene.LeavesAlone (scene : Scene) (t : TaskId) : Prop where
  launches : scene.launches = []
  others : ∀ u, u ≠ t → scene.after.stateOf u = scene.before.stateOf u
  signals : scene.after.signals = scene.before.signals
  running : ∀ role, scene.after.isRunning role = scene.before.isRunning role
  broker : scene.after.broker = scene.before.broker
  store : scene.after.store = scene.before.store
  history : scene.after.history = scene.before.history

/-- The scenes in which a task takes a turn. -/
def ownTurns (t : TaskId) (scenes : List Scene) : List Scene :=
  scenes.filter fun scene => scene.taker? = some t

/-- Whether the broker can be reached, and no script gets in the way of a call to it. -/
def World.serves (w : World) (wait : Wait) : Bool :=
  w.broker.reachable && !wait.interference.crash &&
    (wait.interference.fault >>= World.brokerFault).isNone

/-- Whether the broker serves a task, if it is the one that takes a turn in a scene. -/
def Scene.serves (scene : Scene) (t : TaskId) : Bool :=
  match scene.happening, scene.before.stateOf t with
  | .turn task, some (.running _ wait) => task != t || scene.before.serves wait
  | _, _ => true

theorem Scene.serves_turn {w w' : World} {t : TaskId} {activity : Activity} {wait : Wait}
    (serves : Scene.serves ⟨w, .turn t, w'⟩ t = true)
    (was : w.stateOf t = some (.running activity wait)) : w.serves wait = true := by
  simpa [Scene.serves, was] using serves

/-- In a scene a task subscribes to the queue of its settings, and what waits in the backlog of the
queue, in its order, is what the new subscription has to offer. -/
structure Scene.Subscribes (scene : Scene) (t : TaskId) (queue : String) (stream : StreamId) :
    Prop where
  turn : scene.taker? = some t
  asked : ∃ task, scene.before.tasks.get? t = some task ∧ queue = task.config.receiptQueue
  fresh : stream = scene.before.broker.nextStream
  moved : scene.after.broker.streams.get? stream =
    some ⟨queue, (scene.before.broker.backlog.getD queue []).map .ok⟩
  emptied : scene.after.broker.backlog.getD queue [] = []
  added : scene.after.broker.subscribers.getD queue [] =
    scene.before.broker.subscribers.getD queue [] ++ [stream]

/-- What comes of a start that the broker serves. `earlier` are the loops that were set going before
it got the roster, and `since` is a world before that. -/
structure BringsUp (earlier : List Launch) (since : World) (call : List Scene)
    (entry last : Scene) (t : TaskId) : Prop where
  few : (ownTurns t call).length ≤ 4
  /-- As long as it has not come to its end it can take the next turn once its call is through. -/
  goesOn : last.after.isLive t = true → (ownTurns t call).length < 4 ∧
    ∃ task s wait, last.after.tasks.get? t = some task ∧ task.state = .running (.starting s) wait ∧
      ∀ w : World, w.tasks.get? t = some task → w.isDue wait = true → (w.turn? t).isSome = true
  /-- At its end either the missing loops are set going or none was missing. -/
  ends : last.after.isLive t = false → ∃ reply n,
    last.after.stateOf t = some (.ended reply n) ∧
      (reply = .done ∨ reply = .startFailure .alreadyRunning) ∧
      StartsMissing earlier call entry last t reply
  /-- A consumer's loop that was missing reads from a subscription that began with the backlog; and
  that begins with the backlog of before, unless somebody has subscribed since. -/
  subscribes : last.after.isLive t = false →
    ¬ entry.before.Runs earlier entry.before.number .consumer →
      ∃ scene ∈ call, ∃ queue stream, scene.Subscribes t queue stream ∧
        (∃ l ∈ launchesBy t call, l.role = .consumer ∧ ∃ wait, last.after.stateOf l.loop.task =
          some (.running (.consuming (.starting stream)) wait)) ∧
        (scene.before.broker.nextStream = since.broker.nextStream →
          since.broker.backlog.getD queue [] <+: scene.before.broker.backlog.getD queue [])

namespace World

/-! ## Turns that leave things alone -/

/-- A task goes on, and nothing else changes but that loops that have ended may be struck off. -/
structure Quiet (w : World) (t : TaskId) (new : TaskState) (w' : World) : Prop where
  states : ∀ u, w'.stateOf u = if t = u then some new else w.stateOf u
  broker : w'.broker = w.broker
  store : w'.store = w.store
  history : w'.history = w.history
  signals : w'.signals = w.signals
  roster : w'.roster = w.roster ∨ w'.roster = (Roster.reapAll w.ended w.roster).1

section Quiet

variable {w w' w₁ : World} {t u : TaskId} {old new : TaskState} {role : Role}

theorem ended_congr (h : w'.stateOf u = w.stateOf u) : w'.ended u = w.ended u := by
  unfold stateOf at h
  unfold ended
  cases hget : w.tasks.get? u with
  | none =>
    rw [hget] at h
    rw [Option.map_eq_none_iff.mp h]
  | some task =>
    rw [hget] at h
    obtain ⟨task', hget', hstate⟩ := Option.map_eq_some_iff.mp h
    obtain ⟨c, watch, state⟩ := task
    obtain ⟨c', watch', state'⟩ := task'
    cases hstate
    rw [hget']
    rfl

/-- To strike off loops that have ended makes no difference to which loops run. -/
theorem Quiet.isRunning (quiet : Quiet w t new w')
    (listed : ∀ role loop, w.roster.loop role = some loop → loop.task ≠ t) (role : Role) :
    w'.isRunning role = w.isRunning role := by
  have hended {loop : Launched} (hloop : w.roster.loop role = some loop) :
      w'.ended loop.task = w.ended loop.task :=
    ended_congr ((quiet.states _).trans (if_neg (listed role loop hloop).symm))
  unfold World.isRunning
  cases hloop : w.roster.loop role with
  | none =>
    rcases quiet.roster with h | h
    · rw [h, hloop]
      rfl
    · rw [h, Roster.loop_reapAll, hloop]
      rfl
  | some loop =>
    rcases quiet.roster with h | h
    · rw [h, hloop]
      exact congrArg Option.isNone (hended hloop)
    · rw [h, Roster.loop_reapAll, hloop]
      cases hdone : w.ended loop.task with
      | none => simp [Option.filter, hdone, Roster.isRunning, hended hloop]
      | some ending => simp [Option.filter, hdone, Roster.isRunning]

theorem broker_arrive (w : World) (id : TaskId) (r : Request) :
    (w.arrive id r).2.broker = w.broker := by
  cases hr : target? r with
  | some target =>
    simp only [arrive, takeFresh, hr, takeInterference]
    split <;> rfl
  | none =>
    simp only [arrive, takeFresh, hr]
    cases r <;> rfl

/-- A task that reads from no subscription goes on without the broker. -/
theorem broker_setState (was : w.stateOf t = some old) (free : old.stream? = none)
    (new : TaskState) : (w.setState t new).broker = w.broker := by
  obtain ⟨task, hget, rfl⟩ := Option.map_eq_some_iff.mp was
  rw [w.setState_of_get hget]
  exact Broker.giveUp_of_same _ (.inl free)

theorem broker_await (was : w.stateOf t = some old) (free : old.stream? = none)
    (activity : Activity) : (w.await t activity).broker = w.broker := by
  unfold await
  split
  · rfl
  · next r _ =>
    have hwas : (w.arrive t r).2.stateOf t = some old := by
      unfold stateOf at was ⊢
      rwa [w.tasks_arrive t r]
    exact (broker_setState hwas free _).trans (w.broker_arrive t r)

theorem broker_settle {σ α : Type} (was : w.stateOf t = some old) (free : old.stream? = none)
    (wrap : σ → Activity) (reply : α → Reply) (turn : Turn σ α) :
    (w.settle t wrap reply turn).broker = w.broker := by
  unfold settle
  split
  · exact broker_await (w := w.tell turn.notices) was free _
  · exact broker_setState (w := w.tell turn.notices) was free _

/-- A task goes on that reads from no subscription. -/
theorem Goes.quiet (goes : Goes t old new w w') (broker : w'.broker = w.broker)
    (standing : w'.standing = w.standing) : Quiet w t new w' where
  states := goes.states
  broker
  store := congrArg Standing.store standing
  history := congrArg Standing.history standing
  signals := congrArg Standing.signals standing
  roster := .inl (roster_of_pipeline (congrArg Standing.pipeline standing))

/-- A start goes on after the roster was put back. -/
theorem settled_starting {wait : Wait} {s : Starting}
    (was : w.stateOf t = some (.running (.starting s) wait)) {roster : Roster}
    (missing : w.pipeline = none → roster = .empty)
    (same : roster = w.roster ∨ roster = (Roster.reapAll w.ended w.roster).1)
    (turn : Starting.StartTurn) :
    (∃ s' wait', turn.progress = .waiting s' ∧
        Quiet w t (.running (.starting s') wait')
          ((w.setRoster roster).settle t .starting .ofStart turn)) ∨
      ∃ outcome, turn.progress = .finished outcome ∧
        Quiet w t (.ended (.ofStart outcome) w.now)
          ((w.setRoster roster).settle t .starting .ofStart turn) := by
  have hstanding := (w.setRoster roster).standing_settle t .starting .ofStart turn
  have hbroker := broker_settle (w := w.setRoster roster) was rfl .starting .ofStart turn
  have hquiet {new : TaskState} (goes : Goes t (.running (.starting s) wait) new w
      ((w.setRoster roster).settle t .starting .ofStart turn)) :
      Quiet w t new ((w.setRoster roster).settle t .starting .ofStart turn) :=
    ⟨goes.states, hbroker, congrArg Standing.store hstanding,
      congrArg Standing.history hstanding, congrArg Standing.signals hstanding,
      (roster_settled t missing .starting .ofStart turn).symm ▸ same⟩
  rcases settled_setRoster was roster waits_starting .ofStart turn with
    ⟨s', wait', hnext, hgoes⟩ | ⟨outcome, hnext, hgoes⟩
  · exact .inl ⟨s', wait', hnext, hquiet hgoes⟩
  · exact .inr ⟨outcome, hnext, hquiet hgoes⟩

end Quiet

/-! ## The turns of a start -/

/-- What one turn of a start can come to. -/
inductive StartTurn (w : World) (t : TaskId) (w' : World) :
    Starting → Wait → TaskState → Prop
  /-- It gets the roster and sees what is missing. -/
  | looks {s : Starting} {wait wait' : Wait} (prepares : s = .probing ∨ s = .subscribing)
      (quiet : Quiet w t (.running (.starting s) wait') w') :
      StartTurn w t w' .opening wait (.running (.starting s) wait')
  | findsAll {wait : Wait} {n : Nat}
      (quiet : Quiet w t (.ended (.startFailure .alreadyRunning) n) w') :
      StartTurn w t w' .opening wait (.ended (.startFailure .alreadyRunning) n)
  /-- The broker does not serve it. -/
  | fails {s : Starting} {wait : Wait} {reply : Reply} {n : Nat}
      (prepares : s = .probing ∨ s = .subscribing) (unserved : w.serves wait = false)
      (quiet : Quiet w t (.ended reply n) w') : StartTurn w t w' s wait (.ended reply n)
  /-- The broker can be reached. -/
  | probes {s : Starting} {wait wait' : Wait} (next : s = .subscribing ∨ s = .launching true none)
      (quiet : Quiet w t (.running (.starting s) wait') w') :
      StartTurn w t w' .probing wait (.running (.starting s) wait')
  | subscribes {publisher : Bool} {wait wait' : Wait} {task : Task} {stream : StreamId}
      (get : w.tasks.get? t = some task)
      (subscribed : w.broker.subscribe task.config.receiptQueue = (.ok stream, w'.broker)) :
      StartTurn w t w' .subscribing wait
        (.running (.starting (.launching publisher (some stream))) wait')
  | launches {publisher : Bool} {consumer : Option StreamId} {wait : Wait} {n : Nat}
      (states : ∀ u, u ≠ t → w'.stateOf u = (w.launch publisher consumer).2.stateOf u) :
      StartTurn w t w' (.launching publisher consumer) wait (.ended .done n)

section StartTurn

variable {w w' w₁ : World} {t : TaskId} {task : Task} {wait : Wait} {s : Starting}

/-- A call of the broker fails only if the broker does not serve it. -/
theorem unserved_of_call {α : Type} {operation : World → Except BrokerFailure α × World}
    {given : Option (Except BrokerFailure α)}
    (down : w.broker.reachable = false → operation w = (.error Broker.unreachableFault, w))
    (up : w.broker.reachable = true → ∃ a, (operation w).1 = .ok a)
    (h : w.call wait brokerFault operation = some (w₁, given)) :
    (w.serves wait = false ∧ w₁ = w ∧ ∀ a, given ≠ some (.ok a)) ∨
      ∃ a, operation w = (.ok a, w₁) ∧ given = some (.ok a) := by
  rcases call_cases h with ⟨hcrash, rfl, rfl⟩ | ⟨f, failure, hfault, hf, rfl, rfl⟩ |
    ⟨answer, hdone, rfl⟩
  · exact .inl ⟨by simp [serves, hcrash], rfl, nofun⟩
  · exact .inl ⟨by simp [serves, hfault, hf], rfl, nofun⟩
  · cases hreachable : w.broker.reachable with
    | false =>
      cases hdone.symm.trans (down hreachable)
      exact .inl ⟨by simp [serves, hreachable], rfl, nofun⟩
    | true =>
      obtain ⟨a, ha⟩ := up hreachable
      rw [hdone] at ha
      cases ha
      exact .inr ⟨a, hdone, rfl⟩

theorem answer_ready {activity : Activity} {given : Option (Except BrokerFailure Unit)}
    (h : w.answer? t task activity wait .ready = some (w₁, given)) :
    w₁ = w ∧ ((w.serves wait = false ∧ ∀ a, given ≠ some (.ok a)) ∨ given = some (.ok ())) := by
  simp only [World.answer?] at h
  have hready (reachable : Bool) (hreachable : w.broker.reachable = reachable) :
      w.broker.ready = if reachable then .ok () else .error Broker.unreachableFault := by
    rw [Broker.ready, hreachable]
  rcases unserved_of_call (fun down => by rw [hready _ down]; rfl)
    (fun up => ⟨(), hready _ up⟩) h with ⟨hunserved, rfl, hfailed⟩ | ⟨a, hdone, rfl⟩
  · exact ⟨rfl, .inl ⟨hunserved, hfailed⟩⟩
  · exact ⟨(congrArg Prod.snd hdone).symm, .inr rfl⟩

theorem served_of_subscribe {queue : String} {activity : Activity}
    {given : Option (Except BrokerFailure StreamId)}
    (h : w.answer? t task activity wait (.subscribe queue) = some (w₁, given)) :
    (w.serves wait = false ∧ w₁ = w ∧ ∀ a, given ≠ some (.ok a)) ∨
      ∃ stream broker, w.broker.subscribe queue = (.ok stream, broker) ∧
        w₁ = { w with broker } ∧ given = some (.ok stream) := by
  simp only [World.answer?] at h
  have hdown (down : w.broker.reachable = false) :
      w.broker.subscribe queue = (.error Broker.unreachableFault, w.broker) := by
    rw [Broker.subscribe, down]
    rfl
  have hup (up : w.broker.reachable = true) :
      (w.broker.subscribe queue).1 = .ok w.broker.nextStream := by
    rw [Broker.subscribe, up]
    rfl
  rcases unserved_of_call (fun down => by rw [hdown down]) (fun up => ⟨_, hup up⟩) h with
    hunserved | ⟨stream, hdone, rfl⟩
  · exact .inl hunserved
  · obtain ⟨hstream, hworld⟩ := Prod.mk.inj hdone
    exact .inr ⟨stream, _, Prod.ext hstream rfl, hworld.symm, rfl⟩

/-- A start comes to its end because the broker does not serve it. -/
theorem startTurn_of_unserved (prepares : s = .probing ∨ s = .subscribing)
    (was : w.stateOf t = some (.running (.starting s) wait)) (unserved : w.serves wait = false)
    (ends : w' = w.finish t .crashed ∨ ∃ failure,
      w' = (w.setRoster w.roster).settle t .starting .ofStart (.finish (.error failure))) :
    ∃ new, w'.stateOf t = some new ∧ StartTurn w t w' s wait new := by
  have hnow {new : TaskState} (quiet : Quiet w t new w') : w'.stateOf t = some new :=
    (quiet.states t).trans (if_pos rfl)
  rcases ends with rfl | ⟨failure, rfl⟩
  · have hquiet := (goes_finish was .crashed).quiet (broker_setState was rfl _)
      (standing_finish ..)
    exact ⟨_, hnow hquiet, .fails prepares unserved hquiet⟩
  · rcases settled_starting was roster_of_missing (.inl rfl) (.finish (.error failure)) with
      ⟨_, _, hnext, -⟩ | ⟨outcome, hnext, hquiet⟩
    · cases hnext
    · exact ⟨_, hnow hquiet, .fails prepares unserved hquiet⟩

/-- **What one turn of a start can come to.** -/
theorem startTurn_of_turn (numbered : ∀ t, w.fresh ≤ t → w.stateOf t = none)
    (was : w.stateOf t = some (.running (.starting s) wait)) (step : w.turn? t = some w') :
    ∃ new, w'.stateOf t = some new ∧ StartTurn w t w' s wait new := by
  obtain ⟨task, hget, hstate⟩ := Option.map_eq_some_iff.mp was
  obtain ⟨c, watch, state⟩ := task
  cases hstate
  simp only [turn?, hget, Option.bind_eq_bind, Option.bind_some] at step
  have hnow {new : TaskState} (quiet : Quiet w t new w') : w'.stateOf t = some new :=
    (quiet.states t).trans (if_pos rfl)
  cases s with
  | opening =>
    rcases answered_cases step with ⟨w₁, hanswer, -⟩ | ⟨w₁, answer, hanswer, rfl⟩
    · cases (answer_enter rfl hanswer).2.1
    · obtain ⟨rfl, -, -⟩ := answer_enter rfl hanswer
      have hmissing (missing : w₁.pipeline = none) :
          (Roster.reapAll w₁.ended w₁.roster).1 = .empty := by
        rw [roster_of_missing missing]
        rfl
      rcases settled_starting was hmissing (.inr rfl) (Starting.survey w₁.ended w₁.roster).2 with
        ⟨s', wait', hnext, hquiet⟩ | ⟨outcome, hnext, hquiet⟩
      · exact ⟨_, hnow hquiet, .looks (Starting.prepares_of_survey hnext) hquiet⟩
      · rcases Starting.survey_cases w₁.ended w₁.roster with ⟨-, hall⟩ | ⟨_, hwaits, -⟩
        · cases hall.symm.trans hnext
          exact ⟨_, hnow hquiet, .findsAll hquiet⟩
        · cases hwaits.symm.trans hnext
  | probing =>
    rcases answered_cases step with ⟨w₁, hanswer, rfl⟩ | ⟨w₁, answer, hanswer, rfl⟩
    · obtain ⟨rfl, ⟨hunserved, -⟩ | hgiven⟩ := answer_ready hanswer
      · exact startTurn_of_unserved (.inl rfl) was hunserved (.inl rfl)
      · cases hgiven
    · change Except BrokerFailure Unit at answer
      obtain ⟨rfl, ⟨hunserved, hfailed⟩ | hgiven⟩ := answer_ready hanswer
      · cases answer with
        | ok a => exact absurd rfl (hfailed a)
        | error failure =>
          exact startTurn_of_unserved (.inl rfl) was hunserved (.inr ⟨.publisher failure, rfl⟩)
      · cases hgiven
        obtain ⟨s', hs', hresume⟩ := Starting.resume_probing c w₁.ended w₁.roster
        rw [hresume] at hnow ⊢
        rcases settled_starting was roster_of_missing (.inl rfl) (.wait s') with
          ⟨_, wait', hnext, hquiet⟩ | ⟨_, hnext, -⟩
        · cases hnext
          exact ⟨_, hnow hquiet, .probes hs' hquiet⟩
        · cases hnext
  | subscribing =>
    rcases answered_cases step with ⟨w₁, hanswer, rfl⟩ | ⟨w₁, answer, hanswer, rfl⟩
    · rcases served_of_subscribe hanswer with ⟨hunserved, rfl, -⟩ | ⟨_, _, -, -, hgiven⟩
      · exact startTurn_of_unserved (.inr rfl) was hunserved (.inl rfl)
      · cases hgiven
    · change Except BrokerFailure StreamId at answer
      rcases served_of_subscribe hanswer with
        ⟨hunserved, rfl, hfailed⟩ | ⟨stream, broker, hsubscribed, rfl, hgiven⟩
      · cases answer with
        | ok a => exact absurd rfl (hfailed a)
        | error failure =>
          exact startTurn_of_unserved (.inr rfl) was hunserved (.inr ⟨.consumer failure, rfl⟩)
      · cases hgiven
        have hwas : ({ w with broker } : World).stateOf t =
            some (.running (.starting .subscribing) wait) := was
        rcases settled_starting hwas roster_of_missing (.inl rfl)
          (.wait (.launching w.roster.publisher.isNone (some stream))) with
          ⟨_, wait', hnext, hquiet⟩ | ⟨_, hnext, -⟩
        · cases hnext
          exact ⟨_, (hquiet.states t).trans (if_pos rfl), .subscribes hget
            (hsubscribed.trans (congrArg _ hquiet.broker.symm))⟩
        · cases hnext
  | launching publisher consumer =>
    rcases answered_cases step with ⟨w₁, hanswer, -⟩ | ⟨w₁, answer, hanswer, rfl⟩
    · cases hanswer
    · have hgiven : some ((w.launch publisher consumer).2, some (w.launch publisher consumer).1) =
          some (w₁, some answer) := hanswer
      cases hgiven
      have hkept : (w.launch publisher consumer).2.stateOf t = w.stateOf t :=
        stateOf_launch (lt_fresh_of_stateOf numbered was)
      have hwas := hkept.trans was
      rcases settled_setRoster hwas ((w.launched publisher consumer).over
        (w.launch publisher consumer).2.roster) waits_starting .ofStart
        (.after (.pipelineStarted c.receiptQueue publisher consumer.isSome) (.finish (.ok ())))
        with ⟨_, _, hnext, -⟩ | ⟨outcome, hnext, hgoes⟩
      · cases hnext
      · cases hnext
        refine ⟨_, (hgoes.states t).trans (if_pos rfl), .launches fun u hne => ?_⟩
        exact (hgoes.states u).trans (if_neg hne.symm)

/-- A start that has the roster can go on as soon as its call is through. -/
theorem turn_of_due (get : w.tasks.get? t = some task)
    (state : task.state = .running (.starting s) wait) (inside : s.isInside = true)
    (due : w.isDue wait = true) : (w.turn? t).isSome = true := by
  obtain ⟨c, watch, state⟩ := task
  cases state
  simp only [turn?, get, Option.bind_eq_bind, Option.bind_some, answered, Option.isSome_map]
  cases s with
  | opening => cases inside
  | probing | subscribing =>
    simp only [Starting.request, World.answer?]
    exact callOrCrash_of_due due
  | launching => rfl

/-- A start begins, or there is no pipeline that it could start. -/
theorem quiet_of_begin (was : w.stateOf t = some (.running (.acting .start) wait))
    (step : w.turn? t = some w') :
    ∃ new, Quiet w t new w' ∧
      ((∃ wait', new = .running (.starting .opening) wait') ∨ ∃ n, new = .ended .refused n) := by
  obtain ⟨task, hget, hstate⟩ := Option.map_eq_some_iff.mp was
  obtain ⟨c, watch, state⟩ := task
  cases hstate
  simp only [turn?, hget, Option.bind_eq_bind, Option.bind_some] at step
  cases step
  show ∃ new, Quiet w t new (w.withPipeline t (.starting .opening)) ∧ _
  unfold withPipeline
  split
  · exact ⟨_, (goes_finish was .refused).quiet (broker_setState was rfl _) (standing_finish ..),
      .inr ⟨_, rfl⟩⟩
  · next pipeline _ =>
    have halike : w.Alike { w with
        tasks := w.tasks.put t ⟨pipeline.config, watch, .running (.acting .start) wait⟩ } :=
      alike_put hget rfl
    have hwas := (halike.states t).trans was
    have hwaits : ∀ c, ((Activity.starting .opening).request? c).isSome = true := fun _ => rfl
    obtain ⟨wait', hgoes⟩ := goes_await hwas hwaits
    simp only [hget]
    exact ⟨_, (halike.goes hgoes).quiet (broker_await hwas rfl _) (standing_await ..),
      .inl ⟨wait', rfl⟩⟩

end StartTurn

end World

/-! ## The turns of one task -/

section OwnTurns

variable {w₀ w w' : World} {scenes : List Scene} {t : TaskId}

theorem ownTurns_append (t : TaskId) (scenes later : List Scene) :
    ownTurns t (scenes ++ later) = ownTurns t scenes ++ ownTurns t later :=
  List.filter_append ..

theorem ownTurns_turn (t : TaskId) (before after : World) :
    ownTurns t [⟨before, .turn t, after⟩] = [⟨before, .turn t, after⟩] := by
  simp [ownTurns, Scene.taker?]

theorem ownTurns_other {happening : Happening} (before after : World)
    (other : happening ≠ .turn t) : ownTurns t [⟨before, happening, after⟩] = [] := by
  have hnot : Scene.taker? ⟨before, happening, after⟩ ≠ some t :=
    fun h => other (Scene.taker?_eq_some.mp h)
  simp [ownTurns, hnot]

/-- What a task has done so far and how far it is changes with its own turns only, and when its end
is taken out. -/
theorem Play.own_induction {P : List Scene → Option TaskState → Prop} (play : Play w₀ scenes w)
    (numbered : ∀ t, w₀.fresh ≤ t → w₀.stateOf t = none) (there : t < w₀.fresh)
    (begins : P [] (w₀.stateOf t))
    (turn : ∀ (own : List Scene) (w w' : World), (∀ t, w.fresh ≤ t → w.stateOf t = none) → w.turn? t = some w' →
      ⟨w, .turn t, w'⟩ ∈ scenes → P own (w.stateOf t) →
        P (own ++ [⟨w, .turn t, w'⟩]) (w'.stateOf t))
    (hear : ∀ (own : List Scene) (w w' : World), w.hear? t = some w' → P own (w.stateOf t) → P own (w'.stateOf t))
    (gone : ∀ own state, P own state → P own none) :
    P (ownTurns t scenes) (w.stateOf t) := by
  induction play with
  | nil => exact begins
  | @snoc scenes w w' happening play step ih =>
    obtain ⟨hnumbered, hsince⟩ := play.since numbered
    have hP := ih fun own w w' hnumbered step hmem => turn own w w' hnumbered step
      (List.mem_append_left _ hmem)
    rw [ownTurns_append]
    by_cases hturn : happening = .turn t
    · subst hturn
      rw [ownTurns_turn]
      exact turn _ w w' hnumbered step (List.mem_append_right _ (List.mem_singleton_self _)) hP
    · rw [ownTurns_other w w' hturn, List.append_nil]
      by_cases hmover : happening.mover? = some t
      · cases happening with
        | turn id =>
          cases hmover
          exact absurd rfl hturn
        | hear id =>
          cases hmover
          exact hear _ w w' step hP
        | forget id =>
          cases hmover
          simp only [World.happen?] at step
          split at step <;> cases step
          rw [World.stateOf_forget]
          exact gone _ _ hP
        | begin | wait | note | takeTold => cases hmover
      · have hpassage := (World.passage_of_happen hnumbered step).1
        rw [hpassage.others t (hsince t there).1 hmover]
        exact hP

/-- In the course of a play the backlogs only grow until somebody subscribes. -/
theorem Play.onward (play : Play w₀ scenes w) : w₀.broker.Onward w.broker := by
  induction play with
  | nil => exact .refl _
  | snoc _ step ih => exact ih.trans (World.onward_of_happen step).broker

end OwnTurns

/-! ## A start that fails -/

namespace TaskState

/-- Whether a task is a start, or has come to its end. -/
def isAttempt : TaskState → Bool
  | .running (.acting .start) _ | .running (.starting _) _ | .ended .. => true
  | _ => false

/-- Whether a start may still fail, or has failed. -/
def isTentative : TaskState → Bool
  | .running (.starting (.launching ..)) _ => false
  | .running (.acting .start) _ | .running (.starting _) _ => true
  | .ended (.startFailure _) _ => true
  | _ => false

end TaskState

/-- A scene in which a start has done nothing but to go on. -/
structure Scene.Tentative (scene : Scene) (t : TaskId) : Prop where
  plain : ∃ old, scene.before.stateOf t = some old ∧ old.isLoop = false
  launches : scene.launches = []
  quiet : ∃ new, scene.before.Quiet t new scene.after

section Failed

variable {c : Config} {clockStart : Int} {ids : List MessageId} {earlier later : List Scene}
  {w w' w₀ : World} {t : TaskId} {wait : Wait}

/-- A start that can still fail after its turn could fail before it, and the turn has changed
nothing. -/
theorem tentative_of_turn {old : TaskState} (numbered : ∀ t, w.fresh ≤ t → w.stateOf t = none)
    (was : w.stateOf t = some old) (attempt : old.isAttempt = true) (step : w.turn? t = some w') :
    ∃ new, w'.stateOf t = some new ∧ new.isAttempt = true ∧
      (new.isTentative = true → old.isTentative = true ∧
        Scene.Tentative ⟨w, .turn t, w'⟩ t) := by
  have hplain (plain : old.isLoop = false)
      (sets : ∀ publisher consumer wait,
        old ≠ .running (.starting (.launching publisher consumer)) wait) {new : TaskState}
      (quiet : w.Quiet t new w') : Scene.Tentative ⟨w, .turn t, w'⟩ t := by
    refine ⟨⟨old, was, plain⟩, World.launches_eq_nil fun u publisher consumer wait hu hstate => ?_,
      ⟨new, quiet⟩⟩
    cases hu
    exact sets publisher consumer wait (Option.some.inj (was.symm.trans hstate))
  have hnow {new : TaskState} (quiet : w.Quiet t new w') : w'.stateOf t = some new :=
    (quiet.states t).trans (if_pos rfl)
  cases old with
  | ended reply n =>
    obtain ⟨_, _, hturned⟩ := World.turns_of_turn numbered step
    cases (World.isLive_of_ended was).symm.trans hturned.live
  | running activity wait =>
    cases activity with
    | acting action =>
      cases action with
      | start =>
        obtain ⟨new, hquiet, ⟨wait', rfl⟩ | ⟨n, rfl⟩⟩ := World.quiet_of_begin was step
        · exact ⟨_, hnow hquiet, rfl, fun _ => ⟨rfl, hplain rfl (fun _ _ _ => nofun) hquiet⟩⟩
        · exact ⟨_, hnow hquiet, rfl, nofun⟩
      | _ => cases attempt
    | starting s =>
      obtain ⟨new, hnew, hturn⟩ := World.startTurn_of_turn numbered was step
      cases hturn with
      | looks prepares quiet =>
        exact ⟨_, hnew, rfl, fun _ => ⟨rfl, hplain rfl (fun _ _ _ => nofun) quiet⟩⟩
      | findsAll quiet =>
        exact ⟨_, hnew, rfl, fun _ => ⟨rfl, hplain rfl (fun _ _ _ => nofun) quiet⟩⟩
      | fails prepares unserved quiet =>
        refine ⟨_, hnew, rfl, fun _ => ?_⟩
        rcases prepares with rfl | rfl
        · exact ⟨rfl, hplain rfl (fun _ _ _ => nofun) quiet⟩
        · exact ⟨rfl, hplain rfl (fun _ _ _ => nofun) quiet⟩
      | probes next quiet =>
        exact ⟨_, hnew, rfl, fun _ => ⟨rfl, hplain rfl (fun _ _ _ => nofun) quiet⟩⟩
      | subscribes => exact ⟨_, hnew, rfl, nofun⟩
      | launches => exact ⟨_, hnew, rfl, nofun⟩
    | _ => cases attempt

/-- A start that has failed has never done anything but to go on. -/
theorem tentative_of_play (rest : Play w₀ later w)
    (numbered : ∀ t, w₀.fresh ≤ t → w₀.stateOf t = none)
    (called : w₀.stateOf t = some (.running (.acting .start) wait)) {failure : StartFailure}
    {n : Nat} (failed : w.stateOf t = some (.ended (.startFailure failure) n)) :
    ∀ scene ∈ ownTurns t later, scene.Tentative t := by
  have hattempt := rest.own_induction (t := t) (P := fun own state? => ∀ state, state? = some state →
      state.isAttempt = true ∧ (state.isTentative = true → ∀ scene ∈ own, scene.Tentative t))
    numbered (World.lt_fresh_of_stateOf numbered called) ?_ ?_ ?_ ?_
  · exact (hattempt _ failed).2 rfl
  · intro state hstate
    cases called.symm.trans hstate
    exact ⟨rfl, fun _ scene hscene => absurd hscene List.not_mem_nil⟩
  · intro own w w' hnumbered step _ h state hstate
    obtain ⟨old, new, hturned⟩ := World.turns_of_turn hnumbered step
    obtain ⟨hkind, hold⟩ := h old hturned.was
    obtain ⟨new', hnew, hkind', htentative⟩ := tentative_of_turn hnumbered hturned.was hkind step
    cases hnew.symm.trans hstate
    refine ⟨hkind', fun hmay => ?_⟩
    obtain ⟨hmayBefore, hscene⟩ := htentative hmay
    exact List.forall_mem_append.mpr ⟨hold hmayBefore, List.forall_mem_singleton.mpr hscene⟩
  · intro own w w' step h
    obtain ⟨stream, wait', hstate⟩ := World.stateOf_of_hear step
    cases (h _ hstate).1
  · intro own state? _ state hstate
    cases hstate

/-- **A start that has failed has changed nothing.** -/
theorem leavesAlone_of_play (first : Play (.initial c clockStart ids) earlier w₀)
    (called : w₀.stateOf t = some (.running (.acting .start) wait)) (rest : Play w₀ later w)
    (kept : LoopsKept (earlier ++ later)) {failure : StartFailure} {n : Nat}
    (failed : w.stateOf t = some (.ended (.startFailure failure) n)) :
    ∀ scene ∈ later, scene.taker? = some t → scene.LeavesAlone t := by
  have hnumbered := (first.accounts kept.left).numbered
  intro scene hscene hmine
  obtain ⟨⟨old, hold, hplain⟩, hlaunches, new, hquiet⟩ :=
    tentative_of_play rest hnumbered called failed scene
      (List.mem_filter.mpr ⟨hscene, decide_eq_true hmine⟩)
  -- whoever is on the roster runs a loop, and the start does not
  obtain ⟨before, after, rfl⟩ := List.append_of_mem hscene
  rw [List.append_cons] at rest
  obtain ⟨w₁, hthis, -⟩ := rest.split
  obtain ⟨hbefore, -, -⟩ := hthis.last
  rw [← List.append_assoc] at kept
  have haccounts : scene.before.Accounts (launches (earlier ++ before)) :=
    (first.append hbefore).accounts kept.left
  have hlisted (role : Role) (loop : Launched)
      (hloop : scene.before.roster.loop role = some loop) : loop.task ≠ t := by
    rintro rfl
    obtain ⟨k, -, hmem⟩ := haccounts.listed role loop (.inl hloop)
    obtain ⟨state, hstate, hruns⟩ := haccounts.loops _ hmem
    cases hold.symm.trans hstate
    cases hplain.symm.trans hruns
  exact ⟨hlaunches, fun u hne => (hquiet.states u).trans (if_neg hne.symm), hquiet.signals,
    hquiet.isRunning hlisted, hquiet.broker, hquiet.store, hquiet.history⟩

end Failed

/-! ## A start that the broker serves -/

/-- How far a start is that got the roster and has taken some turns, when the broker served it. -/
inductive Underway (t : TaskId) (own : List Scene) : Option TaskState → Prop
  | gone : Underway t own none
  | inside {s : Starting} {wait : Wait} (inside : s.isInside = true)
      (few : own.length + s.turnsLeft ≤ 4)
      (subscribed : ∀ publisher stream, s = .launching publisher (some stream) →
        ∃ scene ∈ own, ∃ queue, scene.Subscribes t queue stream) :
      Underway t own (some (.running (.starting s) wait))
  | ended {reply : Reply} {n : Nat} (few : own.length ≤ 4)
      (ends : reply = .done ∨ reply = .startFailure .alreadyRunning) :
      Underway t own (some (.ended reply n))

section Served

variable {c : Config} {clockStart : Int} {ids : List MessageId}
  {before call within own scenes later : List Scene} {entry last : Scene} {w w' since : World}
  {t : TaskId}

/-- What a start gets that the broker serves. -/
theorem subscribes_of_subscribe {task : Task} {stream : StreamId}
    (get : w.tasks.get? t = some task)
    (subscribed : w.broker.subscribe task.config.receiptQueue = (.ok stream, w'.broker)) :
    Scene.Subscribes ⟨w, .turn t, w'⟩ t task.config.receiptQueue stream := by
  rcases Broker.subscribe_cases subscribed with ⟨⟨_, hfailed⟩, -⟩ | ⟨hstream, hbroker⟩
  · cases hfailed
  · cases hstream
    refine ⟨Scene.taker?_eq_some.mpr rfl, ⟨task, get, rfl⟩, rfl, ?_, ?_, ?_⟩
    · show w'.broker.streams.get? w.broker.nextStream = _
      rw [hbroker]
      exact (Table.get?_put ..).trans (if_pos rfl)
    · show w'.broker.backlog.getD _ [] = []
      rw [hbroker]
      exact (Table.getD_erase ..).trans (if_pos rfl)
    · show w'.broker.subscribers.getD _ [] = _
      rw [hbroker]
      exact (Table.getD_put ..).trans (if_pos rfl)

/-- The first turn of a start that has waited for the roster. -/
theorem underway_of_entry (numbered : ∀ t, w.fresh ≤ t → w.stateOf t = none) {wait : Wait}
    (was : w.stateOf t = some (.running (.starting .opening) wait)) (step : w.turn? t = some w')
    (scene : Scene) : Underway t [scene] (w'.stateOf t) := by
  obtain ⟨new, hnew, hturn⟩ := World.startTurn_of_turn numbered was step
  rw [hnew]
  cases hturn with
  | looks prepares =>
    refine .inside ?_ ?_ fun publisher stream heq => ?_
    · rcases prepares with rfl | rfl <;> rfl
    · rcases prepares with rfl | rfl <;> simp [Starting.turnsLeft]
    · rcases prepares with rfl | rfl <;> cases heq
  | findsAll => exact .ended (by simp) (.inr rfl)
  | fails prepares => rcases prepares with h | h <;> cases h

/-- A further turn of a start, when the broker serves it. -/
theorem Underway.turn (h : Underway t own (w.stateOf t))
    (numbered : ∀ t, w.fresh ≤ t → w.stateOf t = none) (step : w.turn? t = some w')
    (serves : Scene.serves ⟨w, .turn t, w'⟩ t = true) :
    Underway t (own ++ [⟨w, .turn t, w'⟩]) (w'.stateOf t) := by
  obtain ⟨_, _, hturned⟩ := World.turns_of_turn numbered step
  have hlive := hturned.live
  generalize hwas : w.stateOf t = state? at h
  cases h with
  | gone => cases (World.not_live_of_gone hwas).symm.trans hlive
  | ended => cases (World.isLive_of_ended hwas).symm.trans hlive
  | @inside s wait inside few subscribed =>
    obtain ⟨new, hnew, hturn⟩ := World.startTurn_of_turn numbered hwas step
    have hserved := Scene.serves_turn serves hwas
    rw [hnew]
    cases hturn with
    | looks | findsAll => cases inside
    | fails _ unserved => cases unserved.symm.trans hserved
    | @probes s _ wait' next =>
      refine .inside ?_ ?_ fun publisher stream heq => ?_
      · rcases next with rfl | rfl <;> rfl
      · have hleft : s.turnsLeft ≤ 2 := by
          rcases next with rfl | rfl <;> decide
        rw [List.length_append, List.length_singleton]
        simp only [Starting.turnsLeft] at few
        omega
      · rcases next with rfl | rfl <;> cases heq
    | subscribes get subscribedNow =>
      refine .inside rfl ?_ fun publisher stream heq => ?_
      · rw [List.length_append, List.length_singleton]
        simp only [Starting.turnsLeft] at few ⊢
        omega
      · cases heq
        exact ⟨_, List.mem_append_right _ (List.mem_singleton_self _), _,
          subscribes_of_subscribe get subscribedNow⟩
    | launches =>
      refine .ended ?_ (.inl rfl)
      rw [List.length_append]
      simpa [Starting.turnsLeft] using few

/-- How far a start is some time after it got the roster, when the broker has served it. -/
theorem underway_of_play (first : Play (.initial c clockStart ids) (before ++ [entry]) w)
    (opens : entry.opensStart t = true) (rest : Play w within w')
    (kept : LoopsKept before) (serves : ∀ scene ∈ within, scene.serves t = true) :
    Underway t (entry :: ownTurns t within) (w'.stateOf t) := by
  obtain ⟨hmine, wait, hstate⟩ := Scene.opensStart_iff.mp opens
  obtain ⟨hbefore, step, rfl⟩ := first.last
  rw [hmine] at step
  have hnumbered := (hbefore.accounts kept).numbered
  have hpassage := (World.passage_of_happen hnumbered step).1
  have hthere := World.lt_fresh_of_stateOf hnumbered hstate
  refine rest.own_induction (t := t) (P := fun own state? => Underway t (entry :: own) state?)
    hpassage.numbered (Nat.lt_of_lt_of_le hthere hpassage.fresh)
    (underway_of_entry hnumbered hstate step entry)
    (fun own w w' hnumbered step hmem h => ?_) (fun own w w' step h => ?_) fun _ _ _ => .gone
  · exact h.turn hnumbered step (serves _ hmem)
  · obtain ⟨stream, wait', hstate⟩ := World.stateOf_of_hear step
    rw [hstate] at h
    cases h

/-- When the last scene of a call is over the start is as far as its own turns have brought it. -/
theorem underway_of_call (start : Call scenes before call later t entry last)
    (play : Play (.initial c clockStart ids) (before ++ call) w') (kept : LoopsKept (before ++ call))
    (opens : entry.opensStart t = true) (serves : ∀ scene ∈ call, scene.serves t = true) :
    Underway t (ownTurns t call) (last.after.stateOf t) := by
  have hentry : ownTurns t [entry] = [entry] := by
    have hmine := (Scene.opensStart_iff.mp opens).1
    simp [ownTurns, Scene.taker?_eq_some.mpr hmine]
  rcases start.cases with ⟨rfl, rfl⟩ | ⟨within, rfl⟩
  · obtain ⟨hmine, wait, hstate⟩ := Scene.opensStart_iff.mp opens
    obtain ⟨hbefore, step, -⟩ := play.last
    rw [hmine] at step
    rw [hentry]
    exact underway_of_entry (hbefore.accounts kept.left).numbered hstate step _
  · obtain ⟨w, first, rest, step, -⟩ := parts_of_play start.turn play
    have hwithin (scene : Scene) (hscene : scene ∈ within) : scene.serves t = true :=
      serves scene (List.mem_append_left _ (List.mem_cons_of_mem _ hscene))
    have hway := underway_of_play first opens rest kept.left hwithin
    rw [← List.append_assoc] at kept
    have hnumbered := (accounts_within first rest kept.left).numbered
    obtain ⟨w₁, happening, w₂⟩ := last
    cases Scene.taker?_eq_some.mp start.turn
    have hcall : entry :: within ++ [⟨w₁, .turn t, w₂⟩] =
        [entry] ++ within ++ [⟨w₁, .turn t, w₂⟩] := rfl
    rw [hcall, ownTurns_append, ownTurns_append, hentry, ownTurns_turn]
    exact hway.turn hnumbered step (serves _ (List.mem_append_right _ (List.mem_singleton_self _)))

/-- A start that sets a consumer's loop going has subscribed for it. -/
theorem subscribes_of_launching {n : Nat}
    (first : Play (.initial c clockStart ids) (before ++ [entry]) w)
    (opens : entry.opensStart t = true) (rest : Play w within last.before)
    (kept : LoopsKept (before ++ entry :: within)) (turn : last.taker? = some t)
    (step : last.before.turn? t = some last.after)
    (serves : ∀ scene ∈ entry :: within ++ [last], scene.serves t = true)
    (ended : last.after.stateOf t = some (.ended .done n))
    (missing : ¬ entry.before.Runs (launches before) entry.before.number .consumer) :
    ∃ scene ∈ entry :: ownTurns t within, ∃ queue stream, scene.Subscribes t queue stream ∧
      ∃ l ∈ launchesBy t (entry :: within ++ [last]), l.role = .consumer ∧ ∃ wait,
        last.after.stateOf l.loop.task = some (.running (.consuming (.starting stream)) wait) := by
  have hwithin (scene : Scene) (hscene : scene ∈ within) : scene.serves t = true :=
    serves scene (List.mem_append_left _ (List.mem_cons_of_mem _ hscene))
  have hlast := serves last (List.mem_append_right _ (List.mem_singleton_self _))
  obtain ⟨w₁, happening, w₂⟩ := last
  cases Scene.taker?_eq_some.mp turn
  have haccounts := accounts_within first rest kept
  obtain ⟨old, new, hturned⟩ := World.turns_of_turn haccounts.numbered step
  have hon := startsOn_of_play first opens rest kept hturned.live
  obtain ⟨s, wait, hstate, hinside⟩ := hon.state
  cases hturned.was.symm.trans hstate
  cases hturned.now.symm.trans ended
  have hway := underway_of_play first opens rest kept.left hwithin
  rw [hstate] at hway
  obtain ⟨new', hnew, hturn⟩ := World.startTurn_of_turn haccounts.numbered hstate step
  cases hnew.symm.trans ended
  cases hturn with
  | fails _ unserved => cases unserved.symm.trans (Scene.serves_turn hlast hstate)
  | @launches publisher consumer _ _ states =>
    -- the consumer's loop is missing on the roster, so the start has a subscription for it
    have hoff : w₁.roster.consumer = none := by
      refine Option.not_isSome_iff_eq_none.mp fun hsome => missing ?_
      exact (hon.roster .consumer).mp hsome
    obtain ⟨-, hconsumer⟩ := haccounts.fits t _ wait hstate
    rw [hoff] at hconsumer
    obtain ⟨stream, rfl⟩ := Option.isSome_iff_exists.mp hconsumer
    cases hway with
    | inside _ _ subscribed =>
      obtain ⟨scene, hscene, queue, hsubscribes⟩ := subscribed publisher stream rfl
      refine ⟨scene, hscene, queue, stream, hsubscribes, ?_⟩
      have hbuilt := haccounts.built t _ hstate rfl
      obtain ⟨k, hk⟩ := Option.isSome_iff_exists.mp hbuilt
      rw [w₁.isSome_number] at hbuilt
      obtain ⟨w₃, -, ⟨hnone, -⟩ | ⟨loop, stream', hsome, hloop, hstarts⟩⟩ :=
        w₁.launched_cases hbuilt publisher (some stream)
      · cases hnone
      · cases hsome
        rcases hturned.starts rfl rfl with ⟨hprepares, -⟩ | ⟨_, _, _, heq, -, hgoing⟩
        · rcases hprepares with h | h <;> cases h
        · cases heq
          have htask := (hgoing.arrived .consumer loop hloop).task
          have hthere := World.lt_fresh_of_stateOf haccounts.numbered hstate
          refine ⟨⟨k, .consumer, loop⟩, ?_, rfl, _,
            (states loop.task (Nat.ne_of_gt (Nat.lt_of_lt_of_le hthere htask))).trans
              ((hstarts.adds.states _).trans (if_pos rfl))⟩
          rw [launchesBy_append, launchesBy_singleton, World.launches_of_launching hstate]
          exact List.mem_append_right _ (World.mem_launchesOf.mpr ⟨hk, hloop⟩)

/-- A start that has come to its end has set going what was missing, or has failed. -/
theorem startsMissing_of_call {reply : Reply} {n : Nat}
    (start : Call scenes before call later t entry last)
    (play : Play (.initial c clockStart ids) (before ++ call) w') (kept : LoopsKept (before ++ call))
    (opens : entry.opensStart t = true)
    (ended : last.after.stateOf t = some (.ended reply n)) :
    StartsMissing (launches before) call entry last t reply := by
  rcases start.cases with ⟨rfl, rfl⟩ | ⟨within, rfl⟩
  · exact startsMissing_at_once play opens kept.left ended
  · obtain ⟨w, first, rest, step, -⟩ := parts_of_play start.turn play
    rw [← List.append_assoc] at kept
    exact startsMissing_of_play first opens rest kept.left start.turn step ended

/-- A start that is done has subscribed for a consumer's loop that was missing. -/
theorem subscribes_of_call {n : Nat} (start : Call scenes before call later t entry last)
    (play : Play (.initial c clockStart ids) (before ++ call) w') (kept : LoopsKept (before ++ call))
    (opens : entry.opensStart t = true) (serves : ∀ scene ∈ call, scene.serves t = true)
    (ended : last.after.stateOf t = some (.ended .done n))
    (missing : ¬ entry.before.Runs (launches before) entry.before.number .consumer) :
    ∃ scene ∈ call, ∃ queue stream, scene.Subscribes t queue stream ∧
      ∃ l ∈ launchesBy t call, l.role = .consumer ∧ ∃ wait,
        last.after.stateOf l.loop.task = some (.running (.consuming (.starting stream)) wait) := by
  rcases start.cases with ⟨rfl, rfl⟩ | ⟨within, rfl⟩
  · -- in its first turn a start sets nothing going
    obtain ⟨hmine, wait, hstate⟩ := Scene.opensStart_iff.mp opens
    have hmissing := startsMissing_at_once play opens kept.left ended
    obtain ⟨l, hl, -⟩ := (hmissing.done rfl .consumer).mpr missing
    simp [launchesBy, hmine, Scene.launches, hstate] at hl
  · obtain ⟨w, first, rest, step, -⟩ := parts_of_play start.turn play
    rw [← List.append_assoc] at kept
    obtain ⟨scene, hscene, h⟩ := subscribes_of_launching first opens rest kept.left start.turn step
      serves ended missing
    refine ⟨scene, List.mem_append_left _ ?_, h⟩
    rcases List.mem_cons.mp hscene with rfl | hown
    · exact List.mem_cons_self
    · exact List.mem_cons_of_mem _ (List.mem_filter.mp hown).1

/-- **What comes of a start that the broker serves.** -/
theorem bringsUp_of_call (start : Call scenes before call later t entry last)
    (play : Play (.initial c clockStart ids) (before ++ call) w') (kept : LoopsKept (before ++ call))
    (opens : entry.opensStart t = true) (serves : ∀ scene ∈ call, scene.serves t = true)
    (onward : ∀ scene ∈ call, since.broker.Onward scene.before.broker) :
    BringsUp (launches before) since call entry last t := by
  have hway := underway_of_call start play kept opens serves
  generalize hnow : last.after.stateOf t = state? at hway
  cases hway with
  | gone =>
    -- who has just taken a turn is there
    obtain ⟨init, rfl⟩ := List.getLast?_eq_some_iff.mp start.final
    rw [← List.append_assoc] at play kept
    obtain ⟨hbefore, step, -⟩ := play.last
    rw [Scene.taker?_eq_some.mp start.turn] at step
    obtain ⟨_, _, hturned⟩ := World.turns_of_turn (hbefore.accounts kept.left).numbered step
    cases hnow.symm.trans hturned.now
  | @inside s wait inside few subscribed =>
    have hlive := World.isLive_of_running hnow
    have hleft : 0 < s.turnsLeft := by
      cases s <;> exact Nat.succ_pos _
    refine ⟨by omega, fun _ => ⟨by omega, ?_⟩, fun hended => ?_, fun hended => ?_⟩
    · obtain ⟨task, hget, hstate⟩ := Option.map_eq_some_iff.mp hnow
      exact ⟨task, s, wait, hget, hstate, fun w get due =>
        World.turn_of_due get hstate inside due⟩
    · cases hlive.symm.trans hended
    · cases hlive.symm.trans hended
  | @ended reply n few ends =>
    have hdead := World.isLive_of_ended hnow
    have hmissing := startsMissing_of_call start play kept opens hnow
    refine ⟨few, fun hlive => ?_, fun _ => ⟨reply, n, hnow, ends, hmissing⟩, fun _ missing => ?_⟩
    · cases hdead.symm.trans hlive
    · rcases ends with rfl | rfl
      · obtain ⟨scene, hscene, queue, stream, hsubscribed, hloop⟩ :=
          subscribes_of_call start play kept opens serves hnow missing
        exact ⟨scene, hscene, queue, stream, hsubscribed, hloop, fun same =>
          (onward scene hscene).backlog same queue⟩
      · exact absurd (hmissing.running.mp rfl .consumer) missing

end Served

/-- **A failed start changes nothing.** Whatever went on before, take a start that comes to its end
with a failure: because the broker cannot be reached, because it does not let the start subscribe, or
because both loops are running. In no turn that it has taken did it set a loop going, tell one to stop
or end one, change which loops run, or touch a subscription or the backlog of a queue; messages and
history are as they were.

And whatever goes on afterwards, a later start that the broker serves comes to its end in four turns,
of which it can take each as soon as its call is through. It finds both loops running, or sets going
just the kinds of which no loop was running when it looked; and the consumer's loop, if that was
missing, reads from a subscription that begins with the whole backlog, in its order: with what waited
there when the first start failed, unless somebody has subscribed in between, and then with what has
come since. -/
theorem failed_start {c : Config} {clockStart : Int} {ids : List MessageId}
    {earlier later : List Scene} {w₀ w : World} {t : TaskId} {wait : Wait} {failure : StartFailure}
    {n : Nat} (first : Play (.initial c clockStart ids) earlier w₀)
    (called : w₀.stateOf t = some (.running (.acting .start) wait)) (rest : Play w₀ later w)
    (taken : RepliesTaken (earlier ++ later))
    (failed : w.stateOf t = some (.ended (.startFailure failure) n)) :
    (∀ scene ∈ later, scene.taker? = some t → scene.LeavesAlone t) ∧
    ∀ more w', Play w more w' → RepliesTaken (earlier ++ later ++ more) →
      ∀ between call after u entry last, Call more between call after u entry last →
        entry.opensStart u = true → (∀ scene ∈ call, scene.serves u = true) →
          BringsUp (launches (earlier ++ later ++ between)) w call entry last u := by
  have hplay := first.append rest
  refine ⟨leavesAlone_of_play first called rest (hplay.loopsKept taken) failed, ?_⟩
  intro more w' next taken' between call after u entry last hcall opens serves
  have hkept := (hplay.append next).loopsKept taken'
  have hsplit := hcall.split
  subst hsplit
  obtain ⟨w₁, hcalled, -⟩ := next.split
  have hstart : Call (earlier ++ later ++ (between ++ call ++ after)) (earlier ++ later ++ between)
      call after u entry last := ⟨by simp, hcall.first, hcall.final, hcall.turn⟩
  have hwhole := hplay.append hcalled
  rw [← List.append_assoc] at hwhole hkept
  rw [← List.append_assoc] at hkept
  refine bringsUp_of_call hstart hwhole hkept.left opens serves fun scene hscene => ?_
  obtain ⟨front, back, rfl⟩ := List.append_of_mem hscene
  rw [List.append_cons, ← List.append_assoc, ← List.append_assoc] at hcalled
  obtain ⟨w₂, hthis, -⟩ := hcalled.split
  exact hthis.last.1.onward

/-- A pipeline is put together, a receipt comes in, the broker goes out of reach, and a start is
called. -/
def unreachableHappenings : List Happening :=
  [.begin (.build []), .turn 0, .turn 0, .begin (.deliver (.delivered (.ofNat 1)) none), .turn 3,
    .begin (.setReachable false), .turn 4, .begin .start]

/-- The broker is within reach again, another receipt comes in, and a second start is called. -/
def reachableHappenings : List Happening :=
  [.begin (.setReachable true), .turn 8, .begin (.deliver (.delivered (.ofNat 2)) none), .turn 9,
    .begin .start, .turn 10, .turn 10, .turn 10, .turn 10, .turn 10]

/-- Whether a task is about to begin with a start. -/
def TaskState.beginsStart : TaskState → Bool
  | .running (.acting .start) _ => true
  | _ => false

/-- Whether a task is a start that could not reach the broker. -/
def TaskState.failsStart : TaskState → Bool
  | .ended (.startFailure (.publisher _)) _ => true
  | _ => false

/-- Task 10 gets the roster six scenes after some others, and is served by the broker until it has
set both loops going. -/
def StartsBoth (before more : List Scene) : Prop :=
  RepliesTaken (before ++ more) ∧
    (more.drop 6).head?.any (fun scene => scene.opensStart 10) = true ∧
    (more.drop 6).getLast?.any (fun scene =>
      scene.taker? = some 10 ∧ scene.after.isLive 10 = false) = true ∧
    (∀ scene ∈ more.drop 6, scene.serves 10 = true) ∧
    (launchesBy 10 (more.drop 6)).map Launch.role = [.publisher, .consumer]

instance (before more : List Scene) : Decidable (StartsBoth before more) :=
  inferInstanceAs (Decidable (_ ∧ _ ∧ _ ∧ _ ∧ _))

/-- Task 5 fails to start after some scenes, and task 10 starts both loops later. -/
def FailsThenStarts (earlier later : List Scene) (w : World) : Prop :=
  RepliesTaken (earlier ++ later) ∧ (w.stateOf 5).any TaskState.failsStart = true ∧
    (ownTurns 5 later).length = 3 ∧
    w.broker.backlog.getD Config.default.receiptQueue [] = [.delivered (.ofNat 1)] ∧
    (w.play? reachableHappenings).any
      (fun p => decide (StartsBoth (earlier ++ later) p.1)) = true

instance (earlier later : List Scene) (w : World) : Decidable (FailsThenStarts earlier later w) :=
  inferInstanceAs (Decidable (_ ∧ _ ∧ _ ∧ _ ∧ _))

theorem failed_start_unreachable : ∃ earlier later more w₀ w w' wait failure n entry last,
    Play (.initial .default 0 []) earlier w₀ ∧
    w₀.stateOf 5 = some (.running (.acting .start) wait) ∧ Play w₀ later w ∧
    RepliesTaken (earlier ++ later) ∧
    w.stateOf 5 = some (.ended (.startFailure (.publisher failure)) n) ∧
    (ownTurns 5 later).length = 3 ∧
    w.broker.backlog.getD Config.default.receiptQueue [] = [.delivered (.ofNat 1)] ∧
    Play w more w' ∧ StartsBoth (earlier ++ later) more ∧
    Call more (more.take 6) (more.drop 6) [] 10 entry last ∧
    (∀ scene ∈ later, scene.taker? = some 5 → scene.LeavesAlone 5) ∧
    BringsUp (launches (earlier ++ later ++ more.take 6)) w (more.drop 6) entry last 10 := by
  obtain ⟨earlier, w₀, first, hcalled, hlater⟩ := exists_play unreachableHappenings
    (w := .initial .default 0 []) (P := fun earlier w₀ =>
      (w₀.stateOf 5).any TaskState.beginsStart = true ∧
        (w₀.play? [.turn 5, .turn 5, .turn 5]).any
          (fun p => decide (FailsThenStarts earlier p.1 p.2)) = true)
    (by decide +kernel)
  obtain ⟨later, w, rest, taken, hfailed, hturns, hbacklog, hmore⟩ :=
    exists_play [.turn 5, .turn 5, .turn 5] (P := FailsThenStarts earlier) hlater
  obtain ⟨more, w', next, hstarts⟩ := exists_play reachableHappenings
    (P := fun more _ => StartsBoth (earlier ++ later) more) hmore
  obtain ⟨state, hstate, hbegins⟩ := (Option.any_eq_true _ _).mp hcalled
  obtain ⟨wait, rfl⟩ : ∃ wait, state = .running (.acting .start) wait := by
    unfold TaskState.beginsStart at hbegins
    split at hbegins
    · exact ⟨_, rfl⟩
    · cases hbegins
  obtain ⟨state, hended, hfails⟩ := (Option.any_eq_true _ _).mp hfailed
  obtain ⟨failure, n, rfl⟩ :
      ∃ failure n, state = .ended (.startFailure (.publisher failure)) n := by
    unfold TaskState.failsStart at hfails
    split at hfails
    · exact ⟨_, _, rfl⟩
    · cases hfails
  obtain ⟨taken', hentry, hlast, hserves, -⟩ := id hstarts
  obtain ⟨entry, hfirst, hopens⟩ := (Option.any_eq_true _ _).mp hentry
  obtain ⟨last, hfinal, hdone⟩ := (Option.any_eq_true _ _).mp hlast
  have hcall : Call more (more.take 6) (more.drop 6) [] 10 entry last :=
    ⟨by simp, hfirst, hfinal, (of_decide_eq_true hdone).1⟩
  obtain ⟨halone, hlaterStart⟩ := failed_start first hstate rest taken hended
  exact ⟨earlier, later, more, w₀, w, w', wait, failure, n, entry, last, first, hstate, rest, taken,
    hended, hturns, hbacklog, next, hstarts, hcall, halone,
    hlaterStart more w' next taken' _ _ _ _ _ _ hcall hopens hserves⟩

end Rehearsal

end Outbox
