import Outbox.Proofs.Broker.Operation
import Outbox.Proofs.Rehearsal.Loops
/-!
# `Proofs.Rehearsal.Onward` — what no scene takes back

Some things only ever grow: time, the numbers that were given out, how often a signal was set, and
the backlog of a queue for as long as nobody subscribes. A signal that was given up stays so. And a task,
with all that it remembers, is changed by its own turns only. `Onward` says this of the worlds before
and after, and every scene is a step onward.
-/

namespace Outbox

/-! ## Signals and brokers -/

/-- A signal may have been set or given up meanwhile. -/
structure Signal.Onward (s s' : Signal) : Prop where
  version : s.version ≤ s'.version
  value : s'.version = s.version → s'.value = s.value
  givenUp : s.givenUp = true → s'.givenUp = true

namespace Signal.Onward

variable {s s' s'' : Signal} {seen : Nat}

theorem refl (s : Signal) : s.Onward s :=
  ⟨Nat.le_refl _, fun _ => rfl, id⟩

theorem trans (h : s.Onward s') (h' : s'.Onward s'') : s.Onward s'' where
  version := Nat.le_trans h.version h'.version
  value same := by
    -- the signal was not set in between either
    have hfirst := Nat.le_antisymm (same ▸ h'.version) h.version
    exact (h'.value (same.trans hfirst.symm)).trans (h.value hfirst)
  givenUp hs := h'.givenUp (h.givenUp hs)

theorem set (s : Signal) (value : Bool) : s.Onward (s.set value) :=
  ⟨Nat.le_succ _, fun same => absurd same (Nat.succ_ne_self _), id⟩

theorem giveUp (s : Signal) : s.Onward s.giveUp :=
  ⟨Nat.le_refl _, fun _ => rfl, fun _ => rfl⟩

/-- Who need not wait for a signal need not wait later either. -/
theorem wakes (h : s.Onward s') (known : seen ≤ s.version)
    (wakes : s.wakes seen = true) : s'.wakes seen = true := by
  simp only [Signal.wakes, hasNews, Bool.or_eq_true, bne_iff_ne] at wakes ⊢
  have hversion := h.version
  exact wakes.imp (fun hnews => by omega) h.givenUp

/-- Who has seen every setting of a signal that told to go on need not wait for it once it tells to
stop. -/
theorem alerts (h : s.Onward s') (known : seen ≤ s.version)
    (alert : s.stops = true → s.wakes seen = true) (stops : s'.stops = true) :
    s'.wakes seen = true := by
  by_cases hstops : s.stops = true
  · exact h.wakes known (alert hstops)
  · -- the signal has come to tell to stop, so it was set or given up
    have hvalue : s.value = false := by
      simp only [Signal.stops, Bool.or_eq_true, not_or, Bool.not_eq_true] at hstops
      exact hstops.1
    simp only [Signal.stops, Signal.wakes, hasNews, Bool.or_eq_true, bne_iff_ne] at stops ⊢
    refine stops.imp (fun hset heq => ?_) id
    have hsame : s'.version = s.version := Nat.le_antisymm (heq ▸ known) h.version
    rw [← h.value hsame, hset] at hvalue
    cases hvalue

end Signal.Onward

/-- Subscriptions may have been made, and as long as none was the backlogs only grow. -/
structure Broker.Onward (b b' : Broker) : Prop where
  nextStream : b.nextStream ≤ b'.nextStream
  backlog : b'.nextStream = b.nextStream → ∀ queue,
    b.backlog.getD queue [] <+: b'.backlog.getD queue []

namespace Broker.Onward

variable {b b' b'' : Broker}

theorem trans (h : b.Onward b') (h' : b'.Onward b'') : b.Onward b'' where
  nextStream := Nat.le_trans h.nextStream h'.nextStream
  backlog same queue := by
    -- the number of the next subscription was the same in between
    have hfirst := Nat.le_antisymm (same ▸ h'.nextStream) h.nextStream
    exact (h.backlog hfirst queue).trans (h'.backlog (same.trans hfirst.symm) queue)

theorem of_eq (nextStream : b'.nextStream = b.nextStream) (backlog : b'.backlog = b.backlog) :
    b.Onward b' where
  nextStream := Nat.le_of_eq nextStream.symm
  backlog _ _ := backlog ▸ List.prefix_rfl

theorem refl (b : Broker) : b.Onward b :=
  of_eq rfl rfl

theorem of_alike (h : b.Alike b') : b.Onward b' :=
  of_eq h.nextStream h.backlog

theorem giveUp (b : Broker) (held kept : Option StreamId) : b.Onward (b.giveUp held kept) := by
  unfold Broker.giveUp
  split
  · split
    · exact refl b
    · exact of_eq rfl rfl
  · exact refl b

theorem deliver (b : Broker) (queue : String) (r : Receipt) : b.Onward (b.deliver queue r) := by
  unfold Broker.deliver
  simp only
  split
  · refine ⟨Nat.le_refl _, fun _ other => ?_⟩
    show _ <+: Table.getD (b.backlog.put queue _) other []
    rw [Table.getD_put]
    split
    · next heq => exact heq ▸ List.prefix_append ..
    · exact List.prefix_rfl
  · exact of_eq rfl rfl

theorem receive (b : Broker) (stream : StreamId) : b.Onward (b.receive stream).2 := by
  unfold Broker.receive
  split
  · exact refl b
  · split
    · split <;> exact of_eq rfl rfl
    · exact refl b

theorem subscribe (b : Broker) (queue : String) : b.Onward (b.subscribe queue).2 := by
  unfold Broker.subscribe
  split
  · exact refl b
  · exact ⟨Nat.le_succ _, fun same => absurd same (Nat.succ_ne_self _)⟩

end Broker.Onward

namespace Rehearsal.World

/-! ## Worlds -/

/-- What is watched has a number that was given out, and nobody has seen a setting of a signal that
it does not have yet. -/
structure Attentive (w : World) : Prop where
  named : ∀ name signal, w.signalNames.get? name = some signal → signal < w.fresh
  watches : ∀ t task watch, w.tasks.get? t = some task → task.watch = some watch →
    watch.signal < w.fresh ∧ watch.seen ≤ (w.signal watch.signal).version

/-- A world after something has happened in which at most one task that was there went on. -/
structure Onward (who : Option TaskId) (w w' : World) : Prop where
  now : w.now ≤ w'.now
  fresh : w.fresh ≤ w'.fresh
  others : ∀ t, t < w.fresh → who ≠ some t → w'.tasks.get? t = w.tasks.get? t
  signals : ∀ signal, signal < w.fresh → (w.signal signal).Onward (w'.signal signal)
  broker : w.broker.Onward w'.broker
  attentive : w.Attentive → w'.Attentive

section Onward

variable {who : Option TaskId} {w w' w₁ w₂ : World} {id : TaskId}

theorem Onward.trans (h : Onward who w w₁) (h' : Onward who w₁ w₂) : Onward who w w₂ where
  now := Nat.le_trans h.now h'.now
  fresh := Nat.le_trans h.fresh h'.fresh
  others t ht hne := (h'.others t (Nat.lt_of_lt_of_le ht h.fresh) hne).trans (h.others t ht hne)
  signals signal hs :=
    (h.signals signal hs).trans (h'.signals signal (Nat.lt_of_lt_of_le hs h.fresh))
  broker := h.broker.trans h'.broker
  attentive hw := h'.attentive (h.attentive hw)

/-- Everybody watches what they watched, or a signal of which they have not seen too much. -/
theorem Attentive.next (h : w.Attentive) (fresh : w.fresh ≤ w'.fresh)
    (names : w'.signalNames = w.signalNames)
    (signals : ∀ signal, signal < w.fresh → (w.signal signal).Onward (w'.signal signal))
    (tasks : ∀ t task watch, w'.tasks.get? t = some task → task.watch = some watch →
      (∃ old, w.tasks.get? t = some old ∧ old.watch = some watch) ∨
        watch.signal < w'.fresh ∧ watch.seen ≤ (w'.signal watch.signal).version) :
    w'.Attentive where
  named name signal hname := Nat.lt_of_lt_of_le (h.named name signal (names ▸ hname)) fresh
  watches t task watch ht hwatch := by
    rcases tasks t task watch ht hwatch with ⟨old, hold, holdWatch⟩ | hnew
    · obtain ⟨hgiven, hseen⟩ := h.watches t old watch hold holdWatch
      exact ⟨Nat.lt_of_lt_of_le hgiven fresh, Nat.le_trans hseen (signals _ hgiven).version⟩
    · exact hnew

/-- Nothing has changed for the tasks. -/
theorem onward_of_eq (now : w'.now = w.now) (tasks : w'.tasks = w.tasks)
    (signals : w'.signals = w.signals) (names : w'.signalNames = w.signalNames)
    (fresh : w.fresh ≤ w'.fresh) (broker : w.broker.Onward w'.broker) : Onward who w w' := by
  have hsignals (signal : SignalId) : (w.signal signal).Onward (w'.signal signal) := by
    unfold World.signal
    exact signals ▸ .refl _
  refine ⟨Nat.le_of_eq now.symm, fresh, fun t _ _ => tasks ▸ rfl, fun signal _ => hsignals signal,
    broker, fun h => ?_⟩
  exact h.next fresh names (fun signal _ => hsignals signal)
    fun t task watch ht hwatch => .inl ⟨task, tasks ▸ ht, hwatch⟩

/-- Only things that nobody watches have changed. -/
theorem onward_aside (now : w'.now = w.now) (tasks : w'.tasks = w.tasks)
    (signals : w'.signals = w.signals) (names : w'.signalNames = w.signalNames)
    (fresh : w'.fresh = w.fresh) (broker : w'.broker = w.broker) : Onward who w w' :=
  onward_of_eq now tasks signals names (Nat.le_of_eq fresh.symm) (broker ▸ .refl _)

theorem onward_refl (who : Option TaskId) (w : World) : Onward who w w :=
  onward_aside rfl rfl rfl rfl rfl rfl

/-- A task is changed, and what it watches it has not seen too much of. -/
theorem onward_put (task' : Task)
    (watches : w.Attentive → ∀ watch, task'.watch = some watch →
      watch.signal < w.fresh ∧ watch.seen ≤ (w.signal watch.signal).version)
    {broker : Broker} (onward : w.broker.Onward broker) :
    Onward (some id) w { w with tasks := w.tasks.put id task', broker } := by
  refine ⟨Nat.le_refl _, Nat.le_refl _, fun t _ hne => ?_, fun _ _ => .refl _, onward, fun h => ?_⟩
  · exact (Table.get?_put ..).trans (if_neg fun heq => hne (congrArg some heq))
  · refine h.next (Nat.le_refl _) rfl (fun _ _ => .refl _) fun t task watch ht hwatch => ?_
    simp only [Table.get?_put] at ht
    split at ht
    · cases ht
      exact .inr (watches h watch hwatch)
    · exact .inl ⟨task, ht, hwatch⟩

/-! ## Going on -/

theorem onward_setState (w : World) (id : TaskId) (state : TaskState) :
    Onward (some id) w (w.setState id state) := by
  unfold setState
  split
  · exact onward_refl _ w
  · next task hget =>
    exact onward_put { task with state }
      (fun h watch hwatch => h.watches id task watch hget hwatch) (.giveUp ..)

theorem onward_arrive (w : World) (id : TaskId) (r : Request) :
    Onward who w (w.arrive id r).2 := by
  cases hr : target? r with
  | some target =>
    simp only [arrive, takeFresh, hr, takeInterference]
    split <;> exact onward_of_eq rfl rfl rfl rfl (Nat.le_succ _) (.refl _)
  | none =>
    simp only [arrive, takeFresh, hr]
    cases r <;> exact onward_of_eq rfl rfl rfl rfl (Nat.le_succ _) (.refl _)

theorem onward_finish (w : World) (id : TaskId) (reply : Reply) :
    Onward (some id) w (w.finish id reply) :=
  w.onward_setState id _

theorem onward_await (w : World) (id : TaskId) (activity : Activity) :
    Onward (some id) w (w.await id activity) := by
  unfold await
  split
  · exact onward_refl _ w
  · next r _ => exact (w.onward_arrive id r).trans (onward_setState ..)

theorem onward_awaitUntil (w : World) (id : TaskId) (activity : Activity) (milliseconds : Nat) :
    Onward (some id) w (w.awaitUntil id activity milliseconds) := by
  have hfresh : Onward (some id) w w.takeFresh.2 :=
    onward_of_eq rfl rfl rfl rfl (Nat.le_succ _) (.refl _)
  exact hfresh.trans (onward_setState ..)

theorem onward_settle {σ α : Type} (w : World) (id : TaskId) (wrap : σ → Activity)
    (reply : α → Reply) (turn : Turn σ α) :
    Onward (some id) w (w.settle id wrap reply turn) := by
  have htold : Onward (some id) w (w.tell turn.notices) := onward_aside rfl rfl rfl rfl rfl rfl
  unfold settle
  split
  · exact htold.trans (onward_await ..)
  · exact htold.trans (onward_finish ..)

/-! ## Signals and names -/

theorem onward_changeSignal (w : World) (signal : SignalId) {change : Signal → Signal}
    (onward : ∀ s : Signal, s.Onward (change s)) :
    Onward who w (w.changeSignal signal change) := by
  have hsignals (other : SignalId) :
      (w.signal other).Onward ((w.changeSignal signal change).signal other) := by
    show (w.signal other).Onward ((w.signals.put signal (change (w.signal signal))).getD other .fresh)
    rw [Table.getD_put]
    split
    · next heq => exact heq ▸ onward _
    · exact .refl _
  refine ⟨Nat.le_refl _, Nat.le_refl _, fun _ _ _ => rfl, fun other _ => hsignals other, .refl _,
    fun h => ?_⟩
  exact h.next (Nat.le_refl _) rfl (fun other _ => hsignals other)
    fun t task watch ht hwatch => .inl ⟨task, ht, hwatch⟩

/-- A new signal has a number of its own. -/
theorem onward_addSignal (w : World) : Onward who w w.addSignal.2 := by
  have hsignals (other : SignalId) (hother : other < w.fresh) :
      (w.signal other).Onward (w.addSignal.2.signal other) := by
    show (w.signal other).Onward ((w.signals.put w.fresh .fresh).getD other .fresh)
    rw [Table.getD_put, if_neg (Nat.ne_of_gt hother)]
    exact .refl _
  refine ⟨Nat.le_refl _, Nat.le_succ _, fun _ _ _ => rfl, hsignals, .refl _, fun h => ?_⟩
  exact h.next (Nat.le_succ _) rfl hsignals fun t task watch ht hwatch => .inl ⟨task, ht, hwatch⟩

theorem onward_signalOf (who : Option TaskId) (w : World) (name : Name) :
    Onward who w (w.signalOf name).2 ∧
      (w.Attentive → (w.signalOf name).1 < (w.signalOf name).2.fresh) := by
  unfold signalOf
  split
  · next signal hname => exact ⟨onward_refl who w, fun h => h.named name signal hname⟩
  · have hadds : Onward who w w.addSignal.2 := w.onward_addSignal
    refine ⟨{ hadds with attentive := fun h => ?_ }, fun _ => Nat.lt_succ_self _⟩
    refine ⟨fun other signal hother => ?_, (hadds.attentive h).watches⟩
    simp only [Table.get?_put] at hother
    split at hother
    · cases hother
      exact Nat.lt_succ_self _
    · exact (hadds.attentive h).named other signal hother

theorem onward_see (w : World) (id : TaskId) : Onward (some id) w (w.see id) := by
  unfold see
  split
  · next task hget =>
    refine onward_put _ (fun h watch hwatch => ?_) (.refl _)
    obtain ⟨old, hold, rfl⟩ := Option.map_eq_some_iff.mp hwatch
    exact ⟨(h.watches id task old hget hold).1, Nat.le_refl _⟩
  · exact onward_refl _ w

theorem onward_watchFor (w : World) (id : TaskId) (signal : Name) :
    Onward (some id) w (w.watchFor id signal) := by
  obtain ⟨hnamed, hgiven⟩ := onward_signalOf (some id) w signal
  unfold watchFor watch
  generalize hof : w.signalOf signal = named at hnamed hgiven
  obtain ⟨number, w₁⟩ := named
  simp only
  split
  · refine ⟨hnamed.now, hnamed.fresh, fun t ht hne => ?_, hnamed.signals, hnamed.broker,
      fun h => ?_⟩
    · exact ((Table.get?_put ..).trans (if_neg fun heq => hne (congrArg some heq))).trans
        (hnamed.others t ht hne)
    · refine (hnamed.attentive h).next (Nat.le_refl _) rfl (fun _ _ => .refl _)
        fun t task watch ht hwatch => ?_
      simp only [Table.get?_put] at ht
      split at ht
      · cases ht
        cases hwatch
        exact .inr ⟨hgiven h, Nat.le_refl _⟩
      · exact .inl ⟨task, ht, hwatch⟩
  · exact hnamed

theorem onward_publisherOf (w : World) (name : Name) : Onward who w (w.publisherOf name).2 := by
  unfold publisherOf
  split
  · exact onward_refl who w
  · exact onward_of_eq rfl rfl rfl rfl (Nat.le_succ _) (.refl _)

theorem onward_nameStream (w : World) (name : Name) (stream : StreamId) :
    Onward who w (w.nameStream name stream) := by
  unfold nameStream
  refine onward_of_eq rfl rfl rfl rfl (Nat.le_refl _) ?_
  simp only
  split
  · exact .of_eq rfl rfl
  · exact .refl _

/-! ## Adding tasks -/

theorem onward_addTask (w : World) (config : Config) {watch : Option Watch} (activity : Activity)
    (watches : w.Attentive → ∀ s, watch = some s →
      s.signal < w.fresh ∧ s.seen ≤ (w.signal s.signal).version) :
    Onward who w (w.addTask config watch activity).2 := by
  refine ⟨Nat.le_refl _, Nat.le_succ _, fun t ht _ => ?_, fun _ _ => .refl _, .refl _,
    fun h => ?_⟩
  · exact (Table.get?_put ..).trans (if_neg (Nat.ne_of_gt ht))
  · refine h.next (Nat.le_succ _) rfl (fun _ _ => .refl _) fun t task s ht hs => ?_
    change (w.tasks.put w.fresh _).get? t = some task at ht
    rw [Table.get?_put] at ht
    split at ht
    · cases ht
      obtain ⟨hgiven, hseen⟩ := watches h s hs
      exact .inr ⟨Nat.lt_succ_of_lt hgiven, hseen⟩
    · exact .inl ⟨task, ht, hs⟩

theorem onward_spawn (w : World) (config : Config) (activity : Activity) :
    Onward who w (w.addTask config none activity).2 :=
  w.onward_addTask config activity fun _ _ hwatch => absurd hwatch.symm (Option.some_ne_none _)

theorem onward_launchLoop (w : World) (pipeline : Pipeline) (activity : Activity) :
    Onward who w (launch.launchLoop w pipeline activity).2 := by
  refine w.onward_addSignal.trans (onward_addTask _ _ _ fun _ s hs => ?_)
  cases hs
  exact ⟨Nat.lt_succ_self _, Nat.zero_le _⟩

theorem onward_launch (w : World) (publisher : Bool) (consumer : Option StreamId) :
    Onward who w (w.launch publisher consumer).2 := by
  unfold launch
  split
  · exact onward_refl who w
  · next pipeline _ =>
    cases publisher <;> cases consumer
    · exact onward_refl who w
    · exact w.onward_launchLoop pipeline _
    · exact w.onward_launchLoop pipeline _
    · exact (w.onward_launchLoop pipeline _).trans (onward_launchLoop ..)

/-! ## Actions -/

theorem onward_insert (w : World) (draft : Draft) : Onward who w (w.insert draft).2 := by
  simp only [insert, takeMessageId]
  split <;> exact onward_aside rfl rfl rfl rfl rfl rfl

theorem onward_insertMany (w : World) (next n : Nat) : Onward who w (w.insertMany next n).2 := by
  induction n generalizing w next with
  | zero => exact onward_refl who w
  | succ n ih =>
    unfold insertMany
    exact (w.onward_insert _).trans (ih _ _)

theorem onward_serve (w : World) (failing : List MessageId) (detail exchange queue : String)
    (n : Nat) : Onward who w (w.serve failing detail exchange queue n).2 := by
  induction n generalizing w with
  | zero => exact onward_refl who w
  | succ n ih =>
    have htaken := w.broker.alike_take exchange
    unfold serve
    split
    · next broker htake =>
      rw [htake] at htaken
      exact onward_of_eq rfl rfl rfl rfl (Nat.le_refl _) (.of_alike htaken)
    · next p broker htake =>
      rw [htake] at htaken
      have hdelivered (r : Receipt) :
          Onward who w { w with broker := broker.deliver queue r } :=
        onward_of_eq rfl rfl rfl rfl (Nat.le_refl _)
          ((Broker.Onward.of_alike htaken).trans (.deliver ..))
      exact (hdelivered _).trans (ih _)

theorem onward_publish (w : World) (exchange : String) (m : Message) :
    Onward who w (w.publish exchange m).2 := by
  have hbroker := Broker.Onward.of_alike (w.broker.alike_publish exchange m)
  unfold publish
  split
  all_goals
    next broker hpublish =>
      rw [hpublish] at hbroker
      exact onward_of_eq rfl rfl rfl rfl (Nat.le_refl _) hbroker

theorem onward_build (w : World) (omitted : List Part) : Onward who w (w.build omitted).2 := by
  rcases w.build_eq omitted with ⟨failure, hbuild⟩ | ⟨config, loops, hbuild⟩
  · rw [hbuild]
    exact onward_refl who w
  · rw [hbuild]
    have hcleared : Onward who w
        (loops.foldl (fun w loop => w.changeSignal loop.signal Signal.giveUp) w) :=
      List.foldlRecOn loops _ (onward_refl who w) fun w' hw' loop _ =>
        hw'.trans (w'.onward_changeSignal loop.signal .giveUp)
    exact hcleared.trans (onward_of_eq rfl rfl rfl rfl (Nat.le_succ _) (.refl _))

/-- What an action does at once. -/
theorem onward_of_actAtOnce {action : Action} {reply : Reply}
    (h : w.actAtOnce? action = some (reply, w')) : Onward who w w' := by
  have hbroker {broker : Broker} (onward : w.broker.Onward broker) :
      Onward who w { w with broker } := onward_of_eq rfl rfl rfl rfl (Nat.le_refl _) onward
  cases action with
  | insert draft =>
    cases h
    exact w.onward_insert draft
  | insertMany n =>
    cases h
    exact w.onward_insertMany 0 n
  | publish message exchange =>
    simp only [actAtOnce?] at h
    split at h <;> cases h
    · exact onward_refl who w
    · exact w.onward_publish ..
  | deliver r queue =>
    cases h
    exact hbroker (.deliver ..)
  | serve n failing detail exchange queue =>
    cases h
    exact w.onward_serve ..
  | subscribe name queue =>
    have hsubscribed := Broker.Onward.subscribe w.broker (queue.getD w.config.receiptQueue)
    simp only [actAtOnce?] at h
    split at h
    · next stream broker heq =>
      rw [heq] at hsubscribed
      cases h
      exact (hbroker hsubscribed).trans (onward_nameStream ..)
    · next failure broker heq =>
      rw [heq] at hsubscribed
      cases h
      exact hbroker hsubscribed
  | unsubscribe name =>
    simp only [actAtOnce?] at h
    split at h <;> cases h
    · exact onward_refl who w
    · exact onward_of_eq rfl rfl rfl rfl (Nat.le_refl _) (.of_eq rfl rfl)
  | setSignal name value =>
    cases h
    exact (onward_signalOf _ w name).1.trans (onward_changeSignal _ _ fun s => .set s value)
  | dropSignal name =>
    simp only [actAtOnce?] at h
    split at h <;> cases h
    · exact onward_refl who w
    · next signal _ =>
      have hgivenUp : Onward who w (w.changeSignal signal Signal.giveUp) :=
        w.onward_changeSignal signal .giveUp
      refine { hgivenUp with attentive := fun hw => ⟨fun other number hother => ?_,
        (hgivenUp.attentive hw).watches⟩ }
      simp only [Table.get?_erase] at hother
      split at hother
      · cases hother
      · exact (hgivenUp.attentive hw).named other number hother
  | spawn name other =>
    cases h
    have hadds : Onward who w (w.addTask w.config none (.acting other)).2 :=
      w.onward_spawn w.config _
    exact hadds.trans (onward_aside rfl rfl rfl rfl rfl rfl)
  | isFinished name =>
    simp only [actAtOnce?] at h
    split at h <;> cases h <;> exact onward_refl who w
  | setReachable | reject | failPublications | close | cut =>
    cases h
    exact hbroker (.of_eq rfl rfl)
  | fetch limit =>
    rcases world_of_fetchAtOnce h with rfl | rfl
    · exact onward_refl who w'
    · exact onward_aside rfl rfl rfl rfl rfl rfl
  | update | release | get | tally | failOperations | failUpdates | append | entriesOf
  | allEntries | historyIsEmpty | ready | subscribers | setClock | script =>
    cases h
    exact onward_aside rfl rfl rfl rfl rfl rfl
  | pop | serveForever | next | record | batch | runPublisher | handle | runConsumer | build | start
  | stop | shutDown | advance | join | impossible => cases h

/-- A task begins with its action. -/
theorem onward_begin (w : World) (id : TaskId) (action : Action) :
    Onward (some id) w (w.begin id action) := by
  have hatOnce : Onward (some id) w (w.doAtOnce id action) := by
    unfold doAtOnce
    split
    · next reply w₁ hact =>
      have hacted : Onward (some id) w w₁ := onward_of_actAtOnce hact
      exact hacted.trans (onward_finish ..)
    · exact w.onward_finish id .refused
  have hpipeline (activity : Activity) : Onward (some id) w (w.withPipeline id activity) := by
    unfold withPipeline
    split
    · exact w.onward_finish id .refused
    · split
      · next task hget =>
        have hput (config : Config) : Onward (some id) w
            { w with tasks := w.tasks.put id { task with config } } :=
          onward_put { task with config }
            (fun h watch hwatch => h.watches id task watch hget hwatch) (.refl _)
        exact (hput _).trans (onward_await ..)
      · exact onward_refl _ w
  have hforgot {streamNames : Table Name StreamId} :
      Onward (some id) w { w with streamNames } := onward_aside rfl rfl rfl rfl rfl rfl
  cases action with
  | pop | serveForever | record | handle | build => exact w.onward_await id _
  | batch publisher signal | runPublisher publisher signal =>
    exact ((w.onward_publisherOf publisher).trans (onward_watchFor ..)).trans (onward_await ..)
  | runConsumer name signal =>
    simp only [begin]
    split
    · exact w.onward_finish id .refused
    · exact (hforgot.trans (onward_watchFor ..)).trans (onward_await ..)
  | next name timeout =>
    simp only [begin]
    split
    · exact w.onward_finish id .refused
    · exact hforgot.trans (onward_awaitUntil ..)
  | start | stop | shutDown => exact hpipeline _
  | advance milliseconds => exact w.onward_awaitUntil id _ _
  | join name =>
    simp only [begin]
    split
    · exact w.onward_finish id .refused
    · exact w.onward_awaitUntil id _ _
  | insert | insertMany | fetch | update | release | get | tally | failOperations | failUpdates
  | append | entriesOf | allEntries | historyIsEmpty | setReachable | reject | failPublications
  | ready | publish | deliver | serve | close | cut | subscribers | subscribe | unsubscribe
  | setSignal | dropSignal | setClock | script | isFinished | impossible | spawn => exact hatOnce

/-! ## Answers -/

variable {task : Task} {activity : Activity} {wait : Wait}

theorem onward_of_call {ε α : Type} {fault : Fault → Option ε}
    {operation : World → Except ε α × World} {given : Option (Except ε α)}
    (h : w.call wait fault operation = some (w₁, given)) (made : Onward who w (operation w).2) :
    Onward who w w₁ := by
  rcases world_of_call h with rfl | rfl
  · exact onward_refl who w₁
  · exact made

theorem onward_of_answer {r : Request} {given : Option r.Answer}
    (h : w.answer? id task activity wait r = some (w₁, given)) : Onward (some id) w w₁ := by
  have hbroker {broker : Broker} (onward : w.broker.Onward broker) :
      Onward (some id) w { w with broker } := onward_of_eq rfl rfl rfl rfl (Nat.le_refl _) onward
  cases r with
  | proceed =>
    cases h
    exact onward_refl _ w
  | enter | sleep =>
    simp only [World.answer?] at h
    split at h <;> cases h
    exact onward_refl _ w
  | fetch limit =>
    rcases world_of_fetch h with rfl | rfl
    · exact onward_refl _ w₁
    · exact onward_aside rfl rfl rfl rfl rfl rfl
  | release | append | ready =>
    simp only [World.answer?] at h
    exact onward_of_call h (onward_aside rfl rfl rfl rfl rfl rfl)
  | update message status =>
    simp only [World.answer?] at h
    refine onward_of_call h ?_
    unfold update
    split <;> exact onward_aside rfl rfl rfl rfl rfl rfl
  | publish exchange m =>
    simp only [World.answer?] at h
    exact onward_of_call h (w.onward_publish exchange m)
  | subscribe queue =>
    simp only [World.answer?] at h
    exact onward_of_call h (hbroker (.subscribe ..))
  | pause =>
    simp only [World.answer?] at h
    split at h <;> split at h <;> cases h
    · exact onward_refl _ w
    · exact w.onward_see id
  | receive stream =>
    have hreceived := Broker.Onward.receive w.broker stream
    simp only [World.answer?] at h
    split at h
    · cases h
      exact w.onward_see id
    · split at h
      · cases h
      all_goals
        next heq =>
          rw [heq] at hreceived
          cases h
          exact hbroker hreceived
  | take exchange =>
    cases h
    exact hbroker (.of_alike (w.broker.alike_take exchange))
  | listen =>
    simp only [World.answer?] at h
    split at h
    · cases h
      exact onward_aside rfl rfl rfl rfl rfl rfl
    · split at h <;> cases h
      exact onward_aside rfl rfl rfl rfl rfl rfl
  | launch publisher consumer =>
    cases h
    exact w.onward_launch publisher consumer
  | halt loops =>
    cases h
    refine List.foldlRecOn loops _ (onward_refl _ w) fun w' hw' loop _ => hw'.trans ?_
    have hset : Onward (some id) w' (w'.changeSignal loop.signal (·.set true)) :=
      w'.onward_changeSignal loop.signal fun s => .set s true
    refine hset.trans ?_
    unfold wake
    split <;> exact onward_aside rfl rfl rfl rfl rfl rfl
  | join =>
    obtain ⟨ending, -, h⟩ := Option.map_eq_some_iff.mp h
    cases h
    exact onward_refl _ w

/-- A task goes on with the answer to a request, or crashes. -/
theorem onward_answered {r : Request} {resume : World → r.Answer → World}
    (hturn : answered id (w.answer? id task activity wait r) resume = some w')
    (resumed : ∀ w₁ answer, Onward (some id) w₁ (resume w₁ answer)) : Onward (some id) w w' := by
  rcases answered_cases hturn with ⟨w₁, hanswer, rfl⟩ | ⟨w₁, answer, hanswer, rfl⟩
  · exact (onward_of_answer hanswer).trans (onward_finish ..)
  · exact (onward_of_answer hanswer).trans (resumed w₁ answer)

/-! ## Scenes -/

theorem onward_of_turn (hturn : w.turn? id = some w') : Onward (some id) w w' := by
  have hcarried {w : World} (carried : Table Nat (List Outcome)) :
      Onward (some id) w { w with carried } := onward_aside rfl rfl rfl rfl rfl rfl
  have hroster {w : World} (roster : Roster) : Onward (some id) w (w.setRoster roster) :=
    onward_aside rfl rfl rfl rfl rfl rfl
  cases hget : w.tasks.get? id with
  | none => simp [turn?, hget] at hturn
  | some task =>
    obtain ⟨c, watch, state⟩ := task
    simp only [turn?, hget, Option.bind_eq_bind, Option.bind_some] at hturn
    cases state with
    | ended => cases hturn
    | running activity wait =>
      cases activity with
      | acting action =>
        cases hturn
        exact w.onward_begin id action
      | sleeping =>
        simp only at hturn
        split at hturn <;> cases hturn
        exact w.onward_finish id .done
      | awaiting name stream =>
        have hback : Onward (some id) w
            (({ w with broker := (w.broker.receive stream).2 } : World).nameStream name stream) := by
          have hreceived : Onward (some id) w { w with broker := (w.broker.receive stream).2 } :=
            onward_of_eq rfl rfl rfl rfl (Nat.le_refl _) (.receive ..)
          exact hreceived.trans (onward_nameStream ..)
        simp only at hturn
        split at hturn
        · cases hturn
          exact hback.trans (onward_finish ..)
        · cases hturn
          exact hback.trans (onward_finish ..)
        · cases hturn
          exact hback.trans (onward_finish ..)
        · split at hturn <;> cases hturn
          exact hback.trans (onward_finish ..)
      | joining name other =>
        have hforgot : Onward (some id) w { w with taskNames := w.taskNames.erase name } :=
          onward_aside rfl rfl rfl rfl rfl rfl
        simp only at hturn
        split at hturn
        · cases hturn
          exact hforgot.trans (onward_finish ..)
        · cases hturn
          exact hforgot.trans (onward_finish ..)
        · split at hturn <;> cases hturn
          exact w.onward_finish id .timedOut
      | popping s => exact onward_answered hturn fun w₁ answer => w₁.onward_settle ..
      | serving exchange queue served s =>
        refine onward_answered hturn fun w₁ answer => ?_
        split
        · exact w₁.onward_await id _
        · next p _ =>
          cases p with
          | none => exact w₁.onward_await id _
          | some p =>
            have hdelivered (r : Receipt) :
                Onward (some id) w₁ { w₁ with broker := w₁.broker.deliver queue r } :=
              onward_of_eq rfl rfl rfl rfl (Nat.le_refl _) (.deliver ..)
            exact (hdelivered _).trans (onward_await ..)
      | recording s => exact onward_answered hturn fun w₁ answer => w₁.onward_settle ..
      | handling s => exact onward_answered hturn fun w₁ answer => w₁.onward_settle ..
      | batching publisher s =>
        exact onward_answered hturn fun w₁ answer => (hcarried _).trans (onward_settle ..)
      | publishing publisher s =>
        exact onward_answered hturn fun w₁ answer => (hcarried _).trans (onward_settle ..)
      | consuming s => exact onward_answered hturn fun w₁ answer => w₁.onward_settle ..
      | building omitted =>
        exact onward_answered hturn fun w₁ answer =>
          (w₁.onward_build omitted).trans (onward_finish ..)
      | starting s =>
        exact onward_answered hturn fun w₁ answer => (hroster _).trans (onward_settle ..)
      | stopping s shutDown =>
        exact onward_answered hturn fun w₁ answer => (hroster _).trans (onward_settle ..)

theorem onward_of_hear (hhear : w.hear? id = some w') : Onward (some id) w w' := by
  simp only [hear?, Option.bind_eq_bind, Option.bind_eq_some_iff] at hhear
  obtain ⟨task, -, hhear⟩ := hhear
  split at hhear
  · exact onward_answered hhear fun w₁ answer => w₁.onward_settle ..
  · cases hhear

/-- **Every scene is a step onward.** -/
theorem onward_of_happen {happening : Happening} (step : w.happen? happening = some w') :
    Onward happening.mover? w w' := by
  cases happening with
  | begin action =>
    cases step
    exact w.onward_spawn w.config _
  | turn t => exact onward_of_turn step
  | hear t => exact onward_of_hear step
  | forget t =>
    simp only [World.happen?] at step
    split at step <;> cases step
    refine ⟨Nat.le_refl _, Nat.le_refl _, fun other _ hne => ?_, fun _ _ => .refl _, .refl _,
      fun h => ?_⟩
    · exact (Table.get?_erase ..).trans (if_neg fun heq => hne (congrArg some heq))
    · refine h.next (Nat.le_refl _) rfl (fun _ _ => .refl _) fun other task watch hother hwatch => ?_
      simp only [Table.get?_erase] at hother
      split at hother
      · cases hother
      · exact .inl ⟨task, hother, hwatch⟩
  | wait milliseconds =>
    cases step
    have honward := onward_refl none w
    refine ⟨Nat.le_add_right .., honward.fresh, honward.others, honward.signals, honward.broker,
      fun h => ?_⟩
    exact ⟨h.named, h.watches⟩
  | note | takeTold =>
    cases step
    exact onward_aside rfl rfl rfl rfl rfl rfl

end Onward

end Rehearsal.World

end Outbox
