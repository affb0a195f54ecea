import Outbox.Proofs.Rehearsal.Handover
/-!
# `Proofs.Rehearsal.Holding` — who holds which subscription

While receipts are read by the loops of pipelines only, every subscription is held by exactly one
task, which is a consumer's loop or a start that is about to set one going; it is to the queue that
it was made for, and nothing but receipts is heard from it. This is kept by every scene of a play.
-/

namespace Outbox

namespace Broker

/-- Every subscription is held by one task, and is neither closed nor cut. -/
structure Holds (b : Broker) (held : TaskId → Option StreamId) : Prop where
  opened : ∀ t stream, held t = some stream → b.Open stream
  sole : ∀ t t' stream, held t = some stream → held t' = some stream → t = t'
  holder : ∀ stream, b.streams.contains stream = true → ∃ t, held t = some stream

section Holds

variable {b b' : Broker} {held : TaskId → Option StreamId} {id : TaskId} {queue : String}
  {stream : StreamId} {r : Receipt}

theorem Holds.alike (h : b.Holds held) (alike : b.Alike b') : b'.Holds held where
  opened t stream ht := alike.isOpen (h.opened t stream ht)
  sole := h.sole
  holder stream hthere := h.holder stream (alike.streams ▸ hthere)

theorem Holds.deliver (h : b.Holds held) (hb : b.Wired) (queue : String) (r : Receipt) :
    (b.deliver queue r).Holds held where
  opened t stream ht := (h.opened t stream ht).deliver hb queue r
  sole := h.sole
  holder stream hthere := h.holder stream ((contains_deliver hb queue r stream).symm.trans hthere)

theorem Holds.receive (h : b.Holds held) (received : b.receive stream = (.receipt r, b')) :
    b'.Holds held where
  opened t other ht := (h.opened t other ht).receive received
  sole := h.sole
  holder other hthere := h.holder other ((contains_receive received other).symm.trans hthere)

/-- A task that held nothing holds the subscription that it has made. -/
theorem Holds.subscribe (h : b.Holds held) (hb : b.Wired) (free : held id = none)
    (subscribed : b.subscribe queue = (.ok stream, b')) :
    b'.Holds fun t => if id = t then some stream else held t := by
  have hnew {t : TaskId} (ht : held t = some stream) : False := by
    obtain ⟨s, hs, -⟩ := h.opened t stream ht
    rcases subscribe_cases subscribed with ⟨⟨_, hfail⟩, -⟩ | ⟨hstream, -⟩
    · cases hfail
    · cases hstream
      cases hs.symm.trans (hb.fresh _ (Nat.le_refl _))
  constructor
  · intro t other ht
    split at ht
    · cases ht
      exact isOpen_subscribe subscribed
    · exact (h.opened t other ht).subscribe hb subscribed
  · intro t t' other ht ht'
    split at ht
    · next heq =>
      cases ht
      split at ht'
      · next heq' => exact heq.symm.trans heq'
      · exact (hnew ht').elim
    · split at ht'
      · cases ht'
        exact (hnew ht).elim
      · exact h.sole t t' other ht ht'
  · intro other hthere
    rw [contains_subscribe subscribed, Bool.or_eq_true] at hthere
    rcases hthere with heq | hold
    · exact ⟨id, by rw [if_pos rfl, eq_of_beq heq]⟩
    · -- the task held nothing before, so the holder is another one
      obtain ⟨t, ht⟩ := h.holder other hold
      refine ⟨t, ?_⟩
      rw [if_neg, ht]
      rintro rfl
      cases free.symm.trans ht

/-- A task hands over what it holds to one that held nothing. -/
theorem Holds.handOver (h : b.Holds held) {other : TaskId} (hne : id ≠ other)
    (free : held other = none) :
    b.Holds fun t => if id = t then none else if other = t then held id else held t := by
  constructor
  · intro t stream ht
    split at ht
    · cases ht
    · split at ht
      · exact h.opened id stream ht
      · exact h.opened t stream ht
  · intro t t' stream ht ht'
    split at ht
    · cases ht
    · next hid =>
      split at ht'
      · cases ht'
      · next hid' =>
        -- who has taken over holds what the giver held, which was the giver's alone
        split at ht
        · next hother =>
          split at ht'
          · next hother' => exact hother.symm.trans hother'
          · exact absurd (h.sole id t' stream ht ht') hid'
        · split at ht'
          · exact absurd (h.sole id t stream ht' ht) hid
          · exact h.sole t t' stream ht ht'
  · intro stream hthere
    obtain ⟨t, ht⟩ := h.holder stream hthere
    by_cases hid : id = t
    · refine ⟨other, ?_⟩
      rw [if_neg hne, if_pos rfl, hid, ht]
    · refine ⟨t, ?_⟩
      rw [if_neg hid, if_neg, ht]
      rintro rfl
      cases free.symm.trans ht

/-- A task gives up what it holds. -/
theorem Holds.drop (h : b.Holds held) (hid : held id = some stream) :
    (b.drop stream).Holds fun t => if id = t then none else held t := by
  constructor
  · intro t other ht
    split at ht
    · cases ht
    · next hne =>
      refine (h.opened t other ht).drop ?_
      rintro rfl
      exact hne (h.sole id t stream hid ht)
  · intro t t' other ht ht'
    split at ht
    · cases ht
    · split at ht'
      · cases ht'
      · exact h.sole t t' other ht ht'
  · intro other hthere
    rw [contains_drop, Bool.and_eq_true] at hthere
    obtain ⟨t, ht⟩ := h.holder other hthere.1
    refine ⟨t, ?_⟩
    rw [if_neg, ht]
    rintro rfl
    rw [hid] at ht
    cases ht
    simp at hthere

end Holds

end Broker

namespace Rehearsal

namespace World

/-- While receipts are read by the loops of pipelines only, a world is like this. -/
structure Orderly (w : World) : Prop where
  wired : w.broker.Wired
  /-- The numbers that are still to be given out are not those of tasks. -/
  numbered : ∀ t, w.fresh ≤ t → w.stateOf t = none
  admitted : ∀ t state, w.stateOf t = some state → w.admits state = true
  holds : w.broker.Holds w.heldBy

section Orderly

variable {w w' w₁ : World} {id : TaskId} {old new : TaskState}

theorem orderly_initial (c : Config) (clockStart : Int) (ids : List MessageId) :
    (initial c clockStart ids).Orderly where
  wired := Broker.wired_idle
  numbered _ _ := rfl
  admitted _ _ h := by cases h
  holds := by
    constructor
    · intro t stream h
      cases h
    · intro t t' stream h
      cases h
    · intro stream h
      cases h

/-- A state that a task can be in stays one as long as there is a pipeline if there was one. -/
theorem admits_mono (pipeline : w.pipeline.isSome = true → w'.pipeline.isSome = true)
    {state : TaskState} (h : w.admits state = true) : w'.admits state = true := by
  cases state with
  | ended => rfl
  | running activity wait =>
    cases activity with
    | starting s => exact pipeline h
    | _ => exact h

theorem Alike.heldBy (alike : w.Alike w') : w'.heldBy = w.heldBy := by
  funext t
  unfold World.heldBy
  rw [alike.states t]

theorem Orderly.alike (h : w.Orderly) (alike : w.Alike w') : w'.Orderly where
  wired := alike.broker.wired h.wired
  numbered t ht := (alike.states t).trans (h.numbered t (Nat.le_trans alike.fresh ht))
  admitted t state hstate :=
    admits_mono alike.pipeline (h.admitted t state ((alike.states t).symm.trans hstate))
  holds := by
    rw [alike.heldBy]
    exact h.holds.alike alike.broker

/-- A task is there that has gone on. -/
theorem Goes.orderly (goes : Goes id old new w₁ w')
    (wired : (w₁.broker.giveUp old.stream? new.stream?).Wired)
    (numbered : ∀ t, w₁.fresh ≤ t → w₁.stateOf t = none)
    (admitted : ∀ t state, w₁.stateOf t = some state → w₁.admits state = true)
    (admits : w₁.admits new = true)
    (holds : (w₁.broker.giveUp old.stream? new.stream?).Holds fun t =>
      if id = t then new.held? else w₁.heldBy t) : w'.Orderly where
  wired := goes.broker.wired wired
  numbered t ht := by
    have hnone := numbered t (Nat.le_trans goes.fresh ht)
    rw [goes.states t, if_neg, hnone]
    rintro rfl
    cases goes.was.symm.trans hnone
  admitted t state hstate := by
    rw [goes.states t] at hstate
    split at hstate
    · cases hstate
      exact admits_mono goes.pipeline admits
    · exact admits_mono goes.pipeline (admitted t state hstate)
  holds := by
    have hheld : w'.heldBy = fun t => if id = t then new.held? else w₁.heldBy t := by
      funext t
      unfold World.heldBy
      rw [goes.states t]
      split <;> rfl
    rw [hheld]
    exact holds.alike goes.broker

/-! ## Tasks that are added -/

/-- One task is added, and nothing else changes that has to do with the receipts. -/
structure Adds (w w₁ : World) (f : TaskId) (state : TaskState) : Prop where
  broker : w₁.broker = w.broker
  states : ∀ t, w₁.stateOf t = if f = t then some state else w.stateOf t
  pipeline : w₁.pipeline = w.pipeline
  new : w.fresh ≤ f
  fresh : f < w₁.fresh

variable {f : TaskId} {state : TaskState}

theorem adds_addTask (w : World) (config : Config) (watch : Option Watch) (activity : Activity) :
    Adds w (w.addTask config watch activity).2 w.fresh
      (.running activity ⟨w.fresh, none, .none⟩) :=
  ⟨rfl, w.stateOf_addTask config watch activity, rfl, Nat.le_refl _, Nat.lt_succ_self _⟩

theorem adds_launchLoop (w : World) (pipeline : Pipeline) (activity : Activity) :
    Adds w (launch.launchLoop w pipeline activity).2 (w.fresh + 1)
      (.running activity ⟨w.fresh + 1, none, .none⟩) :=
  ⟨rfl, stateOf_launchLoop w pipeline activity, rfl, Nat.le_succ _, Nat.lt_succ_self _⟩

theorem Adds.heldBy (adds : Adds w w₁ f state) (t : TaskId) :
    w₁.heldBy t = if f = t then state.held? else w.heldBy t := by
  unfold World.heldBy
  rw [adds.states t]
  split <;> rfl

theorem Adds.numbered (adds : Adds w w₁ f state) (h : w.Orderly) (t : TaskId)
    (ht : w₁.fresh ≤ t) : w₁.stateOf t = none := by
  have hlt := Nat.lt_of_lt_of_le adds.fresh ht
  rw [adds.states t, if_neg (Nat.ne_of_lt hlt)]
  exact h.numbered t (Nat.le_trans adds.new (Nat.le_of_lt hlt))

theorem Adds.admitted (adds : Adds w w₁ f state) (h : w.Orderly) (admits : w.admits state = true)
    (t : TaskId) (other : TaskState) (hother : w₁.stateOf t = some other) :
    w₁.admits other = true := by
  have hpipeline (h : w.pipeline.isSome = true) : w₁.pipeline.isSome = true := by
    rw [adds.pipeline]
    exact h
  rw [adds.states t] at hother
  split at hother
  · cases hother
    exact admits_mono hpipeline admits
  · exact admits_mono hpipeline (h.admitted t other hother)

/-- A task that is new holds nothing yet. -/
theorem Adds.free (adds : Adds w w₁ f state) (h : w.Orderly) : w.heldBy f = none := by
  unfold World.heldBy
  rw [h.numbered f adds.new]
  rfl

theorem Adds.orderly (adds : Adds w w₁ f state) (h : w.Orderly) (admits : w.admits state = true)
    (held : state.held? = none) : w₁.Orderly where
  wired := adds.broker ▸ h.wired
  numbered := adds.numbered h
  admitted := adds.admitted h admits
  holds := by
    have hheld : w₁.heldBy = w.heldBy := by
      funext t
      rw [adds.heldBy t]
      split
      · next heq => rw [held, ← heq, adds.free h]
      · rfl
    rw [hheld, adds.broker]
    exact h.holds

/-- A start sets a publisher's loop going, or not, and then a consumer's, or not. -/
theorem launch_cases (built : w.pipeline.isSome = true) (publisher : Bool)
    (consumer : Option StreamId) :
    ∃ w₁, (w₁ = w ∨ ∃ f p wait, Adds w w₁ f (.running (.publishing p .starting) wait)) ∧
      ((consumer = none ∧ (w.launch publisher consumer).2 = w₁) ∨
        ∃ stream f wait, consumer = some stream ∧
          Adds w₁ (w.launch publisher consumer).2 f
            (.running (.consuming (.starting stream)) wait)) := by
  obtain ⟨pipeline, hpipeline⟩ := Option.isSome_iff_exists.mp built
  have hfirst := w.adds_launchLoop pipeline (.publishing pipeline.publisher .starting)
  unfold launch
  simp only [hpipeline]
  cases publisher with
  | false =>
    refine ⟨w, .inl rfl, ?_⟩
    cases consumer with
    | none => exact .inl ⟨rfl, rfl⟩
    | some stream => exact .inr ⟨stream, _, _, rfl, w.adds_launchLoop pipeline _⟩
  | true =>
    refine ⟨_, .inr ⟨_, _, _, hfirst⟩, ?_⟩
    cases consumer with
    | none => exact .inl ⟨rfl, rfl⟩
    | some stream => exact .inr ⟨stream, _, _, rfl, adds_launchLoop _ pipeline _⟩

/-! ## What every scene keeps -/

theorem heldBy_of_stateOf (was : w.stateOf id = some old) : w.heldBy id = old.held? := by
  unfold World.heldBy
  rw [was]
  rfl

theorem stream?_of_held (h : old.held? = none) : old.stream? = none := by
  cases old with
  | ended => rfl
  | running activity wait =>
    cases activity with
    | consuming s => cases h
    | _ => rfl

/-- When a task goes on that keeps its subscription the broker stays as it is. -/
theorem Goes.broker_of_same (goes : Goes id old new w₁ w')
    (stream : old.stream? = none ∨ new.stream? = old.stream?) : w₁.broker.Alike w'.broker := by
  have hbroker := goes.broker
  rw [w₁.broker.giveUp_of_same stream] at hbroker
  exact hbroker

/-- A task goes on that holds what it held before. -/
theorem Goes.orderly_of_same (goes : Goes id old new w₁ w') (h : w₁.Orderly)
    (admits : w₁.admits new = true) (same : new.held? = old.held?)
    (stream : old.stream? = none ∨ new.stream? = old.stream?) : w'.Orderly := by
  have hkept := w₁.broker.giveUp_of_same stream
  have hheld : (fun t => if id = t then new.held? else w₁.heldBy t) = w₁.heldBy := by
    funext t
    split
    · next heq => rw [same, ← heq, heldBy_of_stateOf goes.was]
    · rfl
  refine goes.orderly ?_ h.numbered h.admitted admits ?_
  · rw [hkept]
    exact h.wired
  · rw [hkept, hheld]
    exact h.holds

/-- **A turn keeps the order.** -/
theorem Passes.orderly (passes : w.Passes id w') (h : w.Orderly) : w'.Orderly := by
  obtain ⟨old, new, w₁, hwas, hhandover, hgoes⟩ := passes
  cases hhandover with
  | aside before quiet after admitted alike =>
    have horderly := h.alike alike
    exact hgoes.orderly_of_same horderly (admits_mono alike.pipeline admitted)
      (after.trans before.symm) (.inl (stream?_of_held before))
  | @delivers r queue wait reply n =>
    have horderly : ({ w with broker := w.broker.deliver (queue.getD w.config.receiptQueue) r } :
        World).Orderly :=
      ⟨h.wired.deliver _ r, h.numbered, h.admitted, h.holds.deliver h.wired _ r⟩
    exact hgoes.orderly_of_same horderly rfl rfl (.inl rfl)
  | @spawns name action wait reply n spares =>
    have hadds := w.adds_addTask w.config none (.acting action)
    exact hgoes.orderly_of_same (hadds.orderly h spares rfl) rfl rfl (.inl rfl)
  | @subscribes queue publisher stream broker wait wait' subscribed =>
    have hbuilt : w.pipeline.isSome = true := h.admitted id _ hwas
    exact hgoes.orderly (h.wired.subscribe subscribed) h.numbered h.admitted hbuilt
      (h.holds.subscribe h.wired (heldBy_of_stateOf hwas) subscribed)
  | @launches publisher consumer wait reply n =>
    have hbuilt : w.pipeline.isSome = true := h.admitted id _ hwas
    obtain ⟨w₂, hfirst, hsecond⟩ := launch_cases hbuilt publisher consumer
    have horderly : w₂.Orderly := by
      rcases hfirst with rfl | ⟨f, p, wait', hadds⟩
      · exact h
      · exact hadds.orderly h rfl rfl
    rcases hsecond with ⟨rfl, hlaunched⟩ | ⟨stream, f, wait', rfl, hadds⟩
    · rw [hlaunched] at hgoes
      exact hgoes.orderly_of_same horderly rfl rfl (.inl rfl)
    · -- the loop that is added takes over what the start held
      have hfree := hadds.free horderly
      have hne : id ≠ f := by
        rintro rfl
        have hnew := hgoes.was.symm.trans ((hadds.states id).trans (if_pos rfl))
        cases hnew
      have hheld : w₂.heldBy id = some stream := by
        have hold := heldBy_of_stateOf hgoes.was
        rw [hadds.heldBy, if_neg (Ne.symm hne)] at hold
        exact hold
      have hholds := horderly.holds.handOver hne hfree
      rw [hheld] at hholds
      refine hgoes.orderly ?_ (hadds.numbered horderly) (hadds.admitted horderly rfl) rfl ?_
      · show (w.launch publisher (some stream)).2.broker.Wired
        rw [hadds.broker]
        exact horderly.wired
      · show (w.launch publisher (some stream)).2.broker.Holds _
        rw [hadds.broker]
        have heq : (fun t => if id = t then none else (w.launch publisher (some stream)).2.heldBy t) =
            fun t => if id = t then none else if f = t then some stream else w₂.heldBy t := by
          funext t
          rw [hadds.heldBy t]
          rfl
        exact heq ▸ hholds
  | @hears stream r broker wait wait' received =>
    have horderly : ({ w with broker } : World).Orderly :=
      ⟨h.wired.receive received, h.numbered, h.admitted, h.holds.receive received⟩
    exact hgoes.orderly_of_same horderly rfl rfl (.inr rfl)
  | @consumes s s' wait wait' w₁ same connected unheard alike =>
    have hstream : some s'.stream = some s.stream := congrArg some same
    exact hgoes.orderly_of_same (h.alike alike) connected hstream (.inr hstream)
  | @ends s wait reply n w₁ reason alike =>
    have horderly := h.alike alike
    have hheld : w₁.heldBy id = some s.stream := heldBy_of_stateOf hgoes.was
    exact hgoes.orderly (horderly.wired.drop s.stream) horderly.numbered horderly.admitted rfl
      (horderly.holds.drop hheld)

/-- A task that has come to its end is forgotten. -/
theorem Orderly.forget (h : w.Orderly) (ended : (w.ended id).isSome = true) :
    ({ w with tasks := w.tasks.erase id } : World).Orderly := by
  have hstates (t : TaskId) : ({ w with tasks := w.tasks.erase id } : World).stateOf t =
      if id = t then none else w.stateOf t := by
    show ((w.tasks.erase id).get? t).map Task.state = _
    rw [Table.get?_erase]
    split <;> rfl
  -- who has come to its end has given up its subscription
  have hfree : w.heldBy id = none := by
    unfold World.heldBy stateOf
    unfold World.ended at ended
    cases hget : w.tasks.get? id with
    | none => rfl
    | some task =>
      obtain ⟨config, watch, state⟩ := task
      rw [hget] at ended
      cases state with
      | running => cases ended
      | ended => rfl
  have hheld : ({ w with tasks := w.tasks.erase id } : World).heldBy = w.heldBy := by
    funext t
    unfold World.heldBy
    rw [hstates t]
    split
    · next heq =>
      rw [← heq]
      exact hfree.symm
    · rfl
  constructor
  · exact h.wired
  · intro t ht
    rw [hstates t, h.numbered t ht, ite_self]
  · intro t state hstate
    rw [hstates t] at hstate
    split at hstate
    · cases hstate
    · exact h.admitted t state hstate
  · rw [hheld]
    exact h.holds

/-- A turn in an orderly world. -/
theorem Orderly.passes (h : w.Orderly) (turn : w.turn? id = some w') : w.Passes id w' :=
  passes_of_turn h.numbered h.admitted h.holds.opened turn

end Orderly

end World

/-- Whether an action that is taken leaves it to the pipelines to subscribe and to read receipts. -/
def Happening.sparesReceipts : Happening → Bool
  | .begin action => action.sparesReceipts
  | _ => true

/-- **Every scene keeps the order.** -/
theorem World.Orderly.happen {w w' : World} {happening : Happening} (h : w.Orderly)
    (spares : happening.sparesReceipts = true) (step : w.happen? happening = some w') :
    w'.Orderly := by
  cases happening with
  | begin action =>
    cases step
    exact (w.adds_addTask w.config none (.acting action)).orderly h spares rfl
  | turn t => exact (h.passes step).orderly h
  | hear t => exact (World.passes_of_hear h.holds.opened step).orderly h
  | forget t =>
    simp only [World.happen?] at step
    split at step
    · next hended =>
      cases step
      exact h.forget hended
    · cases step
  | wait | note | takeTold =>
    cases step
    exact h.alike (World.alike_of_eq rfl rfl rfl (Nat.le_refl _))

/-- **While receipts are read by the loops of pipelines only, every world is orderly.** -/
theorem Play.orderly {c : Config} {clockStart : Int} {ids : List MessageId} {scenes : List Scene}
    {w : World} (play : Play (.initial c clockStart ids) scenes w)
    (spares : ∀ scene ∈ scenes, scene.happening.sparesReceipts = true) : w.Orderly := by
  induction play with
  | nil => exact World.orderly_initial c clockStart ids
  | snoc _ step ih =>
    have hspares := List.forall_mem_append.mp spares
    exact (ih hspares.1).happen (hspares.2 _ (List.mem_singleton_self _)) step

end Rehearsal

end Outbox
