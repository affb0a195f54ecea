import Outbox.Proofs.Acknowledgement
/-!
# `Proofs.Windows` — which settings can lose a receipt

Under settings that make the recheck window longer than the retry window, a punctual run drops no
receipt for a message that the broker has accepted. The condition is exact: under all other settings
there is a punctual run of one publisher and one consumer that drops one. In that run the
publisher's writes fail as often as they may, the consumer looks as often as it may, and whoever is
to wake up first does so, the consumer before the publisher.
-/

namespace Outbox.Interplay

/-! ## The race -/

/-- The publisher's call, which will try its write at a given time, for the last time at another,
and takes so many turns till then. -/
inductive Tries (c : Config) (now : Nat) : Call → Nat → Nat → Nat → Prop
  | ready {summary : BatchSummary} {outcome : Outcome} {rest : List Message} {tries since : Nat}
      (more : tries ≤ c.storeRetries) :
      Tries c now
        ⟨c, .batching 0 (.recording summary outcome rest (.updating outcome tries)), since⟩
        now (now + (c.storeRetries - tries) * c.errorBackoff) (2 * (c.storeRetries - tries) + 1)
  | asleep {summary : BatchSummary} {outcome : Outcome} {rest : List Message} {tries since : Nat}
      (more : tries ≤ c.storeRetries) (awake : now ≤ since + c.errorBackoff) :
      Tries c now
        ⟨c, .batching 0 (.recording summary outcome rest (.updatePause outcome tries)), since⟩
        (since + c.errorBackoff)
        (since + c.errorBackoff + (c.storeRetries - tries) * c.errorBackoff)
        (2 * (c.storeRetries - tries) + 2)

/-- The consumer's call, which will look at the message at a given time, for the last time at
another, and takes so many turns till then. -/
inductive Looks (c : Config) (r : Receipt) (now : Nat) : Call → Nat → Nat → Nat → Prop
  | ready {rechecks since : Nat} (more : rechecks ≤ c.recheckAttempts) :
      Looks c r now ⟨c, .handling (.recording r rechecks (.begin r.outcome)), since⟩
        now (now + (c.recheckAttempts - rechecks) * c.recheckDelay)
        (2 * (c.recheckAttempts - rechecks) + 1)
  | asleep {rechecks since : Nat} (more : rechecks ≤ c.recheckAttempts)
      (awake : now ≤ since + c.recheckDelay) :
      Looks c r now ⟨c, .handling (.rechecking r rechecks), since⟩ (since + c.recheckDelay)
        (since + c.recheckDelay + (c.recheckAttempts - rechecks) * c.recheckDelay)
        (2 * (c.recheckAttempts - rechecks) + 2)

/-- A message is pending in a store without faults. -/
structure Unwritten (id : MessageId) (store : Store) : Prop where
  pending : store.status? id = some .pending
  faultless : store.failures = 0 ∧ store.updateFailures = 0
  sound : store.Sound

/-- A publisher tries to write the status of a message, and a consumer looks at the message
meanwhile, for the last time before the publisher tries for the last time. -/
structure Race (c : Config) (r : Receipt) (s : System) (publisher consumer : Call)
    (write look turns : Nat) : Prop where
  publishes : s.calls.get? 0 = some publisher
  consumes : s.calls.get? 1 = some consumer
  alone : ∀ {t call}, s.calls.get? t = some call → t = 0 ∨ t = 1
  window : ∃ lastWrite lastLook n m, Tries c s.now publisher write lastWrite n ∧
    Looks c r s.now consumer look lastLook m ∧ lastLook ≤ lastWrite ∧ n + m = turns
  unwritten : Unwritten r.messageId s.store

/-- A moment that a run towards a dropped receipt may have. -/
def Moment.IsCalm (c : Config) (moment : Moment) : Prop :=
  moment.event.disposition? 1 = none ∧ moment.isOrderly = true ∧ moment.isPunctual c = true

/-- From a state there is a run of publishers and consumers, punctual under given settings, at the
end of which the receipt of the consumer is dropped. -/
def LeadsToDrop (c : Config) (s : System) : Prop :=
  ∃ trace s₁ e s', Run s trace s₁ ∧ (∀ moment ∈ trace, moment.IsCalm c) ∧ Step s₁ e s' ∧
    e.disposition? 1 = some (.dropped .pending)

section Race

variable {c : Config} {r : Receipt} {s s' : System} {e : Event} {publisher consumer : Call}
  {write look turns : Nat}

theorem LeadsToDrop.cons (h : Step s e s') (calm : Moment.IsCalm c ⟨s, e⟩)
    (later : LeadsToDrop c s') : LeadsToDrop c s := by
  obtain ⟨trace, s₁, last, s₂, run, hcalm, hlast, hdropped⟩ := later
  exact ⟨_, s₁, last, s₂, run.cons h, List.forall_mem_cons.mpr ⟨calm, hcalm⟩, hlast, hdropped⟩

theorem Tries.wait {now time : Nat} {lastWrite n : Nat}
    (h : Tries c now publisher write lastWrite n) (hnow : now ≤ time) (htime : time ≤ write) :
    Tries c time publisher write lastWrite n := by
  cases h with
  | ready hmore =>
    obtain rfl := Nat.le_antisymm hnow htime
    exact .ready hmore
  | asleep hmore => exact .asleep hmore htime

theorem Tries.lasts {now time : Nat} {lastWrite n : Nat}
    (h : Tries c now publisher write lastWrite n) (hnow : now < time) (htime : time ≤ write) :
    publisher.lasts time = true := by
  cases h with
  | ready => omega
  | asleep => exact decide_eq_true htime

theorem Looks.wait {now time : Nat} {lastLook n : Nat}
    (h : Looks c r now consumer look lastLook n) (hnow : now ≤ time) (htime : time ≤ look) :
    Looks c r time consumer look lastLook n := by
  cases h with
  | ready hmore =>
    obtain rfl := Nat.le_antisymm hnow htime
    exact .ready hmore
  | asleep hmore => exact .asleep hmore htime

theorem Looks.lasts {now time : Nat} {lastLook n : Nat}
    (h : Looks c r now consumer look lastLook n) (hnow : now < time) (htime : time ≤ look) :
    consumer.lasts time = true := by
  cases h with
  | ready => omega
  | asleep => exact decide_eq_true htime

/-- Time passes until somebody is to do something. -/
theorem Race.wait (h : Race c r s publisher consumer write look turns) {time : Nat}
    (hwrite : time ≤ write) (hlook : time ≤ look)
    (later : ∀ {s'}, s'.now = max s.now time →
      Race c r s' publisher consumer write look turns → LeadsToDrop c s') : LeadsToDrop c s := by
  by_cases hnow : s.now < time
  · obtain ⟨hpub, hcon, halone, ⟨lastWrite, lastLook, n, m, htries, hlooks, hle, hturns⟩,
      hunwritten⟩ := h
    have htime : s.now + (time - s.now) = time := by omega
    have hlater : (s.apply (.wait (time - s.now))).now = time := htime
    have hstep : Step s (.outside (.wait (time - s.now))) (s.apply (.wait (time - s.now))) :=
      ⟨.outside (.wait (time - s.now)), rfl⟩
    refine LeadsToDrop.cons hstep ⟨rfl, rfl, ?_⟩ (later ?_ ?_)
    · refine List.all_eq_true.mpr fun t _ => ?_
      rw [htime]
      cases hfound : s.calls.get? t with
      | none => rfl
      | some call =>
        rcases halone hfound with rfl | rfl
        · cases hpub.symm.trans hfound
          exact htries.lasts hnow hwrite
        · cases hcon.symm.trans hfound
          exact hlooks.lasts hnow hlook
    · rw [hlater]
      omega
    · refine ⟨hpub, hcon, halone, ⟨lastWrite, lastLook, n, m, ?_, ?_, hle, hturns⟩, hunwritten⟩
      · rw [hlater]
        exact htries.wait (Nat.le_of_lt hnow) hwrite
      · rw [hlater]
        exact hlooks.wait (Nat.le_of_lt hnow) hlook
  · exact later (by omega) h

/-- A call of the race takes a turn that leaves the store alone, and waits again. -/
theorem exists_turn_of_race {t : TaskId} {call : Call} {fate : Fate}
    {answer : call.request.Answer} (found : s.calls.get? t = some call)
    (answered : s.answer? t call fate call.request = some (answer, s)) (next : Work)
    (hnext : ∀ carried, (call.work.resume call.config false carried answer).2.progress =
      .waiting next) :
    ∃ result s', Step s (.turn t call answer result) s' ∧ s'.now = s.now ∧ s'.store = s.store ∧
      ∀ u, s'.calls.get? u =
        if t = u then some ⟨call.config, next, s.now⟩ else s.calls.get? u := by
  obtain ⟨result, s', h, hturn⟩ := exists_turn found false answered
  refine ⟨result, s', h, hturn.now, hturn.store, fun u => ?_⟩
  rw [hturn.calls, System.turnOf, hnext]
  rfl

/-- The store refuses the step that the receipt reports, since the message is still pending. -/
theorem answer_pending {t : TaskId} {call : Call} {id : MessageId} {status : Status}
    (h : Unwritten id s.store) (hstatus : Status.pending.canBecome status = false) :
    s.answer? t call (.served .epoch default) (.update id status) =
      some (.error (.conflict id .pending status), s) := by
  obtain ⟨m, hm, hmp⟩ := Option.map_eq_some_iff.mp h.pending
  have hupdate : s.store.update id status .epoch =
      (.error (.conflict id .pending status), s.store) := by
    simp [Store.update, Store.attempt, h.faultless.1, h.faultless.2, hm, hmp, hstatus]
  show s.onStore (.served .epoch default) (System.stampedUpdate id status) = _
  simp only [System.onStore, System.stampedUpdate, hupdate]
  rfl

/-- A turn of the consumer's call that leaves the store alone. -/
theorem Race.of_consumer (h : Race c r s publisher consumer write look turns) {next : Call}
    (hnow : s'.now = s.now) (hstore : s'.store = s.store)
    (hcalls : ∀ u, s'.calls.get? u = if 1 = u then some next else s.calls.get? u)
    {lastWrite lastLook n m : Nat} (htries : Tries c s.now publisher write lastWrite n)
    {look' : Nat} (hlooks : Looks c r s.now next look' lastLook m) (hle : lastLook ≤ lastWrite) :
    Race c r s' publisher next write look' (n + m) := by
  obtain ⟨hpub, -, halone, -, hunwritten⟩ := h
  refine ⟨?_, ?_, ?_, ⟨lastWrite, lastLook, n, m, ?_, ?_, hle, rfl⟩, ?_⟩
  · rw [hcalls]
    exact hpub
  · rw [hcalls]
    rfl
  · intro t call hfound
    rw [hcalls] at hfound
    split at hfound
    · next ht => exact .inr ht.symm
    · exact halone hfound
  · rw [hnow]
    exact htries
  · rw [hnow]
    exact hlooks
  · rw [hstore]
    exact hunwritten

/-- A turn of the publisher's call that leaves the store alone. -/
theorem Race.of_publisher (h : Race c r s publisher consumer write look turns) {next : Call}
    (hnow : s'.now = s.now) (hstore : s'.store = s.store)
    (hcalls : ∀ u, s'.calls.get? u = if 0 = u then some next else s.calls.get? u)
    {lastWrite lastLook n m : Nat} {write' : Nat} (htries : Tries c s.now next write' lastWrite n)
    (hlooks : Looks c r s.now consumer look lastLook m) (hle : lastLook ≤ lastWrite) :
    Race c r s' next consumer write' look (n + m) := by
  obtain ⟨-, hcon, halone, -, hunwritten⟩ := h
  refine ⟨?_, ?_, ?_, ⟨lastWrite, lastLook, n, m, ?_, ?_, hle, rfl⟩, ?_⟩
  · rw [hcalls]
    rfl
  · rw [hcalls]
    exact hcon
  · intro t call hfound
    rw [hcalls] at hfound
    split at hfound
    · next ht => exact .inl ht.symm
    · exact halone hfound
  · rw [hnow]
    exact htries
  · rw [hnow]
    exact hlooks
  · rw [hstore]
    exact hunwritten

/-- A shorter race leads to the receipt being dropped. -/
def Shorter (c : Config) (r : Receipt) (turns : Nat) : Prop :=
  ∀ {s publisher consumer write look fewer}, fewer < turns →
    Race c r s publisher consumer write look fewer → LeadsToDrop c s

/-- The consumer wakes up. -/
theorem Race.consumer_wakes {rechecks since : Nat}
    (h : Race c r s publisher ⟨c, .handling (.rechecking r rechecks), since⟩ write look turns)
    (hnow : s.now = look) (later : Shorter c r turns) : LeadsToDrop c s := by
  obtain ⟨lastWrite, lastLook, n, m, htries, hlooks, hle, hturns⟩ := h.window
  cases hlooks with
  | asleep hmore hawake =>
    have hslept : s.answer? 1 ⟨c, .handling (.rechecking r rechecks), since⟩
        (.served .epoch default) (.sleep c.recheckDelay) = some ((), s) :=
      if_pos (Nat.le_of_eq hnow.symm)
    obtain ⟨result, s', hstep, hnow', hstore, hcalls⟩ :=
      exists_turn_of_race h.consumes hslept _ fun _ => rfl
    refine LeadsToDrop.cons hstep ⟨rfl, rfl, rfl⟩ (later ?_
      (h.of_consumer hnow' hstore hcalls htries (.ready hmore) ?_))
    · omega
    · rw [hnow]
      exact hle

/-- What the handling makes of a message that is still pending. -/
theorem progress_of_early (c : Config) (r : Receipt) (rechecks : Nat) (id : MessageId)
    (status : Status) :
    ((Handling.recording r rechecks (.begin r.outcome)).resume c
      (.error (.conflict id .pending status))).progress =
      if rechecks < c.recheckAttempts then .waiting (.rechecking r (rechecks + 1))
      else .finished (.dropped .pending) := by
  show (Handling.conflicted c r rechecks .pending).progress = _
  simp only [Handling.conflicted]
  rw [if_neg (by decide)]
  by_cases hmore : rechecks < c.recheckAttempts
  · rw [if_pos ⟨trivial, hmore⟩, if_pos hmore]
    rfl
  · rw [if_neg (fun h => hmore h.2), if_neg hmore]
    rfl

/-- The consumer looks at the message, and finds it still pending. -/
theorem Race.consumer_looks {rechecks since : Nat}
    (h : Race c r s publisher ⟨c, .handling (.recording r rechecks (.begin r.outcome)), since⟩
      write look turns) (later : Shorter c r turns) : LeadsToDrop c s := by
  obtain ⟨lastWrite, lastLook, n, m, htries, hlooks, hle, hturns⟩ := h.window
  have hrefused : s.answer? 1 ⟨c, .handling (.recording r rechecks (.begin r.outcome)), since⟩
      (.served .epoch default) (.update r.messageId r.target) =
        some (.error (.conflict r.messageId .pending r.target), s) := by
    refine answer_pending h.unwritten ?_
    rcases target_of_receipt r with ht | ht
    · rw [show r.target = .delivered from ht]
      rfl
    · rw [show r.target = .deliveredFailed from ht]
      rfl
  have hprogress := progress_of_early c r rechecks r.messageId r.target
  cases hlooks with
  | ready hmore =>
    by_cases hlast : rechecks < c.recheckAttempts
    · rw [if_pos hlast] at hprogress
      obtain ⟨result, s', hstep, hnow, hstore, hcalls⟩ :=
        exists_turn_of_race h.consumes hrefused
          (.handling (.rechecking r (rechecks + 1))) fun carried => by
            simp only [Work.resume]
            rw [Turn.andThen_of_waiting hprogress]
      have hleft : c.recheckAttempts - rechecks = c.recheckAttempts - (rechecks + 1) + 1 := by omega
      refine LeadsToDrop.cons hstep ⟨?_, rfl, rfl⟩ (later ?_
        (h.of_consumer hnow hstore hcalls htries (.asleep hlast (Nat.le_add_right _ _)) ?_))
      · show (if 1 = 1 then _ else none) = _
        rw [if_pos rfl]
        show (Handling.resume c _ _).progress.outcome? = _
        rw [hprogress]
        rfl
      · omega
      · rw [hleft, Nat.add_one_mul (c.recheckAttempts - (rechecks + 1))] at hle
        omega
    · rw [if_neg hlast] at hprogress
      obtain ⟨result, s', hstep, -⟩ := exists_turn h.consumes false hrefused
      refine ⟨[], s, _, s', .nil, fun moment hmem => ?_, hstep, ?_⟩
      · cases hmem
      · show (if 1 = 1 then _ else none) = _
        rw [if_pos rfl]
        show (Handling.resume c _ _).progress.outcome? = _
        rw [hprogress]
        rfl

/-- The publisher wakes up. -/
theorem Race.publisher_wakes {summary : BatchSummary} {outcome : Outcome} {rest : List Message}
    {tries since : Nat}
    (h : Race c r s
      ⟨c, .batching 0 (.recording summary outcome rest (.updatePause outcome tries)), since⟩ consumer
      write look turns) (hnow : s.now = write) (later : Shorter c r turns) : LeadsToDrop c s := by
  obtain ⟨lastWrite, lastLook, n, m, htries, hlooks, hle, hturns⟩ := h.window
  cases htries with
  | asleep hmore hawake =>
    have hslept : s.answer? 0
        ⟨c, .batching 0 (.recording summary outcome rest (.updatePause outcome tries)), since⟩
        (.served .epoch default) (.sleep c.errorBackoff) = some ((), s) :=
      if_pos (Nat.le_of_eq hnow.symm)
    obtain ⟨result, s', hstep, hnow', hstore, hcalls⟩ :=
      exists_turn_of_race h.publishes hslept _ fun _ => rfl
    refine LeadsToDrop.cons hstep ⟨rfl, rfl, rfl⟩ (later ?_
      (h.of_publisher hnow' hstore hcalls (.ready hmore) hlooks ?_))
    · omega
    · rw [hnow]
      exact hle

/-- The publisher tries its write in vain. It is not the last time, since the consumer will look
again before that. -/
theorem Race.publisher_fails {summary : BatchSummary} {outcome : Outcome} {rest : List Message}
    {tries since : Nat}
    (h : Race c r s
      ⟨c, .batching 0 (.recording summary outcome rest (.updating outcome tries)), since⟩ consumer
      write look turns) (hlate : write < look) (later : Shorter c r turns) : LeadsToDrop c s := by
  obtain ⟨lastWrite, lastLook, n, m, htries, hlooks, hle, hturns⟩ := h.window
  have hlook : look ≤ lastLook := by
    cases hlooks
    · exact Nat.le_add_right _ _
    · exact Nat.le_add_right _ _
  cases htries with
  | ready hmore =>
    -- at the last try the consumer would have nothing left to look at
    have hagain : tries < c.storeRetries := by
      refine Nat.lt_of_le_of_ne hmore ?_
      rintro rfl
      rw [Nat.sub_self, Nat.zero_mul] at hle
      omega
    have htriesAgain : Recording.triesAgain c (.unavailable "out of reach") tries = true :=
      decide_eq_true ⟨rfl, hagain⟩
    have hdown : s.answer? 0
        ⟨c, .batching 0 (.recording summary outcome rest (.updating outcome tries)), since⟩
        (.storeDown "out of reach") (.update outcome.id outcome.target) =
          some (.error (.unavailable "out of reach"), s) := rfl
    obtain ⟨result, s', hstep, hnow, hstore, hcalls⟩ :=
      exists_turn_of_race h.publishes hdown
        (.batching 0 (.recording summary outcome rest (.updatePause outcome (tries + 1))))
        fun carried => by
          simp only [Work.resume, Batching.resume, Recording.resume, htriesAgain]
          rfl
    have hleft : c.storeRetries - tries = c.storeRetries - (tries + 1) + 1 := by omega
    refine LeadsToDrop.cons hstep ⟨rfl, rfl, ?_⟩ (later ?_
      (h.of_publisher hnow hstore hcalls (.asleep hagain (Nat.le_add_right _ _)) hlooks ?_))
    · show (!(true && decide (c.storeRetries ≤ tries))) = true
      rw [decide_eq_false (Nat.not_le_of_lt hagain)]
      rfl
    · omega
    · rw [hleft, Nat.add_one_mul (c.storeRetries - (tries + 1))] at hle
      omega

/-- **The consumer loses the race.** -/
theorem Race.leadsToDrop (h : Race c r s publisher consumer write look turns) :
    LeadsToDrop c s := by
  -- whoever is to wake up first does so; the consumer goes first when both are to
  induction turns using Nat.strongRecOn generalizing s publisher consumer write look with
  | ind turns ih =>
    have hshorter : Shorter c r turns := fun hlt h => ih _ hlt h
    obtain ⟨lastWrite, lastLook, n, m, htries, hlooks, -⟩ := h.window
    cases hlooks with
    | ready => exact h.consumer_looks hshorter
    | @asleep rechecks since _ hawake =>
      by_cases hfirst : since + c.recheckDelay ≤ write
      · refine h.wait hfirst (Nat.le_refl _) fun hnow hrace => ?_
        rw [Nat.max_eq_right hawake] at hnow
        exact hrace.consumer_wakes hnow hshorter
      · rw [Nat.not_le] at hfirst
        cases htries with
        | ready => exact h.publisher_fails hfirst hshorter
        | asleep _ hsleeps =>
          refine h.wait (Nat.le_refl _) (Nat.le_of_lt hfirst) fun hnow hrace => ?_
          rw [Nat.max_eq_right hsleeps] at hnow
          exact hrace.publisher_wakes hnow hshorter

end Race

/-- A message is published, and its receipt is taken at once. -/
def promptMoves (c : Config) : List Move :=
  [.outside (.insert (.ofNat 1) default .epoch),
    .start 0 c (.batch 0),
    .turn 0 (.served .epoch default) false,
    .turn 0 (.served .epoch default) false,
    .turn 0 (.served .epoch default) false,
    .start 1 c (.handle (.delivered (.ofNat 1)))]

/-- A race can begin. -/
theorem exists_race {c : Config} (hbatch : 0 < c.batchSize)
    (hwindow : c.recheckWindow ≤ c.retryWindow) :
    ∃ before s₀ publisher turns, Run .initial before s₀ ∧ (∀ moment ∈ before, moment.IsCalm c) ∧
      0 < acceptances before (.ofNat 1) ∧
      Race c (.delivered (.ofNat 1)) s₀ publisher
        ⟨c, .handling (.begin (.delivered (.ofNat 1))), 0⟩ 0 0 turns := by
  -- the moves can be played once the limit of the batch is seen not to be zero
  obtain ⟨batchSize, idleBackoff, errorBackoff, exchange, receiptQueue, recheckAttempts,
    recheckDelay, storeRetries⟩ := c
  obtain ⟨size, rfl⟩ : ∃ size, batchSize = size + 1 := Nat.exists_eq_add_one.mpr hbatch
  set c : Config := ⟨size + 1, idleBackoff, errorBackoff, exchange, receiptQueue, recheckAttempts,
    recheckDelay, storeRetries⟩
  obtain ⟨before, s₀, hplay, hcalm, haccepted⟩ : ∃ before s₀,
      System.initial.play? (promptMoves c) = some (before, s₀) ∧
      (∀ moment ∈ before, moment.IsCalm c) ∧ 0 < acceptances before (.ofNat 1) := by
    refine ⟨_, _, rfl, ?_, Nat.one_pos⟩
    simp only [List.forall_mem_cons]
    refine ⟨⟨rfl, rfl, rfl⟩, ⟨rfl, rfl, decide_eq_true rfl⟩, ⟨rfl, rfl, rfl⟩, ⟨rfl, rfl, rfl⟩,
      ⟨rfl, rfl, rfl⟩, ⟨rfl, rfl, decide_eq_true rfl⟩, ?_⟩
    intro moment hmem
    cases hmem
  have view {α : Type} (f : System → α) {a : α}
      (h : (System.initial.play? (promptMoves c)).map (f ·.2) = some a) : f s₀ = a := by
    rw [hplay] at h
    exact Option.some.inj h
  have hnow : s₀.now = 0 := view System.now rfl
  have hpending : s₀.store.status? (.ofNat 1) = some .pending :=
    view (·.store.status? (.ofNat 1)) rfl
  have hfailures : s₀.store.failures = 0 := view (·.store.failures) rfl
  have hupdateFailures : s₀.store.updateFailures = 0 :=
    view (·.store.updateFailures) rfl
  obtain ⟨summary, outcome, rest, hcalls⟩ : ∃ summary outcome rest, s₀.calls.entries =
      [(0, ⟨c, .batching 0 (.recording summary outcome rest (.updating outcome 0)), 0⟩),
        (1, ⟨c, .handling (.begin (.delivered (.ofNat 1))), 0⟩)] :=
    ⟨_, _, _, view (·.calls.entries) rfl⟩
  have hrun := run_of_play? hplay
  have htries : Tries c s₀.now
      ⟨c, .batching 0 (.recording summary outcome rest (.updating outcome 0)), 0⟩ 0
      (0 + (c.storeRetries - 0) * c.errorBackoff) (2 * (c.storeRetries - 0) + 1) := by
    rw [hnow]
    exact .ready (Nat.zero_le _)
  have hlooks : Looks c (.delivered (.ofNat 1)) s₀.now
      ⟨c, .handling (.begin (.delivered (.ofNat 1))), 0⟩ 0
      (0 + (c.recheckAttempts - 0) * c.recheckDelay) (2 * (c.recheckAttempts - 0) + 1) := by
    rw [hnow]
    exact .ready (Nat.zero_le _)
  have hle : (c.recheckAttempts - 0) * c.recheckDelay ≤ (c.storeRetries - 0) * c.errorBackoff :=
    hwindow
  refine ⟨before, s₀, _, _, hrun, hcalm, haccepted, ?_, ?_, ?_,
    ⟨_, _, _, _, htries, hlooks, Nat.add_le_add_left hle 0, rfl⟩,
    ⟨hpending, ⟨hfailures, hupdateFailures⟩, hrun.sound⟩⟩
  · rw [Table.get?, hcalls]
    rfl
  · rw [Table.get?, hcalls]
    rfl
  · intro t call hfound
    rw [Table.get?, hcalls] at hfound
    simp only [Table.find?] at hfound
    split at hfound
    · next ht => exact .inl ht.symm
    · split at hfound
      · next ht => exact .inr ht.symm
      · cases hfound

/-- Under the given settings there is a punctual run of publishers and consumers that drops a
receipt for a message that the broker has accepted. -/
def CanDrop (c : Config) : Prop :=
  ∃ before s₀ t call r trace s e s', Run .initial before s₀ ∧ s₀.calls.get? t = some call ∧
    call.work.handling? = some (.begin r) ∧ 0 < acceptances before r.messageId ∧
    Run s₀ trace s ∧ (∀ moment ∈ trace, moment.event.disposition? t = none) ∧
    Orderly (before ++ trace) ∧ Punctual c (before ++ trace) ∧ Step s e s' ∧
    e.disposition? t = some (.dropped .pending)

/-- **The windows decide whether a receipt can be lost.** If a batch can hold a message at all, a
receipt can be dropped under the given settings exactly if the recheck window is no longer than the
retry window. -/
theorem canDrop_iff {c : Config} (hbatch : 0 < c.batchSize) :
    CanDrop c ↔ c.recheckWindow ≤ c.retryWindow := by
  constructor
  · rintro ⟨before, s₀, t, call, r, trace, s, e, s', first, found, took, accepted, run, busy,
      orderly, punctual, h, hend⟩
    obtain rfl := first.config (List.forall_mem_append.mp punctual).1 found
    rcases first.comes_to found took accepted run busy orderly h hend (by decide) with
      ⟨status, -, hd | hd, -⟩ | ⟨-, hpending, hwindow⟩
    · cases hd.1
    · cases hd
    · have hretry := first.now_le_of_pending accepted run orderly punctual hpending
      omega
  · intro hwindow
    obtain ⟨before, s₀, publisher, turns, first, hcalm, haccepted, hrace⟩ :=
      exists_race hbatch hwindow
    obtain ⟨trace, s, e, s', run, hcalmLater, h, hend⟩ := hrace.leadsToDrop
    have hall : ∀ moment ∈ before ++ trace, moment.IsCalm c :=
      List.forall_mem_append.mpr ⟨hcalm, hcalmLater⟩
    exact ⟨before, s₀, 1, _, _, trace, s, e, s', first, hrace.consumes, rfl, haccepted, run,
      fun moment hmem => (hcalmLater moment hmem).1, fun moment hmem => (hall moment hmem).2.1,
      fun moment hmem => (hall moment hmem).2.2, h, hend⟩

end Outbox.Interplay
