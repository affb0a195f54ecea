import Outbox.Proofs.Interplay.Basic
import Outbox.Proofs.Store.Effect
/-!
# `Proofs.Interplay.Turn` — what a step can do

A step is something outside of the calls, the start of a call, or the turn of one. This module says
of each what it changes. The turn of a call is an answer, which may change the store, the history or
the broker, and then what the call makes of the answer, which changes only the call itself and what
its publisher carries. What an answer can be, and what it changes, is said once for each request.
-/

namespace Outbox

/-- What a process shows that goes on, or what is shown for one that has come to its end. -/
def Progress.look {σ α β : Type} (f : σ → β) (b : β) : Progress σ α → β
  | .waiting state => f state
  | .finished _ => b

/-- A process that shows something else than one that has come to its end goes on. -/
theorem Progress.waiting_of_look {σ α β : Type} {progress : Progress σ α} {f : σ → β} {b x : β}
    (h : progress.look f b = x) (hne : b ≠ x) : ∃ state, progress = .waiting state ∧ f state = x := by
  cases progress with
  | waiting state => exact ⟨state, rfl, h⟩
  | finished outcome => exact absurd h hne

/-- What a process came to. -/
def Progress.outcome? {σ α : Type} : Progress σ α → Option α
  | .waiting _ => none
  | .finished outcome => some outcome

/-- What a larger process shows is what its part shows, if it shows nothing once the part has come
to its end. -/
theorem Turn.look_andThen {σ τ α β γ : Type} {turn : Turn σ α} {wrap : σ → τ}
    {next : α → Turn τ β} {f : τ → γ} {g : σ → γ} {b : γ} (hwrap : ∀ state, f (wrap state) = g state)
    (hnext : ∀ outcome, (next outcome).progress.look f b = b) :
    (turn.andThen wrap next).progress.look f b = turn.progress.look g b := by
  cases h : turn.progress with
  | waiting state =>
    rw [Turn.andThen_of_waiting h]
    exact hwrap state
  | finished outcome =>
    rw [Turn.andThen_of_finished h]
    exact hnext outcome

/-- A larger process waits because its part does, or because it goes on after its part. -/
theorem Turn.waiting_cases {σ τ α β : Type} {turn : Turn σ α} {wrap : σ → τ}
    {next : α → Turn τ β} {state : τ} (h : (turn.andThen wrap next).progress = .waiting state) :
    (∃ inner, turn.progress = .waiting inner ∧ state = wrap inner) ∨
      ∃ outcome, turn.progress = .finished outcome ∧ (next outcome).progress = .waiting state := by
  cases hp : turn.progress with
  | waiting inner =>
    rw [Turn.andThen_of_waiting hp] at h
    cases h
    exact .inl ⟨inner, rfl, rfl⟩
  | finished outcome =>
    rw [Turn.andThen_of_finished hp] at h
    exact .inr ⟨outcome, rfl, h⟩

/-- A larger process has come to its end because it goes on after its part, which has. -/
theorem Turn.finished_cases {σ τ α β : Type} {turn : Turn σ α} {wrap : σ → τ}
    {next : α → Turn τ β} {result : β} (h : (turn.andThen wrap next).progress = .finished result) :
    ∃ outcome, turn.progress = .finished outcome ∧ (next outcome).progress = .finished result := by
  cases hp : turn.progress with
  | waiting inner =>
    rw [Turn.andThen_of_waiting hp] at h
    cases h
  | finished outcome =>
    rw [Turn.andThen_of_finished hp] at h
    exact ⟨outcome, rfl, h⟩

namespace Publishing

/-- Where the publisher's loop can be that has just come to the end of a batch. -/
inductive IsBetween : Publishing → Prop
  | pausing (milliseconds : Nat) : IsBetween (.pausing milliseconds)
  | opening : IsBetween (.batching .opening)
  | abandoning : IsBetween .abandoning

/-- After a batch the publisher's loop pauses, begins the next one, or gives up what it carries. -/
theorem afterBatch_waits (c : Config) (stop : Bool) (result : Except StoreFailure BatchSummary) :
    ∃ next, (afterBatch c stop result).progress = .waiting next ∧ next.IsBetween := by
  rcases result with failure | summary
  · exact ⟨_, rfl, .pausing _⟩
  · simp only [afterBatch]
    split
    · exact ⟨_, rfl, .pausing _⟩
    · split
      · exact ⟨_, rfl, .pausing _⟩
      · cases stop
        · exact ⟨_, rfl, .opening⟩
        · exact ⟨_, rfl, .abandoning⟩

end Publishing

namespace Interplay

namespace System

/-- What the work of a task shows, or what is shown where there is no such task. -/
def look {β : Type} (s : System) (f : Work → β) (b : β) (t : TaskId) : β :=
  ((s.calls.get? t).map fun call => f call.work).getD b

/-- The carried outcomes that a call works with; one that works for no publisher has none. -/
def carriedFor (s : System) (w : Work) : List Outcome :=
  match w.publisher? with
  | some p => s.carriedOf p
  | none => []

/-- What a call makes of an answer. -/
def turnOf (s : System) (call : Call) (stop : Bool) (answer : call.request.Answer) :
    List Outcome × Turn Work Result :=
  call.work.resume call.config stop (s.carriedFor call.work) answer

theorem look_of_found {β : Type} {s : System} {t : TaskId} {call : Call}
    (h : s.calls.get? t = some call) (f : Work → β) (b : β) : s.look f b t = f call.work := by
  simp [look, h]

theorem look_of_absent {β : Type} {s : System} {t : TaskId} (h : s.calls.get? t = none)
    (f : Work → β) (b : β) : s.look f b t = b := by
  simp [look, h]

/-- What a task shows depends on its call only. -/
theorem look_congr {β : Type} {s s' : System} {t : TaskId} (h : s'.calls.get? t = s.calls.get? t)
    (f : Work → β) (b : β) : s'.look f b t = s.look f b t := by
  rw [look, look, h]

/-- What is shown of a task comes from its work, or there is no such task. -/
theorem look_cases {β : Type} (s : System) (f : Work → β) (b : β) (t : TaskId) :
    (∃ call, s.calls.get? t = some call ∧ s.look f b t = f call.work) ∨
      (s.calls.get? t = none ∧ s.look f b t = b) := by
  cases h : s.calls.get? t with
  | none => exact .inr ⟨rfl, look_of_absent h f b⟩
  | some call => exact .inl ⟨call, rfl, look_of_found h f b⟩

end System

/-! ## Steps -/

/-- A call has started. -/
structure Started (s : System) (t : TaskId) (c : Config) (job : Job) (s' : System) : Prop where
  absent : s.calls.get? t = none
  state : s' = { s with calls := s.calls.put t ⟨c, job.begin, s.now⟩ }

/-- A call has taken its turn; `mid` is the state in which it was answered. -/
structure Turned (s : System) (t : TaskId) (call : Call) (answer : call.request.Answer)
    (stop : Bool) (result : Option Result) (mid s' : System) : Prop where
  found : s.calls.get? t = some call
  answered : ∃ fate, s.answer? t call fate call.request = some (answer, mid)
  result : result = (s.turnOf call stop answer).2.progress.outcome?
  now : s'.now = s.now
  store : s'.store = mid.store
  history : s'.history = mid.history
  exchanges : s'.broker.exchanges = mid.broker.exchanges
  carried : ∀ p, s'.carriedOf p =
    if call.work.publisher? = some p then (s.turnOf call stop answer).1 else s.carriedOf p
  calls : ∀ u, s'.calls.get? u =
    if t = u then (s.turnOf call stop answer).2.progress.look
      (fun work => some ⟨call.config, work, s.now⟩) none
    else s.calls.get? u

/-! ## The broker -/

end Interplay

namespace Broker

/-- A publication fails and leaves the exchanges alone, or is put at the end of its exchange. -/
theorem publish_cases {b b' : Broker} {exchange : String} {m : Message}
    {answer : Except BrokerFailure Unit} (h : b.publish exchange m = (answer, b')) :
    (∃ failure, answer = .error failure) ∧ b'.exchanges = b.exchanges ∨
      answer = .ok () ∧ b'.exchanges = b.exchanges.put exchange
        (b.queued exchange ++ [⟨exchange, m.id, m.encode⟩]) := by
  simp only [publish] at h
  split at h
  · cases h
    exact .inl ⟨⟨_, rfl⟩, rfl⟩
  · split at h
    · cases h
      exact .inl ⟨⟨_, rfl⟩, rfl⟩
    · split at h
      · cases h
        exact .inl ⟨⟨_, rfl⟩, rfl⟩
      · cases h
        exact .inr ⟨rfl, rfl⟩

theorem exchanges_subscribe (b : Broker) (queue : String) :
    (b.subscribe queue).2.exchanges = b.exchanges := by
  rw [subscribe]
  split <;> rfl

theorem exchanges_receive (b : Broker) (stream : StreamId) :
    (b.receive stream).2.exchanges = b.exchanges := by
  rw [receive]
  split
  · rfl
  · split
    · split <;> rfl
    · split <;> rfl

theorem exchanges_deliver (b : Broker) (queue : String) (r : Receipt) :
    (b.deliver queue r).exchanges = b.exchanges := by
  simp only [deliver]
  split <;> rfl

theorem exchanges_giveUp (b : Broker) (held kept : Option StreamId) :
    (b.giveUp held kept).exchanges = b.exchanges := by
  cases held with
  | none => rfl
  | some stream =>
    simp only [giveUp]
    split <;> rfl

end Broker

namespace Interplay

/-! ## Answers -/

section Answers

variable {s mid : System} {t : TaskId} {call : Call} {fate : Fate}

/-- The store is out of reach, or does what it is asked. -/
theorem onStore_cases {α : Type} {operation : Instant → Stamp → Store → Except StoreFailure α × Store}
    {answer : Except StoreFailure α} (h : s.onStore fate operation = some (answer, mid)) :
    (∃ reason, answer = .error (.unavailable reason) ∧ mid = s) ∨
      ∃ clock stamp store, operation clock stamp s.store = (answer, store) ∧ mid = { s with store } := by
  cases fate with
  | served clock stamp =>
    cases h
    exact .inr ⟨clock, stamp, _, rfl, rfl⟩
  | storeDown reason =>
    cases h
    exact .inl ⟨reason, rfl, rfl⟩
  | brokerDown | signalled => cases h

theorem onStore_frame {α : Type} {operation : Instant → Stamp → Store → Except StoreFailure α × Store}
    {answer : Except StoreFailure α} (h : s.onStore fate operation = some (answer, mid)) :
    ∃ store, mid = { s with store } := by
  rcases onStore_cases h with ⟨-, -, rfl⟩ | ⟨-, -, store, -, hmid⟩
  · exact ⟨_, rfl⟩
  · exact ⟨store, hmid⟩

/-- The broker fails, or does what it is asked. -/
theorem onBroker_cases {α : Type} {operation : Broker → Except BrokerFailure α × Broker}
    {answer : Except BrokerFailure α} (h : s.onBroker fate operation = some (answer, mid)) :
    (∃ failure, answer = .error failure ∧ mid = s) ∨
      ∃ broker, operation s.broker = (answer, broker) ∧ mid = { s with broker } := by
  cases fate with
  | served clock stamp =>
    cases h
    exact .inr ⟨_, rfl, rfl⟩
  | brokerDown failure =>
    cases h
    exact .inl ⟨failure, rfl, rfl⟩
  | storeDown | signalled => cases h

/-- What a call hears changes the broker at most, and nothing on its exchanges. -/
theorem hear?_cases {stream : StreamId} {heard : Heard}
    (h : s.hear? fate stream = some (heard, mid)) :
    ∃ broker, mid = { s with broker } ∧ broker.exchanges = s.broker.exchanges := by
  cases fate with
  | served clock stamp =>
    have hsame := s.broker.exchanges_receive stream
    simp only [System.hear?] at h
    split at h
    · cases h
    all_goals
      next hreceived =>
        cases h
        rw [hreceived] at hsame
        exact ⟨_, rfl, hsame⟩
  | signalled givenUp =>
    cases h
    exact ⟨s.broker, rfl, rfl⟩
  | storeDown | brokerDown => cases h

theorem answer_proceed {answer : Unit} (h : s.answer? t call fate .proceed = some (answer, mid)) :
    mid = s := by
  cases h
  rfl

theorem answer_enter {answer : Unit} (h : s.answer? t call fate .enter = some (answer, mid)) :
    mid = s ∧ ∀ p, call.work.publisher? = some p → s.isFree t p = true := by
  simp only [System.answer?] at h
  split at h
  · next hfree =>
    cases h
    refine ⟨rfl, fun p hp => ?_⟩
    simpa [hp] using hfree
  · cases h

theorem answer_fetch {limit : Nat} {answer : Except StoreFailure (List Message)}
    (hs : s.store.Sound) (h : s.answer? t call fate (.fetch limit) = some (answer, mid)) :
    ∃ store, mid = { s with store } ∧
      ((∃ reason, answer = .error (.unavailable reason) ∧ s.store.Same store) ∨
        ∃ batch, answer = .ok batch ∧ s.store.Fetched limit batch store) := by
  change s.onStore fate (fun _ _ store => store.fetch limit) = _ at h
  rcases onStore_cases h with ⟨reason, rfl, rfl⟩ | ⟨-, -, store, hop, hmid⟩
  · exact ⟨_, rfl, .inl ⟨reason, rfl, .refl _⟩⟩
  · exact ⟨store, hmid, Store.fetch_cases hs hop⟩

theorem answer_release {ids : List MessageId} {answer : Except StoreFailure Unit}
    (h : s.answer? t call fate (.release ids) = some (answer, mid)) :
    ∃ store, mid = { s with store } ∧
      ((∃ reason, answer = .error (.unavailable reason) ∧ s.store.Same store) ∨
        (answer = .ok () ∧ s.store.Released ids store)) := by
  change s.onStore fate (fun _ _ store => store.release ids) = _ at h
  rcases onStore_cases h with ⟨reason, rfl, rfl⟩ | ⟨-, -, store, hop, hmid⟩
  · exact ⟨_, rfl, .inl ⟨reason, rfl, .refl _⟩⟩
  · exact ⟨store, hmid, Store.release_cases hop⟩

theorem answer_update {id : MessageId} {status : Status}
    {answer : Except StoreFailure (Transition × Stamp)} (hs : s.store.Sound)
    (h : s.answer? t call fate (.update id status) = some (answer, mid)) :
    ∃ store, mid = { s with store } ∧
      ((∃ reason, answer = .error (.unavailable reason) ∧ s.store.Same store) ∨
      (answer = .error (.notFound id) ∧ s.store.status? id = none ∧ s.store.Same store) ∨
      (∃ current, answer = .error (.conflict id current status) ∧
        s.store.status? id = some current ∧ ¬ Status.Step current status ∧ s.store.Same store) ∨
      ∃ old stamp, answer = .ok (⟨id, old, status⟩, stamp) ∧
        s.store.Moved id old status store) := by
  change s.onStore fate (System.stampedUpdate id status) = _ at h
  rcases onStore_cases h with ⟨reason, rfl, rfl⟩ | ⟨clock, stamp, store, hop, hmid⟩
  · exact ⟨_, rfl, .inl ⟨reason, rfl, .refl _⟩⟩
  · simp only [System.stampedUpdate, Prod.mk.injEq] at hop
    obtain ⟨hanswer, hstore⟩ := hop
    -- the stamp goes into the answer only
    have hupdate : s.store.update id status clock =
        ((s.store.update id status clock).1, store) := by
      rw [← hstore]
    refine ⟨store, hmid, ?_⟩
    rcases Store.update_cases hs.keyed hupdate with
      ⟨reason, he, hsame⟩ | ⟨he, hnone, hsame⟩ | ⟨current, he, hstatus, hillegal, hsame⟩ |
      ⟨old, he, hmoved⟩
    · rw [he] at hanswer
      exact .inl ⟨reason, hanswer.symm, hsame⟩
    · rw [he] at hanswer
      exact .inr (.inl ⟨hanswer.symm, hnone, hsame⟩)
    · rw [he] at hanswer
      exact .inr (.inr (.inl ⟨current, hanswer.symm, hstatus, hillegal, hsame⟩))
    · rw [he] at hanswer
      exact .inr (.inr (.inr ⟨old, stamp, hanswer.symm, hmoved⟩))

theorem answer_append {entry : HistoryEntry} {answer : Except StoreFailure Unit}
    (h : s.answer? t call fate (.append entry) = some (answer, mid)) :
    (answer = .ok () ∧ mid = { s with history := s.history.append entry }) ∨
      ∃ reason, answer = .error (.unavailable reason) ∧ mid = s := by
  cases fate with
  | served =>
    cases h
    exact .inl ⟨rfl, rfl⟩
  | storeDown reason =>
    cases h
    exact .inr ⟨reason, rfl, rfl⟩
  | brokerDown | signalled => cases h

theorem answer_publish {exchange : String} {m : Message} {answer : Except BrokerFailure Unit}
    (h : s.answer? t call fate (.publish exchange m) = some (answer, mid)) :
    ∃ broker, mid = { s with broker } ∧
      ((∃ failure, answer = .error failure) ∧ broker.exchanges = s.broker.exchanges ∨
        answer = .ok () ∧ broker.exchanges = s.broker.exchanges.put exchange
          (s.broker.queued exchange ++ [⟨exchange, m.id, m.encode⟩])) := by
  change s.onBroker fate (fun broker => broker.publish exchange m) = _ at h
  rcases onBroker_cases h with ⟨failure, hanswer, rfl⟩ | ⟨broker, hop, hmid⟩
  · exact ⟨_, rfl, .inl ⟨⟨failure, hanswer⟩, rfl⟩⟩
  · exact ⟨broker, hmid, Broker.publish_cases hop⟩

theorem answer_subscribe {queue : String} {answer : Except BrokerFailure StreamId}
    (h : s.answer? t call fate (.subscribe queue) = some (answer, mid)) :
    ∃ broker, mid = { s with broker } ∧ broker.exchanges = s.broker.exchanges := by
  change s.onBroker fate (fun broker => broker.subscribe queue) = _ at h
  rcases onBroker_cases h with ⟨-, -, rfl⟩ | ⟨broker, hop, hmid⟩
  · exact ⟨_, rfl, rfl⟩
  · have hsame := s.broker.exchanges_subscribe queue
    rw [hop] at hsame
    exact ⟨broker, hmid, hsame⟩

theorem answer_receive {stream : StreamId} {answer : Heard}
    (h : s.answer? t call fate (.receive stream) = some (answer, mid)) :
    ∃ broker, mid = { s with broker } ∧ broker.exchanges = s.broker.exchanges :=
  hear?_cases h

/-- A sleep lasts until its time has passed. -/
theorem answer_sleep {milliseconds : Nat} {answer : Unit}
    (h : s.answer? t call fate (.sleep milliseconds) = some (answer, mid)) :
    mid = s ∧ call.since + milliseconds ≤ s.now := by
  simp only [System.answer?] at h
  split at h
  · next hpassed =>
    cases h
    exact ⟨rfl, hpassed⟩
  · cases h

theorem answer_pause {milliseconds : Nat} {answer : Bool}
    (h : s.answer? t call fate (.pause milliseconds) = some (answer, mid)) : mid = s := by
  cases fate <;> simp only [System.answer?] at h
  case signalled => exact (congrArg Prod.snd (Option.some.inj h)).symm
  all_goals
    split at h
    · exact (congrArg Prod.snd (Option.some.inj h)).symm
    · cases h

/-- An answer leaves the clock, the carried outcomes and the calls alone. -/
theorem answer?_frame {r : Request} {answer : r.Answer}
    (h : s.answer? t call fate r = some (answer, mid)) :
    mid.now = s.now ∧ mid.carried = s.carried ∧ mid.calls = s.calls := by
  cases r with
  | proceed =>
    rw [answer_proceed h]
    exact ⟨rfl, rfl, rfl⟩
  | enter =>
    rw [(answer_enter h).1]
    exact ⟨rfl, rfl, rfl⟩
  | fetch limit =>
    change s.onStore fate (fun _ _ store => store.fetch limit) = _ at h
    obtain ⟨store, rfl⟩ := onStore_frame h
    exact ⟨rfl, rfl, rfl⟩
  | update id status =>
    change s.onStore fate (System.stampedUpdate id status) = _ at h
    obtain ⟨store, rfl⟩ := onStore_frame h
    exact ⟨rfl, rfl, rfl⟩
  | release ids =>
    change s.onStore fate (fun _ _ store => store.release ids) = _ at h
    obtain ⟨store, rfl⟩ := onStore_frame h
    exact ⟨rfl, rfl, rfl⟩
  | append =>
    rcases answer_append h with ⟨-, rfl⟩ | ⟨-, -, rfl⟩
    · exact ⟨rfl, rfl, rfl⟩
    · exact ⟨rfl, rfl, rfl⟩
  | publish =>
    obtain ⟨broker, rfl, -⟩ := answer_publish h
    exact ⟨rfl, rfl, rfl⟩
  | subscribe =>
    obtain ⟨broker, rfl, -⟩ := answer_subscribe h
    exact ⟨rfl, rfl, rfl⟩
  | sleep =>
    rw [(answer_sleep h).1]
    exact ⟨rfl, rfl, rfl⟩
  | pause =>
    rw [answer_pause h]
    exact ⟨rfl, rfl, rfl⟩
  | receive =>
    obtain ⟨broker, rfl, -⟩ := answer_receive h
    exact ⟨rfl, rfl, rfl⟩
  | ready | take | listen | launch | halt | join => cases h

end Answers

/-! ## Inversion -/

section Inversion

variable {s s' : System} {e : Event}

theorem carriedOf_put (s : System) (p q : PublisherId) (carried : List Outcome) :
    { s with carried := s.carried.put p carried }.carriedOf q =
      if p = q then carried else s.carriedOf q := by
  simp only [System.carriedOf, Table.getD, Table.get?_put]
  split <;> rfl

/-- A call goes on to wait, or has come to its end: what `settle` leaves behind. -/
theorem settle_cases {t : TaskId} {call : Call} {progress : Progress Work Result}
    {result : Option Result} (h : s.settle t call progress = (result, s')) :
    result = progress.outcome? ∧ s'.now = s.now ∧ s'.store = s.store ∧ s'.history = s.history ∧
    s'.broker.exchanges = s.broker.exchanges ∧ s'.carried = s.carried ∧ ∀ u, s'.calls.get? u =
      if t = u then progress.look (fun work => some ⟨call.config, work, s.now⟩) none
      else s.calls.get? u := by
  cases progress with
  | waiting work =>
    cases h
    exact ⟨rfl, rfl, rfl, rfl, s.broker.exchanges_giveUp .., rfl, fun u => Table.get?_put ..⟩
  | finished outcome =>
    cases h
    exact ⟨rfl, rfl, rfl, rfl, s.broker.exchanges_giveUp .., rfl, fun u => Table.get?_erase ..⟩

/-- What comes of the turn of a call. -/
theorem turned_of_resume {t : TaskId} {call : Call} {fate : Fate} {stop : Bool}
    {answer : call.request.Answer} {result : Option Result} {mid : System}
    (hfound : s.calls.get? t = some call)
    (hanswer : s.answer? t call fate call.request = some (answer, mid))
    (h : mid.resume t call stop answer = (result, s')) :
    Turned s t call answer stop result mid s' := by
  obtain ⟨hnow, hcarried, hcalls⟩ := answer?_frame hanswer
  have hof (p : PublisherId) : mid.carriedOf p = s.carriedOf p := by
    rw [System.carriedOf, System.carriedOf, hcarried]
  -- so the call makes of the answer what it would have made before the answer
  have hturn : s.turnOf call stop answer =
      call.work.resume call.config stop (s.carriedFor call.work) answer := rfl
  cases hp : call.work.publisher? with
  | none =>
    simp only [System.resume, hp] at h
    obtain ⟨hr, hn, hst, hh, hx, hc, hg⟩ := settle_cases h
    simp only [System.carriedFor, hp] at hturn
    rw [hnow, hcalls] at hg
    refine ⟨hfound, ⟨fate, hanswer⟩, ?_, hn.trans hnow, hst, hh, hx, ?_, ?_⟩
    · rw [hturn, hr]
    · intro p
      rw [hp, if_neg (by simp), System.carriedOf, hc]
      exact hof p
    · rw [hturn]
      exact hg
  | some p =>
    simp only [System.resume, hp] at h
    obtain ⟨hr, hn, hst, hh, hx, hc, hg⟩ := settle_cases h
    simp only [System.carriedFor, hp, ← hof] at hturn
    rw [hnow, hcalls] at hg
    refine ⟨hfound, ⟨fate, hanswer⟩, ?_, hn.trans hnow, hst, hh, hx, ?_, ?_⟩
    · rw [hturn, hr]
    · intro q
      rw [System.carriedOf, hc, hturn]
      refine (carriedOf_put mid p q _).trans ?_
      simp only [hof, hp, Option.some.injEq]
    · rw [hturn]
      exact hg

/-- **What a step can do.** Something happens outside of the calls, a call starts, or a call takes
its turn. -/
theorem Step.cases (h : Step s e s') :
    (∃ o, e = .outside o ∧ s.allows o = true ∧ s' = s.apply o) ∨
    (∃ t c job, e = .start t c job ∧ Started s t c job s') ∨
    ∃ t call answer stop result mid, e = .turn t call answer result ∧
      Turned s t call answer stop result mid s' := by
  obtain ⟨move, h⟩ := h
  cases move with
  | outside o =>
    simp only [System.perform?] at h
    split at h
    · next hallowed =>
      cases h
      exact .inl ⟨o, rfl, hallowed, rfl⟩
    · cases h
  | start t c job =>
    simp only [System.perform?] at h
    split at h
    · cases h
    · next habsent =>
      cases h
      refine .inr (.inl ⟨t, c, job, rfl, ?_, rfl⟩)
      simpa [Table.contains] using habsent
  | turn t fate stop =>
    simp only [System.perform?, Option.bind_eq_bind, Option.bind_eq_some_iff] at h
    obtain ⟨call, hfound, ⟨answer, mid⟩, hanswer, h⟩ := h
    cases h
    exact .inr (.inr ⟨t, call, answer, stop, _, mid, rfl, turned_of_resume hfound hanswer rfl⟩)

/-- A call whose request is answered takes its turn. -/
theorem exists_turn {t : TaskId} {call : Call} {fate : Fate} {answer : call.request.Answer}
    {mid : System} (found : s.calls.get? t = some call) (stop : Bool)
    (answered : s.answer? t call fate call.request = some (answer, mid)) :
    ∃ result s', Step s (.turn t call answer result) s' ∧
      Turned s t call answer stop result mid s' := by
  obtain ⟨result, s', h⟩ : ∃ result s', mid.resume t call stop answer = (result, s') :=
    ⟨_, _, rfl⟩
  refine ⟨result, s', ⟨.turn t fate stop, ?_⟩, turned_of_resume found answered h⟩
  simp only [System.perform?, Option.bind_eq_bind, Option.bind_eq_some_iff]
  exact ⟨call, found, (answer, mid), answered, by rw [h]⟩

end Inversion

/-! ## What the tasks show -/

/-- What a turn leaves alone at its own place and at all others it leaves alone everywhere. -/
theorem eq_everywhere {α β : Type} {f g : α → β} {a : α} (hhere : f a = g a)
    (hothers : ∀ b, b ≠ a → f b = g b) (b : α) : f b = g b := by
  by_cases hb : b = a
  · rw [hb, hhere]
  · exact hothers b hb

section Look

variable {s s' : System} {β : Type} {t : TaskId}

theorem Started.look {c : Config} {job : Job} (h : Started s t c job s') (f : Work → β) (b : β)
    (u : TaskId) : s'.look f b u = if t = u then f job.begin else s.look f b u := by
  rw [h.state, System.look, Table.get?_put]
  split <;> rfl

variable {call : Call} {answer : call.request.Answer} {stop : Bool} {result : Option Result}
  {mid : System}

/-- What a task shows after a turn. -/
theorem Turned.look (h : Turned s t call answer stop result mid s') (f : Work → β) (b : β)
    (u : TaskId) : s'.look f b u =
      if t = u then (s.turnOf call stop answer).2.progress.look f b else s.look f b u := by
  rw [System.look, h.calls]
  split
  · cases (s.turnOf call stop answer).2.progress <;> rfl
  · rfl

theorem Turned.look_before (h : Turned s t call answer stop result mid s') (f : Work → β) (b : β) :
    s.look f b t = f call.work :=
  System.look_of_found h.found f b

end Look

/-! ## The store stays sound -/

section Sound

variable {s s' : System} {e : Event} {trace : List Moment}

/-- What happens outside of the calls leaves the history, the carried outcomes and the calls alone,
and the store as well, unless a new message is put in. -/
theorem outside_cases {o : Outside} (h : s.allows o = true) :
    (s.apply o).history = s.history ∧ (s.apply o).carried = s.carried ∧
    (s.apply o).calls = s.calls ∧
    (s.store.Same (s.apply o).store ∨ ∃ m, s.store.Inserted m (s.apply o).store) := by
  cases o with
  | insert id draft now =>
    refine ⟨rfl, rfl, rfl, .inr ⟨_, Store.inserted_insert ?_ rfl⟩⟩
    simpa [System.allows, Message.ofDraft] using h
  | look => exact ⟨rfl, rfl, rfl, .inl (Store.same_tally s.store)⟩
  | _ => exact ⟨rfl, rfl, rfl, .inl ⟨rfl, rfl, rfl, rfl⟩⟩

theorem answer?_sound {t : TaskId} {call : Call} {fate : Fate} {r : Request} {answer : r.Answer}
    {mid : System} (hs : s.store.Sound) (h : s.answer? t call fate r = some (answer, mid)) :
    mid.store.Sound := by
  cases r with
  | proceed => exact (answer_proceed h) ▸ hs
  | enter => exact (answer_enter h).1 ▸ hs
  | fetch =>
    obtain ⟨store, rfl, ⟨_, -, hsame⟩ | ⟨_, -, hfetched⟩⟩ := answer_fetch hs h
    · exact hsame.sound hs
    · exact hfetched.sound hs
  | update =>
    obtain ⟨store, rfl, ⟨_, -, hsame⟩ | ⟨-, -, hsame⟩ | ⟨_, -, -, -, hsame⟩ | ⟨_, _, -, hmoved⟩⟩ :=
      answer_update hs h
    · exact hsame.sound hs
    · exact hsame.sound hs
    · exact hsame.sound hs
    · exact hmoved.sound hs
  | release =>
    obtain ⟨store, rfl, ⟨-, -, hsame⟩ | ⟨-, hreleased⟩⟩ := answer_release h
    · exact hsame.sound hs
    · exact hreleased.sound hs
  | append =>
    rcases answer_append h with ⟨-, rfl⟩ | ⟨-, -, rfl⟩
    · exact hs
    · exact hs
  | publish =>
    obtain ⟨broker, rfl, -⟩ := answer_publish h
    exact hs
  | subscribe =>
    obtain ⟨broker, rfl, -⟩ := answer_subscribe h
    exact hs
  | sleep => exact (answer_sleep h).1 ▸ hs
  | pause => exact (answer_pause h) ▸ hs
  | receive =>
    obtain ⟨broker, rfl, -⟩ := answer_receive h
    exact hs
  | ready | take | listen | launch | halt | join => cases h

theorem Step.sound (h : Step s e s') (hs : s.store.Sound) : s'.store.Sound := by
  rcases Step.cases h with ⟨o, -, hallowed, rfl⟩ | ⟨t, c, job, -, hstart⟩ |
    ⟨t, call, answer, stop, result, mid, -, hturn⟩
  · obtain ⟨-, -, -, hsame | ⟨m, hinserted⟩⟩ := outside_cases hallowed
    · exact hsame.sound hs
    · exact hinserted.sound hs
  · rw [hstart.state]
    exact hs
  · obtain ⟨fate, hanswer⟩ := hturn.answered
    rw [hturn.store]
    exact answer?_sound hs hanswer

/-- The store is sound in every state of a run. -/
theorem Run.sound (run : Run .initial trace s) : s.store.Sound :=
  run.invariant (I := fun _ s => s.store.Sound) Store.sound_empty fun _ hs h => h.sound hs

/-- What holds of every call at its beginning, and is kept by its turns, holds of every call in a
run. -/
theorem Run.of_calls {P : Call → Prop} (run : Run .initial trace s)
    (first : ∀ moment ∈ trace, ∀ {t c job}, moment.event = .start t c job →
      P ⟨c, job.begin, moment.before.now⟩)
    (next : ∀ {s : System} {call stop answer later}, P call →
      (s.turnOf call stop answer).2.progress = .waiting later → P ⟨call.config, later, s.now⟩)
    {t : TaskId} {call : Call} (found : s.calls.get? t = some call) : P call := by
  induction run generalizing t call with
  | nil => cases found
  | @snoc trace s s' e run h ih =>
    obtain ⟨hbefore, hnow⟩ := forall_mem_snoc.mp first
    rcases Step.cases h with ⟨o, -, hallowed, rfl⟩ | ⟨u, c, job, rfl, hstart⟩ |
      ⟨u, other, answer, stop, result, mid, -, hturn⟩
    · rw [(outside_cases hallowed).2.2.1] at found
      exact ih hbefore found
    · rw [hstart.state, Table.get?_put] at found
      split at found
      · cases found
        exact hnow rfl
      · exact ih hbefore found
    · rw [hturn.calls] at found
      split at found
      · obtain ⟨later, hlater, hcall⟩ := Progress.waiting_of_look found fun h => by cases h
        cases hcall
        exact next (ih hbefore hturn.found) hlater
      · exact ih hbefore found

/-- No step turns the clock back. -/
theorem Step.now_le (h : Step s e s') : s.now ≤ s'.now := by
  rcases Step.cases h with ⟨o, -, -, rfl⟩ | ⟨t, c, job, -, hstart⟩ |
    ⟨t, call, answer, stop, result, mid, -, hturn⟩
  · cases o
    case wait milliseconds => exact Nat.le_add_right _ _
    all_goals exact Nat.le_refl _
  · exact hstart.state ▸ Nat.le_refl _
  · exact Nat.le_of_eq hturn.now.symm

/-- What happened in a run did not happen after its end. -/
theorem Run.now_le {s₀ : System} (run : Run s₀ trace s) :
    s₀.now ≤ s.now ∧ ∀ moment ∈ trace, moment.before.now ≤ s.now := by
  induction run with
  | nil => exact ⟨Nat.le_refl _, fun _ hmem => absurd hmem List.not_mem_nil⟩
  | snoc run h ih =>
    obtain ⟨hnow, hbefore⟩ := ih
    have hle := h.now_le
    refine ⟨Nat.le_trans hnow hle, forall_mem_snoc.mpr ⟨?_, hle⟩⟩
    exact fun moment hmem => Nat.le_trans (hbefore moment hmem) hle

end Sound

end Interplay

end Outbox
