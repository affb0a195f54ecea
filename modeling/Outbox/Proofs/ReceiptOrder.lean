import Outbox.Proofs.Interplay.Receiving
/-!
# `Proofs.ReceiptOrder` — a consumer finishes the receipts of its queue one after the other

A consumer's loop that has its queue to itself takes a receipt from its subscription only when it is
done with the one before, and is done with one only when it was recorded, or found to need no
recording. When its subscription is cut the loop reads what was delivered before, and then goes on with
a new subscription, which has the receipts that came in between. So the receipts that it is done with
are at any time the first of those that were delivered.
-/

namespace Outbox

/-- The receipt that the answer to a request brings. -/
def Request.heard? (r : Request) (answer : r.Answer) : Option Receipt :=
  match r.receiptEvent? answer with
  | some (.received _ receipt) => some receipt
  | _ => none

namespace Consuming

/-- The receipt that the loop has in hand. -/
def inHand? : Consuming → Option Receipt
  | .handling _ work => some work.receipt
  | .pausing _ r => some r
  | .starting _ | .listening _ | .reconnecting _ | .subscribing _ => none

/-- Whether the loop was told that its subscription is lost. -/
def isCutOff : Consuming → Bool
  | .reconnecting _ | .subscribing _ => true
  | .starting _ | .listening _ | .handling .. | .pausing .. => false

/-- The receipt that the loop is done with after an answer: one that could not be recorded is handled
again. -/
def finished? (c : Config) (s : Consuming) (answer : (s.request c).Answer) : Option Receipt :=
  match s.disposition? c answer with
  | none | some .storeFailed => none
  | some _ => s.inHand?

section Resume

variable {c : Config} {stop : Bool} {s next : Consuming} {answer : (s.request c).Answer}

/-- Who does not stop listens next. -/
theorem goOn_waiting {stream : StreamId} (h : (goOn stop stream).progress = .waiting next) :
    next = .listening stream := by
  unfold goOn at h
  split at h
  · cases h
  · cases h
    rfl

/-- What the loop had in hand and what it takes is what it is done with and what it has in hand
then. -/
theorem resume_inHand (c : Config) (stop : Bool) (s : Consuming) (answer : (s.request c).Answer) :
    ∃ hand : Option Receipt,
      s.inHand?.toList ++ ((s.request c).heard? answer).toList =
        (s.finished? c answer).toList ++ hand.toList ∧
      ∀ next, (s.resume c stop answer).progress = .waiting next → next.inHand? = hand := by
  cases s with
  | starting stream =>
    exact ⟨none, rfl, fun next h => goOn_waiting h ▸ rfl⟩
  | listening stream =>
    change Heard at answer
    cases answer with
    | receipt r =>
      refine ⟨some r, rfl, fun next h => ?_⟩
      cases h
      rfl
    | lost failure =>
      refine ⟨none, rfl, fun next h => ?_⟩
      cases h
      rfl
    | ended => exact ⟨none, rfl, fun next h => (nomatch h)⟩
    | signal givenUp =>
      refine ⟨none, rfl, fun next h => ?_⟩
      cases givenUp with
      | false => exact goOn_waiting h ▸ rfl
      | true => cases h
  | handling stream work =>
    have hplain : ((handling stream work).request c).isPlain = true := work.plain c
    have hheard : ((handling stream work).request c).heard? answer = none := by
      unfold Request.heard?
      rw [Request.receiptEvent?_of_plain hplain]
    rw [hheard]
    cases hp : (work.resume c answer).progress with
    | waiting work' =>
      have hsame := (Handling.goes_of_resume hp).receipt
      refine ⟨some work.receipt, ?_, fun next h => ?_⟩
      · simp [finished?, disposition?, hp, Progress.outcome?, inHand?]
      · simp only [resume, Turn.andThen_of_waiting hp] at h
        cases h
        exact congrArg some hsame
    | finished d =>
      simp only [resume, Turn.andThen_of_finished hp, finished?, disposition?, hp, Progress.outcome?]
      cases d with
      | storeFailed =>
        refine ⟨some work.receipt, rfl, fun next h => ?_⟩
        cases h
        rfl
      | applied | duplicate | unknownMessage | dropped =>
        exact ⟨none, rfl, fun next h => goOn_waiting h ▸ rfl⟩
  | pausing stream r =>
    change Bool at answer
    refine ⟨some r, rfl, fun next h => ?_⟩
    cases answer with
    | false =>
      cases h
      rfl
    | true => cases h
  | reconnecting stream =>
    change Bool at answer
    refine ⟨none, rfl, fun next h => ?_⟩
    cases answer with
    | false =>
      cases h
      rfl
    | true => cases h
  | subscribing stream =>
    change Except BrokerFailure StreamId at answer
    cases answer with
    | ok fresh => exact ⟨none, rfl, fun next h => goOn_waiting h ▸ rfl⟩
    | error failure =>
      refine ⟨none, rfl, fun next h => ?_⟩
      cases h
      rfl

/-- The loop takes a receipt with its hands free, and goes on to handle it. -/
theorem inHand?_of_heard {r : Receipt} (stop : Bool) (h : (s.request c).heard? answer = some r) :
    s.inHand? = none ∧ ∀ outcome, (s.resume c stop answer).progress ≠ .finished outcome := by
  cases s with
  | listening stream =>
    change Heard at answer
    cases answer with
    | receipt => exact ⟨rfl, nofun⟩
    | lost | ended | signal => cases h
  | subscribing stream =>
    change Except BrokerFailure StreamId at answer
    cases answer <;> cases h
  | handling stream work =>
    have hplain : ((handling stream work).request c).isPlain = true := work.plain c
    unfold Request.heard? at h
    rw [Request.receiptEvent?_of_plain hplain] at h
    cases h
  | starting | pausing | reconnecting => cases h

theorem stream_of_receive {stream : StreamId} (h : s.request c = .receive stream) :
    s.stream = stream := by
  cases s with
  | listening =>
    cases h
    rfl
  | handling stream work =>
    have hplain := work.plain c
    rw [show work.request c = _ from h] at hplain
    cases hplain
  | starting | pausing | reconnecting | subscribing => cases h

/-- The loop keeps its subscription, and is cut off when it is told so; or it was cut off and goes on
with a new one. -/
theorem resume_stream (h : (s.resume c stop answer).progress = .waiting next) :
    (next.stream = s.stream ∧
      (∀ queue new, (s.request c).receiptEvent? answer ≠ some (.subscribed queue new)) ∧
      (next.isCutOff = true → s.isCutOff = true ∨
        (s.request c).receiptEvent? answer = some (.finished s.stream))) ∨
    (s.isCutOff = true ∧ next.isCutOff = false ∧
      (s.request c).receiptEvent? answer = some (.subscribed c.receiptQueue next.stream)) := by
  have stays {next' : Consuming} (hstream : next'.stream = s.stream) (hcut : next'.isCutOff = false)
      (hnone : ∀ queue new, (s.request c).receiptEvent? answer ≠ some (.subscribed queue new)) :
      next'.stream = s.stream ∧
        (∀ queue new, (s.request c).receiptEvent? answer ≠ some (.subscribed queue new)) ∧
        (next'.isCutOff = true → s.isCutOff = true ∨
          (s.request c).receiptEvent? answer = some (.finished s.stream)) :=
    ⟨hstream, hnone, fun h => absurd (h.symm.trans hcut) nofun⟩
  cases s with
  | starting stream =>
    obtain rfl := goOn_waiting h
    exact .inl (stays rfl rfl nofun)
  | listening stream =>
    change Heard at answer
    cases answer with
    | receipt r =>
      cases h
      exact .inl (stays rfl rfl nofun)
    | lost failure =>
      cases h
      exact .inl ⟨rfl, nofun, fun _ => .inr rfl⟩
    | ended => cases h
    | signal givenUp =>
      cases givenUp with
      | false =>
        obtain rfl := goOn_waiting h
        exact .inl (stays rfl rfl nofun)
      | true => cases h
  | handling stream work =>
    have hplain : ((handling stream work).request c).isPlain = true := work.plain c
    have hnone (queue : String) (new : StreamId) :
        ((handling stream work).request c).receiptEvent? answer ≠ some (.subscribed queue new) := by
      rw [Request.receiptEvent?_of_plain hplain]
      nofun
    rcases Turn.waiting_cases h with ⟨work', -, rfl⟩ | ⟨d, -, hlast⟩
    · exact .inl (stays rfl rfl hnone)
    · cases d with
      | storeFailed =>
        cases hlast
        exact .inl (stays rfl rfl hnone)
      | applied | duplicate | unknownMessage | dropped =>
        obtain rfl := goOn_waiting hlast
        exact .inl (stays rfl rfl hnone)
  | pausing stream r =>
    change Bool at answer
    cases answer with
    | false =>
      cases h
      exact .inl (stays rfl rfl nofun)
    | true => cases h
  | reconnecting stream =>
    change Bool at answer
    cases answer with
    | false =>
      cases h
      exact .inl ⟨rfl, nofun, fun _ => .inl rfl⟩
    | true => cases h
  | subscribing stream =>
    change Except BrokerFailure StreamId at answer
    cases answer with
    | ok fresh =>
      obtain rfl := goOn_waiting h
      exact .inr ⟨rfl, rfl, rfl⟩
    | error failure =>
      cases h
      exact .inl ⟨rfl, nofun, fun _ => .inl rfl⟩

end Resume

end Consuming

namespace Interplay

/-- The receipt that a consumer's loop is done with after an answer. -/
def Work.finished? (c : Config) : (w : Work) → (w.request c).Answer → Option Receipt
  | .consuming s, answer => s.finished? c answer
  | .recording _, _ | .handling _, _ | .batching .., _ | .publishing .., _ => none

/-! ## A turn of the loop -/

/-- The loop has its queue to itself, and when it is cut off nothing more comes from the subscription
that it had. -/
structure System.Attends (s : System) (queue : String) (work : Consuming) : Prop where
  serves : s.broker.Serves queue work.stream
  spent : work.isCutOff = true → s.broker.Spent queue work.stream

section Attends

variable {s s' : System} {t : TaskId} {call : Call} {answer : call.request.Answer}
  {result : Option Result} {work : Consuming}

/-- What is due to the loop when it keeps its subscription. -/
theorem System.Attends.keeps {mid : System} {r : Request} {answer : r.Answer} {c : Config}
    (hb : s.broker.Wired) (attends : s.Attends c.receiptQueue work)
    (own : r = work.request c)
    (does : Broker.Does s.broker mid.broker (r.receiptEvent? answer))
    (none_new : ∀ queue new, r.receiptEvent? answer ≠ some (.subscribed queue new)) :
    mid.broker.Serves c.receiptQueue work.stream ∧
    (r.heard? answer).toList ++ mid.broker.due c.receiptQueue work.stream =
      s.broker.due c.receiptQueue work.stream ∧
    (work.isCutOff = true ∨ r.receiptEvent? answer = some (.finished work.stream) →
      mid.broker.Spent c.receiptQueue work.stream) := by
  subst own
  unfold Request.heard?
  cases he : (work.request c).receiptEvent? answer with
  | none =>
    rw [he] at does
    cases does with
    | same alike =>
      obtain ⟨hserves, hdue, hspent⟩ := attends.serves.alike alike
      exact ⟨hserves, hdue, fun h => hspent (attends.spent (h.resolve_right nofun))⟩
  | some e =>
    obtain ⟨_, hwork, hcase⟩ := receiptEvent?_cases (w := .consuming work) he
    cases hwork
    rw [he] at does none_new
    have hkept : e ≠ .dropped work.stream := by
      rcases hcase with ⟨-, rfl | ⟨r, rfl⟩⟩ | ⟨-, new, rfl⟩ <;> nofun
    obtain ⟨hserves, hdue, hspent⟩ := attends.serves.step hb does hkept fun new h =>
      none_new _ new (congrArg some h)
    have hspent' : work.isCutOff = true ∨ some e = some (.finished work.stream) →
        mid.broker.Spent c.receiptQueue work.stream := fun h =>
      hspent (h.symm.imp Option.some.inj attends.spent)
    refine ⟨hserves, ?_, hspent'⟩
    rcases hcase with ⟨-, rfl | ⟨r, rfl⟩⟩ | ⟨-, new, rfl⟩
    · exact hdue.trans (List.append_nil _)
    · have hread : (Broker.Event.received work.stream r).receivedFrom? work.stream = some r :=
        if_pos rfl
      rw [hread] at hdue
      exact hdue.trans (List.append_nil _)
    · exact absurd rfl (none_new _ new)

/-- What is due to the loop when it goes on with a new subscription. -/
theorem System.Attends.renews {mid : System} {queue : String} {new : StreamId}
    (hmid : mid.broker.Wired) (attends : s.Attends queue work)
    (cut : work.isCutOff = true)
    (does : Broker.Does s.broker mid.broker (some (.subscribed queue new))) :
    (mid.broker.giveUp (some work.stream) (some new)).Serves queue new ∧
    (mid.broker.giveUp (some work.stream) (some new)).due queue new =
      s.broker.due queue work.stream := by
  obtain ⟨hnobody, hnil⟩ := attends.spent cut
  obtain ⟨hserves, hdue⟩ := Broker.serves_subscribed does
    (Broker.listeners_eq_nil attends.serves.only hnobody)
  obtain ⟨e?, hgive, hdropped⟩ := mid.broker.giveUp_does (some work.stream) (some new)
  have hspared (e : Broker.Event) (he : e? = some e) :
      e.readerOf? ≠ some new ∧ ∀ other, e ≠ .subscribed queue other := by
    obtain ⟨held, rfl, hheld, hne⟩ := hdropped e he
    exact ⟨fun h => hne h.symm, nofun⟩
  obtain ⟨hserves', hdue', -⟩ := hserves.spared hmid hgive hspared
  refine ⟨hserves', ?_⟩
  have hnone : e?.bind (·.deliveredOn? queue) = none := by
    refine Option.bind_eq_none_iff.mpr fun e he => ?_
    obtain ⟨held, rfl, -⟩ := hdropped e he
    rfl
  rw [hdue', hnone, hdue, Broker.due, hnil]
  exact List.append_nil _

/-- **What a turn of the loop does to what is due.** The loop comes to its end, or takes at most the
first receipt that is due and leaves the others. -/
theorem System.Attends.turn (h : Step s (.turn t call answer result) s') (hb : s.broker.Wired)
    (hwork : call.work = .consuming work) (attends : s.Attends call.config.receiptQueue work) :
    ∃ hand : Option Receipt,
      work.inHand?.toList ++ (call.request.heard? answer).toList =
        (call.work.finished? call.config answer).toList ++ hand.toList ∧
      ((s'.calls.get? t = none ∧ call.request.heard? answer = none) ∨
        ∃ next, s'.calls.get? t = some ⟨call.config, .consuming next, s.now⟩ ∧
          next.inHand? = hand ∧ s'.Attends call.config.receiptQueue next ∧
          (call.request.heard? answer).toList ++ s'.broker.due call.config.receiptQueue next.stream =
            s.broker.due call.config.receiptQueue work.stream) := by
  obtain ⟨c, w, since⟩ := call
  cases hwork
  obtain ⟨stop, mid, hturn, hbroker⟩ := h.turn_broker
  obtain ⟨fate, hanswer⟩ := hturn.answered
  have hcall := (hturn.calls t).trans (if_pos rfl)
  have hprogress : (s.turnOf ⟨c, .consuming work, since⟩ stop answer).2.progress =
      ((work.resume c stop answer).andThen .consuming fun () => .finish .consumed).progress := rfl
  rw [hprogress] at hcall hbroker
  obtain ⟨hand, hhand, hnext⟩ := Consuming.resume_inHand c stop work answer
  refine ⟨hand, hhand, ?_⟩
  cases hp : (work.resume c stop answer).progress with
  | finished outcome =>
    rw [Turn.andThen_of_finished hp] at hcall
    refine .inl ⟨hcall, ?_⟩
    cases hheard : (⟨c, .consuming work, since⟩ : Call).request.heard? answer with
    | none => rfl
    | some r => exact absurd hp ((Consuming.inHand?_of_heard _ hheard).2 outcome)
  | waiting next =>
    rw [Turn.andThen_of_waiting hp] at hcall hbroker
    refine .inr ⟨next, hcall, hnext next hp, ?_⟩
    change s'.broker = mid.broker.giveUp (some work.stream) (some next.stream) at hbroker
    obtain ⟨hwired, hdoes⟩ := answer?_does hb hanswer
    -- the loop does not read from a subscription that is not there
    have hdoes := hdoes.resolve_right <| by
      rintro ⟨stream, hrequest, habsent, -⟩
      obtain ⟨_, _, _, hthere, -⟩ := attends.serves.offers
      rw [Consuming.stream_of_receive hrequest] at hthere
      cases hthere.symm.trans habsent
    rcases Consuming.resume_stream hp with ⟨hstream, hnone, hcut⟩ | ⟨hwas, hnot, hnew⟩
    · rw [hstream, mid.broker.giveUp_of_same (.inr rfl)] at hbroker
      obtain ⟨hserves, hdue, hspent⟩ := attends.keeps hb rfl hdoes hnone
      rw [hstream, hbroker]
      exact ⟨⟨hbroker ▸ hstream ▸ hserves, fun h => hbroker ▸ hstream ▸ hspent (hcut h)⟩, hdue⟩
    · have hnew' : (⟨c, .consuming work, since⟩ : Call).request.receiptEvent? answer =
          some (.subscribed c.receiptQueue next.stream) := hnew
      rw [hnew'] at hdoes
      obtain ⟨hserves, hdue⟩ := attends.renews hwired hwas hdoes
      have hheard : (⟨c, .consuming work, since⟩ : Call).request.heard? answer = none := by
        unfold Request.heard?
        rw [hnew']
      rw [hheard, hbroker]
      refine ⟨⟨hbroker ▸ hserves, fun h => ?_⟩, hdue⟩
      rw [hnot] at h
      cases h

end Attends

/-! ## The receipts in order -/

/-- The receipts that were delivered on a queue. -/
def deliveredOn (queue : String) (trace : List Moment) : List Receipt :=
  trace.filterMap fun moment => moment.event.delivered? queue

/-- The receipt that a call has taken from a subscription. -/
def Event.taken? (t : TaskId) : Event → Option Receipt
  | .turn u call answer _ => if u = t then call.request.heard? answer else none
  | .outside _ | .start .. => none

/-- The receipts that a call has taken from its subscriptions. -/
def takenBy (t : TaskId) (trace : List Moment) : List Receipt :=
  trace.filterMap fun moment => moment.event.taken? t

/-- The receipt that a consumer's loop is done with. -/
def Event.finished? (t : TaskId) : Event → Option Receipt
  | .turn u call answer _ => if u = t then call.work.finished? call.config answer else none
  | .outside _ | .start .. => none

/-- The receipts that a consumer's loop is done with. -/
def finishedBy (t : TaskId) (trace : List Moment) : List Receipt :=
  trace.filterMap fun moment => moment.event.finished? t

/-- Whether a task is left alone with its subscription to a queue: it takes a turn itself, or what
happens has nothing to do with the subscription that it holds, and does not start the task again. -/
def Moment.leaves (queue : String) (t : TaskId) (moment : Moment) : Bool :=
  match moment.event with
  | .turn u _ _ _ => u = t || spares
  | .start u _ _ => u ≠ t
  | .outside _ => spares
where
  spares : Bool :=
    (moment.before.look Work.stream? none t).all fun held => moment.event.spares queue held

/-- How far a consumer's loop has come with the receipts of its queue: what it has taken is what it is
done with and what it has in hand, and as long as it runs, all others are due to it. -/
structure Ordered (t : TaskId) (c : Config) (all : List Receipt) (trace : List Moment)
    (s : System) : Prop where
  taken : ∃ hand : Option Receipt, takenBy t trace = finishedBy t trace ++ hand.toList ∧
    ((s.calls.get? t = none ∧ takenBy t trace <+: all) ∨
      ∃ work since, s.calls.get? t = some ⟨c, .consuming work, since⟩ ∧ work.inHand? = hand ∧
        s.Attends c.receiptQueue work ∧
        takenBy t trace ++ s.broker.due c.receiptQueue work.stream = all)
  turns : ∀ past moment later, trace = past ++ moment :: later →
    (moment.event.taken? t).isSome = true → takenBy t past = finishedBy t past

section Ordered

variable {s s' : System} {e : Event} {t : TaskId} {c : Config} {all : List Receipt}
  {trace : List Moment}

/-- A moment of a longer trace is the last one, or one of those before. -/
theorem Ordered.turns_snoc (h : Ordered t c all trace s) {last : Moment}
    (free : (last.event.taken? t).isSome = true → takenBy t trace = finishedBy t trace)
    {past later : List Moment} {moment : Moment}
    (split : trace ++ [last] = past ++ moment :: later)
    (taken : (moment.event.taken? t).isSome = true) : takenBy t past = finishedBy t past := by
  rcases List.eq_nil_or_concat later with rfl | ⟨later, final, rfl⟩
  · obtain ⟨rfl, hlast⟩ := List.append_inj' split rfl
    cases hlast
    exact free taken
  · rw [List.concat_eq_append, ← List.cons_append, ← List.append_assoc] at split
    exact h.turns past moment later (List.append_inj_left' split rfl) taken

/-- The loop takes its turn. -/
theorem Ordered.own (h : Ordered t c all trace s) (hb : s.broker.Wired) {call : Call}
    {answer : call.request.Answer} {result : Option Result}
    (step : Step s (.turn t call answer result) s') :
    Ordered t c all (trace ++ [⟨s, .turn t call answer result⟩]) s' := by
  obtain ⟨hand, htaken, hcase⟩ := h.taken
  obtain ⟨_, _, hturn, -⟩ := step.turn_broker
  obtain ⟨hnone, -⟩ | ⟨work, since, hcall, hhand, hattends, hall⟩ := hcase
  · cases hnone.symm.trans hturn.found
  · cases hcall.symm.trans hturn.found
    obtain ⟨hand', hmoves, hnext⟩ := hattends.turn step hb rfl
    have htaken' : takenBy t (trace ++ [⟨s, .turn t ⟨c, .consuming work, since⟩ answer result⟩]) =
        takenBy t trace ++ ((⟨c, .consuming work, since⟩ : Call).request.heard? answer).toList := by
      rw [takenBy, filterMap_snoc]
      simp only [Event.taken?, if_true]
      rfl
    have hfinished' :
        finishedBy t (trace ++ [⟨s, .turn t ⟨c, .consuming work, since⟩ answer result⟩]) =
        finishedBy t trace ++ (work.finished? c answer).toList := by
      rw [finishedBy, filterMap_snoc]
      simp only [Event.finished?, if_true]
      rfl
    refine ⟨⟨hand', ?_, ?_⟩, fun past moment later => h.turns_snoc fun hsome => ?_⟩
    · rw [htaken', hfinished', htaken, List.append_assoc, List.append_assoc, ← hhand]
      exact congrArg (finishedBy t trace ++ ·) hmoves
    · rw [htaken']
      rcases hnext with ⟨hgone, hheard⟩ | ⟨next, hcall', hhand', hattends', hdue⟩
      · rw [hheard]
        exact .inl ⟨hgone, List.append_nil _ ▸ ⟨_, hall⟩⟩
      · refine .inr ⟨next, _, hcall', hhand', hattends', ?_⟩
        rw [List.append_assoc]
        exact (congrArg (takenBy t trace ++ ·) hdue).trans hall
    · simp only [Event.taken?, if_true] at hsome
      obtain ⟨r, hr⟩ := Option.isSome_iff_exists.mp hsome
      have hfree : work.inHand? = none := (Consuming.inHand?_of_heard false hr).1
      rw [htaken, ← hhand, hfree]
      exact List.append_nil _

/-- Something else happens. -/
theorem Ordered.other (h : Ordered t c all trace s) (hb : s.broker.Wired) (step : Step s e s')
    (calls : s'.calls.get? t = s.calls.get? t) (taken : e.taken? t = none)
    (finished : e.finished? t = none)
    (spares : ∀ held, s.look Work.stream? none t = some held →
      e.spares c.receiptQueue held = true) :
    Ordered t c (all ++ (e.delivered? c.receiptQueue).toList) (trace ++ [⟨s, e⟩]) s' := by
  have htaken : takenBy t (trace ++ [⟨s, e⟩]) = takenBy t trace := by
    rw [takenBy, filterMap_snoc, taken]
    exact List.append_nil _
  have hfinished : finishedBy t (trace ++ [⟨s, e⟩]) = finishedBy t trace := by
    rw [finishedBy, filterMap_snoc, finished]
    exact List.append_nil _
  refine ⟨?_, fun past moment later => h.turns_snoc fun hsome => ?_⟩
  · rw [htaken, hfinished, calls]
    obtain ⟨hand, hmoves, ⟨hnone, hprefix⟩ | ⟨work, since, hcall, hhand, hattends, hall⟩⟩ := h.taken
    · exact ⟨hand, hmoves, .inl ⟨hnone, hprefix.trans (List.prefix_append _ _)⟩⟩
    · have hstream : s.look Work.stream? none t = some work.stream :=
        System.look_of_found hcall Work.stream? none
      obtain ⟨hserves, hdue, hspent⟩ := step.due hb hattends.serves (spares _ hstream)
      refine ⟨hand, hmoves, .inr ⟨work, since, hcall, hhand,
        ⟨hserves, fun hcut => hspent (hattends.spent hcut)⟩, ?_⟩⟩
      rw [hdue, ← List.append_assoc, hall]
  · rw [taken] at hsome
    cases hsome

/-- A step keeps the order of the receipts. -/
theorem Ordered.step (h : Ordered t c all trace s) (hb : s.broker.Wired) (step : Step s e s')
    (leaves : (⟨s, e⟩ : Moment).leaves c.receiptQueue t = true) :
    Ordered t c (all ++ (e.delivered? c.receiptQueue).toList) (trace ++ [⟨s, e⟩]) s' := by
  rcases Step.cases step with ⟨o, rfl, hallowed, hs'⟩ | ⟨u, c', job, rfl, hstart⟩ |
    ⟨u, call, answer, stop, result, mid, rfl, hturn⟩
  · have hcalls : s'.calls = s.calls := hs' ▸ (outside_cases hallowed).2.2.1
    refine h.other hb step (by rw [hcalls]) rfl rfl fun held hheld => ?_
    simpa [Moment.leaves, Moment.leaves.spares, hheld] using leaves
  · have hne : u ≠ t := by simpa [Moment.leaves] using leaves
    have hcalls : s'.calls.get? t = s.calls.get? t := by
      rw [hstart.state]
      exact (Table.get?_put ..).trans (if_neg hne)
    exact h.other hb step hcalls rfl rfl fun _ _ => rfl
  · by_cases heq : u = t
    · subst heq
      rw [show (Event.turn u call answer result).delivered? c.receiptQueue = none from rfl]
      simpa using h.own hb step
    · have hcalls : s'.calls.get? t = s.calls.get? t := (hturn.calls t).trans (if_neg heq)
      refine h.other hb step hcalls (if_neg heq) (if_neg heq) fun held hheld => ?_
      simpa [Moment.leaves, Moment.leaves.spares, hheld, heq] using leaves

theorem deliveredOn_snoc (queue : String) (trace : List Moment) (moment : Moment) :
    deliveredOn queue (trace ++ [moment]) =
      deliveredOn queue trace ++ (moment.event.delivered? queue).toList :=
  filterMap_snoc ..

/-- A run keeps the order of the receipts. -/
theorem Ordered.run {s₀ : System} {past : List Moment} (h : Ordered t c all [] s₀)
    (hb : s₀.broker.Wired) (run : Run s₀ past s)
    (leaves : ∀ moment ∈ past, moment.leaves c.receiptQueue t = true) :
    Ordered t c (all ++ deliveredOn c.receiptQueue past) past s := by
  induction run with
  | nil => exact (List.append_nil all).symm ▸ h
  | snoc run step ih =>
    obtain ⟨hbefore, hnow⟩ := forall_mem_snoc.mp leaves
    rw [deliveredOn_snoc, ← List.append_assoc]
    exact (ih hbefore).step (run.wired hb) step hnow

/-- What is due to a subscription before a loop is run on it. -/
theorem Run.due {s₀ : System} {past : List Moment} {queue : String} {stream : StreamId}
    (run : Run s₀ past s) (hb : s₀.broker.Wired) (serves : s₀.broker.Serves queue stream)
    (spares : ∀ moment ∈ past, moment.event.spares queue stream = true) :
    s.broker.Serves queue stream ∧
      s.broker.due queue stream = s₀.broker.due queue stream ++ deliveredOn queue past := by
  induction run with
  | nil => exact ⟨serves, (List.append_nil _).symm⟩
  | snoc run step ih =>
    obtain ⟨hbefore, hnow⟩ := forall_mem_snoc.mp spares
    obtain ⟨hserves, hdue⟩ := ih hbefore
    obtain ⟨hserves', hdue', -⟩ := step.due (run.wired hb) hserves hnow
    rw [deliveredOn_snoc, ← List.append_assoc, ← hdue]
    exact ⟨hserves', hdue'⟩

end Ordered

/-- **Receipts in order.** A subscription to a queue on which nobody listens is made for a consumer's
loop, and the loop is run; nobody else subscribes to the queue, reads from the subscription or gives it
up. Whatever fails, and however the subscription is cut and made anew, the receipts that the loop is
done with are the first of those that were in the backlog or were delivered since; the loop takes a
receipt when it is done with all that it took before; and as long as it runs, every other receipt is in
its hand, in the buffer of its subscription or in the backlog. -/
theorem finished_in_order {earlier before after : List Moment} {s₀ s₁ s₂ s : System} {t : TaskId}
    {c : Config} {stream : StreamId} (reached : Run .initial earlier s₀)
    (nobody : s₀.broker.listeners c.receiptQueue = [])
    (opened : (s₀.broker.subscribe c.receiptQueue).1 = .ok stream)
    (waiting : Run (s₀.apply (.subscribe c.receiptQueue)) before s₁)
    (spares : ∀ moment ∈ before, moment.event.spares c.receiptQueue stream = true)
    (started : Step s₁ (.start t c (.consume stream)) s₂) (run : Run s₂ after s)
    (leaves : ∀ moment ∈ after, moment.leaves c.receiptQueue t = true) :
    finishedBy t after <+: takenBy t after ∧
    takenBy t after <+:
      s₀.broker.backlog.getD c.receiptQueue [] ++ deliveredOn c.receiptQueue (before ++ after) ∧
    (takenBy t after).length ≤ (finishedBy t after).length + 1 ∧
    (∀ past moment later, after = past ++ moment :: later →
      (moment.event.taken? t).isSome = true → takenBy t past = finishedBy t past) ∧
    ∀ work since, s.calls.get? t = some ⟨c, .consuming work, since⟩ →
      finishedBy t after ++ work.inHand?.toList ++
          s.broker.buffered c.receiptQueue work.stream ++ s.broker.backlog.getD c.receiptQueue [] =
        s₀.broker.backlog.getD c.receiptQueue [] ++ deliveredOn c.receiptQueue (before ++ after) := by
  have hb := reached.wired Broker.wired_idle
  have hsubscribe : s₀.broker.subscribe c.receiptQueue =
      (.ok stream, (s₀.apply (.subscribe c.receiptQueue)).broker) := by
    rw [← opened]
    rfl
  obtain ⟨hserves, hdue⟩ := Broker.serves_subscribed (Broker.does_subscribe hb hsubscribe) nobody
  have hwired := hb.subscribe hsubscribe
  obtain ⟨hserves₁, hdue₁⟩ := waiting.due hwired hserves spares
  have hbroker : s₂.broker = s₁.broker ∧
      s₂.calls.get? t = some ⟨c, .consuming (.starting stream), s₁.now⟩ := by
    rcases Step.cases started with ⟨o, he, -⟩ | ⟨u, c', job, he, hstart⟩ |
      ⟨u, call, answer, stop, result, mid, he, -⟩
    · cases he
    · cases he
      rw [hstart.state]
      exact ⟨rfl, (Table.get?_put ..).trans (if_pos rfl)⟩
    · cases he
  have hfirst : Ordered t c
      (s₀.broker.backlog.getD c.receiptQueue [] ++ deliveredOn c.receiptQueue before) [] s₂ := by
    refine ⟨⟨none, rfl, .inr ⟨.starting stream, _, hbroker.2, rfl, ⟨?_, nofun⟩, ?_⟩⟩, ?_⟩
    · rw [hbroker.1]
      exact hserves₁
    · rw [hbroker.1, ← hdue]
      exact hdue₁
    · intro past moment later h
      cases past <;> cases h
  have hordered := hfirst.run (started.wired (waiting.wired hwired)) run leaves
  have hall : deliveredOn c.receiptQueue (before ++ after) =
      deliveredOn c.receiptQueue before ++ deliveredOn c.receiptQueue after := List.filterMap_append
  rw [hall, ← List.append_assoc]
  obtain ⟨⟨hand, htaken, hcase⟩, hturns⟩ := hordered
  refine ⟨⟨hand.toList, htaken.symm⟩, ?_, ?_, hturns, ?_⟩
  · rcases hcase with ⟨-, hprefix⟩ | ⟨work, since, -, -, -, hdue⟩
    · exact hprefix
    · exact ⟨_, hdue⟩
  · rw [htaken, List.length_append]
    cases hand <;> simp
  · intro work since hcall
    rcases hcase with ⟨hnone, -⟩ | ⟨work', since', hcall', hhand, -, hdue⟩
    · cases hnone.symm.trans hcall
    · cases hcall.symm.trans hcall'
      rw [← hdue, htaken, hhand, Broker.due]
      simp only [List.append_assoc]

/-- A receipt that waits in the backlog; then one is delivered to the new subscription, and one while
the loop is cut off. The first cannot be recorded at the first attempt, and the broker cannot be
reached when the loop first subscribes anew. -/
def cutOffMoves : List Move :=
  let queue := Config.default.receiptQueue
  let served := Fate.served .epoch default
  [.turn 0 served false,
    .turn 0 served false,
    .turn 0 (.storeDown "out of reach") false,
    .turn 0 (.signalled false) false,
    .outside (.deliver queue (.delivered (.ofNat 2))),
    .outside (.cut queue "restart"),
    .outside (.deliver queue (.delivered (.ofNat 3))),
    .turn 0 served false,
    .turn 0 served false,
    .turn 0 served false,
    .turn 0 served false,
    .turn 0 (.signalled false) false,
    .outside (.setReachable false),
    .turn 0 served false,
    .outside (.setReachable true),
    .turn 0 (.signalled false) false,
    .turn 0 served false,
    .turn 0 served false]

/-- Left alone, the loop of the first task has taken three receipts, and is done with two of them. -/
def TakesThird (queue : String) (after : List Moment) (s : System) : Prop :=
  (∀ moment ∈ after, moment.leaves queue 0 = true) ∧
  finishedBy 0 after = [.delivered (.ofNat 1), .delivered (.ofNat 2)] ∧
  takenBy 0 after = [.delivered (.ofNat 1), .delivered (.ofNat 2), .delivered (.ofNat 3)] ∧
  (s.calls.get? 0).isSome = true

instance (queue : String) (after : List Moment) (s : System) :
    Decidable (TakesThird queue after s) :=
  inferInstanceAs (Decidable (_ ∧ _))

theorem finished_in_order_cutOffMoves : ∃ earlier after s₀ s, Run .initial earlier s₀ ∧
    TakesThird Config.default.receiptQueue after s ∧
    takenBy 0 after <+: s₀.broker.backlog.getD Config.default.receiptQueue [] ++
      deliveredOn Config.default.receiptQueue ([] ++ after) := by
  let c : Config := { Config.default with storeRetries := 0 }
  let started (s₀ : System) : System :=
    let s₁ := s₀.apply (.subscribe c.receiptQueue)
    { s₁ with calls := s₁.calls.put 0 ⟨c, (Job.consume 0).begin, s₁.now⟩ }
  obtain ⟨earlier, s₀, reached, nobody, opened, absent, hlater⟩ :=
    exists_run [.outside (.deliver c.receiptQueue (.delivered (.ofNat 1)))] (s := .initial)
      (P := fun _ s₀ => s₀.broker.listeners c.receiptQueue = [] ∧
        (s₀.broker.subscribe c.receiptQueue).1.toOption = some 0 ∧ s₀.calls.get? 0 = none ∧
        ((started s₀).play? cutOffMoves).any
          (fun p => decide (TakesThird c.receiptQueue p.1 p.2)) = true)
      (by decide +kernel)
  obtain ⟨after, s, run, htakes⟩ := exists_run cutOffMoves (P := TakesThird c.receiptQueue) hlater
  have hopened : (s₀.broker.subscribe c.receiptQueue).1 = .ok 0 := by
    cases h : (s₀.broker.subscribe c.receiptQueue).1 with
    | error failure =>
      rw [h] at opened
      cases opened
    | ok stream =>
      rw [h] at opened
      exact congrArg _ (Option.some.inj opened)
  have hstarted : Step (s₀.apply (.subscribe c.receiptQueue)) (.start 0 c (.consume 0))
      (started s₀) := by
    have habsent : (s₀.apply (.subscribe c.receiptQueue)).calls.get? 0 = none := absent
    refine ⟨.start 0 c (.consume 0), ?_⟩
    simp [System.perform?, Table.contains, habsent, started]
  obtain ⟨-, hprefix, -⟩ := finished_in_order reached nobody hopened .nil
    (fun _ h => absurd h List.not_mem_nil) hstarted run htakes.1
  exact ⟨earlier, after, s₀, s, reached, htakes, hprefix⟩

end Interplay

end Outbox
