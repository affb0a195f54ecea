import Outbox.Proofs.Broker.Listening
import Outbox.Proofs.Interplay.Stint
/-!
# `Proofs.Interplay.Receiving` — what a step does to the receipts

A step delivers a receipt, closes, cuts, makes or gives up subscriptions, or it is the turn of a
consumer, which reads from its own subscription, or makes a new one and gives up the old. This module
says of each step what it does to the broker in the terms of `Proofs.Broker.Operation`, and so what
it leaves of the receipts that are due to somebody else.
-/

namespace Outbox

/-- What the answer to a request has done, as far as the receipts are concerned. -/
def Request.receiptEvent? : (r : Request) → r.Answer → Option Broker.Event
  | .receive stream, answer =>
    match (answer : Heard) with
    | .receipt r => some (.received stream r)
    | .lost _ | .ended => some (.finished stream)
    | .signal _ => none
  | .subscribe queue, answer =>
    match (answer : Except BrokerFailure StreamId) with
    | .ok stream => some (.subscribed queue stream)
    | .error _ => none
  | _, _ => none

/-- Whether a request has nothing to do with receipts, whatever the answer. -/
def Request.isPlain : Request → Bool
  | .receive _ | .subscribe _ => false
  | _ => true

theorem Request.receiptEvent?_of_plain {r : Request} (h : r.isPlain = true) (answer : r.Answer) :
    r.receiptEvent? answer = none := by
  cases r with
  | receive | subscribe => cases h
  | _ => rfl

theorem Recording.plain (c : Config) (work : Recording) : (work.request c).isPlain = true := by
  cases work <;> rfl

theorem Handling.plain (c : Config) (work : Handling) : (work.request c).isPlain = true := by
  cases work with
  | recording r rechecks rec => exact rec.plain c
  | rechecking => rfl

theorem Batching.plain (c : Config) (work : Batching) : (work.request c).isPlain = true := by
  cases work with
  | recovering _ _ rec | recording _ _ _ rec => exact rec.plain c
  | _ => rfl

theorem Publishing.plain (c : Config) (work : Publishing) : (work.request c).isPlain = true := by
  cases work with
  | batching batch => exact batch.plain c
  | _ => rfl

namespace Broker

variable {b : Broker} {held kept : Option StreamId}

/-- To give up a subscription that is not there changes nothing. -/
theorem drop_of_absent {id : StreamId} (h : b.streams.get? id = none) : b.drop id = b := by
  unfold drop
  rw [Table.erase_of_absent h]

/-- A holder that goes on gives up what it had, or nothing. -/
theorem giveUp_does (b : Broker) (held kept : Option StreamId) :
    ∃ e?, Does b (b.giveUp held kept) e? ∧
      ∀ e, e? = some e → ∃ id, e = .dropped id ∧ held = some id ∧ kept ≠ some id := by
  cases held with
  | none => exact ⟨none, .same b.alike_refl, nofun⟩
  | some id =>
    unfold giveUp
    dsimp only
    split
    · exact ⟨none, .same b.alike_refl, nofun⟩
    · next hne =>
      cases hget : b.streams.get? id with
      | none =>
        rw [drop_of_absent hget]
        exact ⟨none, .same b.alike_refl, nofun⟩
      | some s =>
        refine ⟨_, does_drop (Option.isSome_iff_exists.mpr ⟨s, hget⟩), fun e he => ?_⟩
        cases he
        exact ⟨id, rfl, rfl, hne⟩

theorem Wired.giveUp (hb : b.Wired) (held kept : Option StreamId) : (b.giveUp held kept).Wired := by
  unfold Broker.giveUp
  cases held with
  | none => exact hb
  | some id =>
    dsimp only
    split
    · exact hb
    · exact hb.drop id

end Broker

namespace Interplay

/-- The receipt that was delivered on a queue. -/
def Event.delivered? (queue : String) : Event → Option Receipt
  | .outside (.deliver other r) => if other = queue then some r else none
  | .outside _ | .start .. | .turn .. => none

/-- Whether an event has nothing to do with a subscription to a queue: nobody reads from it or gives
it up, and nobody subscribes to the queue. -/
def Event.spares (queue : String) (id : StreamId) : Event → Bool
  | .outside (.subscribe other) => other ≠ queue
  | .outside (.unsubscribe other) => other ≠ id
  | .outside _ | .start .. => true
  | .turn _ call _ _ => call.work.stream?.all fun held => held ≠ id && call.config.receiptQueue ≠ queue

section Broker

variable {s s' mid : System} {e : Event} {t : TaskId} {call : Call} {fate : Fate}
  {trace : List Moment}

/-- What happens outside of the calls delivers at most a receipt, gives up at most the subscription
that it is about, and makes none but to the queue that it is about. -/
theorem apply_does (hb : s.broker.Wired) (o : Outside) :
    (s.apply o).broker.Wired ∧ ∃ e?, Broker.Does s.broker (s.apply o).broker e? ∧
      (∀ queue, e?.bind (·.deliveredOn? queue) = (Event.outside o).delivered? queue) ∧
      (∀ id, e?.bind Broker.Event.readerOf? = some id → o = .unsubscribe id) ∧
      ∀ queue new, e? = some (.subscribed queue new) → o = .subscribe queue := by
  cases o with
  | insert | wait | failOperations | failUpdates | look =>
    exact ⟨hb, none, .same s.broker.alike_refl, fun _ => rfl, nofun, nofun⟩
  | take exchange =>
    have hsame := s.broker.alike_take exchange
    exact ⟨hsame.wired hb, none, .same hsame, fun _ => rfl, nofun, nofun⟩
  | setReachable reachable =>
    have hsame : s.broker.Alike (s.broker.setReachable reachable) := ⟨rfl, rfl, rfl, rfl⟩
    exact ⟨hsame.wired hb, none, .same hsame, fun _ => rfl, nofun, nofun⟩
  | reject id =>
    have hsame : s.broker.Alike (s.broker.reject id) := ⟨rfl, rfl, rfl, rfl⟩
    exact ⟨hsame.wired hb, none, .same hsame, fun _ => rfl, nofun, nofun⟩
  | failPublications n =>
    have hsame : s.broker.Alike (s.broker.failPublications n) := ⟨rfl, rfl, rfl, rfl⟩
    exact ⟨hsame.wired hb, none, .same hsame, fun _ => rfl, nofun, nofun⟩
  | deliver queue r =>
    exact ⟨hb.deliver queue r, _, Broker.does_deliver hb queue r, fun _ => rfl, nofun, nofun⟩
  | close queue =>
    exact ⟨hb.close queue, _, s.broker.does_close queue, fun _ => rfl, nofun, nofun⟩
  | cut queue reason =>
    exact ⟨hb.cut queue reason, _, s.broker.does_cut queue reason, fun _ => rfl, nofun, nofun⟩
  | subscribe queue =>
    obtain ⟨answer, b, h⟩ : ∃ answer b, s.broker.subscribe queue = (answer, b) := ⟨_, _, rfl⟩
    have hbroker : (s.apply (.subscribe queue)).broker = b := congrArg Prod.snd h
    rw [hbroker]
    refine ⟨hb.subscribe h, _, Broker.does_subscribe hb h, ?_⟩
    cases answer with
    | error failure => exact ⟨fun _ => rfl, nofun, nofun⟩
    | ok stream =>
      refine ⟨fun _ => rfl, nofun, fun other new he => ?_⟩
      cases he
      rfl
  | unsubscribe stream =>
    have hbroker : (s.apply (.unsubscribe stream)).broker = s.broker.drop stream := rfl
    rw [hbroker]
    refine ⟨hb.drop stream, ?_⟩
    cases hget : s.broker.streams.get? stream with
    | none =>
      rw [Broker.drop_of_absent hget]
      exact ⟨none, .same s.broker.alike_refl, fun _ => rfl, nofun, nofun⟩
    | some found =>
      refine ⟨_, Broker.does_drop (Option.isSome_iff_exists.mpr ⟨found, hget⟩), fun _ => rfl, ?_,
        nofun⟩
      intro id h
      cases h
      rfl

/-- What the answer to a request does to the receipts; nothing is read from a subscription that is
not there. -/
theorem answer?_does (hb : s.broker.Wired) {r : Request} {answer : r.Answer}
    (h : s.answer? t call fate r = some (answer, mid)) :
    mid.broker.Wired ∧ (Broker.Does s.broker mid.broker (r.receiptEvent? answer) ∨
      ∃ stream, r = .receive stream ∧ s.broker.streams.get? stream = none ∧ mid.broker = s.broker) := by
  have same (hsame : mid.broker = s.broker) :
      mid.broker.Wired ∧ Broker.Does s.broker mid.broker none := by
    rw [hsame]
    exact ⟨hb, .same s.broker.alike_refl⟩
  cases r with
  | publish exchange m =>
    change s.onBroker fate (fun broker => broker.publish exchange m) = _ at h
    rcases onBroker_cases h with ⟨failure, -, rfl⟩ | ⟨broker, hop, rfl⟩
    · exact (same rfl).imp_right .inl
    · have hbroker : (s.broker.publish exchange m).2 = broker := congrArg Prod.snd hop
      have hsame := hbroker ▸ s.broker.alike_publish exchange m
      exact ⟨hsame.wired hb, .inl (.same hsame)⟩
  | subscribe queue =>
    change s.onBroker fate (fun broker => broker.subscribe queue) = _ at h
    rcases onBroker_cases h with ⟨failure, rfl, rfl⟩ | ⟨broker, hop, rfl⟩
    · exact (same rfl).imp_right .inl
    · exact ⟨hb.subscribe hop, .inl (Broker.does_subscribe hb hop)⟩
  | receive stream =>
    change s.hear? fate stream = _ at h
    cases fate with
    | storeDown | brokerDown => cases h
    | signalled givenUp =>
      cases h
      exact (same rfl).imp_right .inl
    | served clock stamp =>
      obtain ⟨reception, broker, hreceive⟩ : ∃ reception broker,
          s.broker.receive stream = (reception, broker) := ⟨_, _, rfl⟩
      simp only [System.hear?, hreceive] at h
      cases hget : s.broker.streams.get? stream with
      | none =>
        have hnone : s.broker.receive stream = (.ended, s.broker) := by
          unfold Broker.receive
          rw [hget]
        rw [hnone] at hreceive
        cases hreceive
        cases h
        exact ⟨hb, .inr ⟨stream, rfl, hget, rfl⟩⟩
      | some found =>
        have hdoes := Broker.does_receive (Option.isSome_iff_exists.mpr ⟨found, hget⟩) hreceive
        cases reception with
        | nothing => cases h
        | receipt | lost | ended =>
          cases h
          exact ⟨hb.receives hreceive, .inl hdoes⟩
  | fetch limit =>
    change s.onStore fate (fun _ _ store => store.fetch limit) = _ at h
    obtain ⟨store, rfl⟩ := onStore_frame h
    exact (same rfl).imp_right .inl
  | update id status =>
    change s.onStore fate (System.stampedUpdate id status) = _ at h
    obtain ⟨store, rfl⟩ := onStore_frame h
    exact (same rfl).imp_right .inl
  | release ids =>
    change s.onStore fate (fun _ _ store => store.release ids) = _ at h
    obtain ⟨store, rfl⟩ := onStore_frame h
    exact (same rfl).imp_right .inl
  | append =>
    rcases answer_append h with ⟨-, rfl⟩ | ⟨-, -, rfl⟩
    · exact (same rfl).imp_right .inl
    · exact (same rfl).imp_right .inl
  | proceed =>
    obtain rfl := answer_proceed h
    exact (same rfl).imp_right .inl
  | enter =>
    obtain rfl := (answer_enter h).1
    exact (same rfl).imp_right .inl
  | sleep =>
    obtain rfl := (answer_sleep h).1
    exact (same rfl).imp_right .inl
  | pause =>
    obtain rfl := answer_pause h
    exact (same rfl).imp_right .inl
  | ready | take | listen | launch | halt | join => cases h

/-- A call that has its answer goes on, and gives up a subscription that it no longer holds. -/
theorem broker_resume (mid : System) (t : TaskId) (call : Call) (stop : Bool)
    (answer : call.request.Answer) : (mid.resume t call stop answer).2.broker =
      mid.broker.giveUp call.work.stream?
        ((mid.turnOf call stop answer).2.progress.look Work.stream? none) := by
  unfold System.resume System.turnOf System.carriedFor
  cases call.work.publisher? with
  | none =>
    dsimp only
    cases (call.work.resume call.config stop [] answer).2.progress <;> rfl
  | some p =>
    dsimp only
    cases (call.work.resume call.config stop (mid.carriedOf p) answer).2.progress <;> rfl

/-- What the turn of a call does to the broker. -/
theorem Step.turn_broker {answer : call.request.Answer} {result : Option Result}
    (h : Step s (.turn t call answer result) s') :
    ∃ stop mid, Turned s t call answer stop result mid s' ∧ s'.broker =
      mid.broker.giveUp call.work.stream?
        ((s.turnOf call stop answer).2.progress.look Work.stream? none) := by
  obtain ⟨move, h⟩ := h
  cases move with
  | outside o =>
    simp only [System.perform?] at h
    split at h <;> cases h
  | start u c job =>
    simp only [System.perform?] at h
    split at h <;> cases h
  | turn u fate stop =>
    simp only [System.perform?, Option.bind_eq_bind, Option.bind_eq_some_iff] at h
    obtain ⟨call', hfound, ⟨answer', mid⟩, hanswer, h⟩ := h
    cases h
    refine ⟨stop, mid, turned_of_resume hfound hanswer rfl, ?_⟩
    have hcarried := (answer?_frame hanswer).2.1
    have hturn : mid.turnOf call stop answer' = s.turnOf call stop answer' := by
      simp only [System.turnOf, System.carriedFor, System.carriedOf, hcarried]
    rw [broker_resume, hturn]

/-- A consumer reads from the subscription that it holds, or makes one to its queue; nobody else has
to do with receipts. -/
theorem receiptEvent?_cases {w : Work} {c : Config} {answer : (w.request c).Answer}
    {e : Broker.Event} (h : (w.request c).receiptEvent? answer = some e) :
    ∃ work, w = .consuming work ∧
      ((work = .listening work.stream ∧
        (e = .finished work.stream ∨ ∃ r, e = .received work.stream r)) ∨
      (work = .subscribing work.stream ∧ ∃ new, e = .subscribed c.receiptQueue new)) := by
  have none_of {r : Request} (hplain : r.isPlain = true) (answer : r.Answer)
      (h : r.receiptEvent? answer = some e) : False := by
    rw [Request.receiptEvent?_of_plain hplain] at h
    cases h
  cases w with
  | recording work => exact (none_of (work.plain c) answer h).elim
  | handling work => exact (none_of (work.plain c) answer h).elim
  | batching p work => exact (none_of (work.plain c) answer h).elim
  | publishing p work => exact (none_of (work.plain c) answer h).elim
  | consuming work =>
    refine ⟨work, rfl, ?_⟩
    cases work with
    | listening stream =>
      refine .inl ⟨rfl, ?_⟩
      change Heard at answer
      cases answer with
      | receipt r =>
        cases h
        exact .inr ⟨r, rfl⟩
      | lost | ended =>
        cases h
        exact .inl rfl
      | signal => cases h
    | subscribing stream =>
      refine .inr ⟨rfl, ?_⟩
      change Except BrokerFailure StreamId at answer
      cases answer with
      | ok new =>
        cases h
        exact ⟨new, rfl⟩
      | error => cases h
    | starting | pausing | reconnecting => cases h
    | handling stream work => exact (none_of (work.plain c) answer h).elim

/-- **What somebody else's step does to what is due.** -/
theorem Step.due (h : Step s e s') (hb : s.broker.Wired) {queue : String} {id : StreamId}
    (serves : s.broker.Serves queue id) (spares : e.spares queue id = true) :
    s'.broker.Serves queue id ∧
    s'.broker.due queue id = s.broker.due queue id ++ (e.delivered? queue).toList ∧
    (s.broker.Spent queue id → s'.broker.Spent queue id) := by
  rcases Step.cases h with ⟨o, rfl, -, rfl⟩ | ⟨t, c, job, rfl, hstart⟩ |
    ⟨t, call, answer, stop, result, mid, rfl, -⟩
  · obtain ⟨-, e?, hdoes, hdelivered, hreader, hsubscribed⟩ := apply_does hb o
    rw [← hdelivered queue]
    refine serves.spared hb hdoes fun e he => ⟨fun hid => ?_, fun new hnew => ?_⟩
    · rw [he] at hreader
      rw [hreader id hid] at spares
      simp [Event.spares] at spares
    · rw [he, hnew] at hsubscribed
      rw [hsubscribed queue new rfl] at spares
      simp [Event.spares] at spares
  · rw [hstart.state]
    exact ⟨serves, (List.append_nil _).symm, fun hspent => hspent⟩
  · obtain ⟨stop, mid, hturn, hbroker⟩ := h.turn_broker
    obtain ⟨fate, hanswer⟩ := hturn.answered
    have hother {held : StreamId} (hheld : call.work.stream? = some held) :
        held ≠ id ∧ call.config.receiptQueue ≠ queue := by
      simpa [Event.spares, hheld] using spares
    -- the call reads from its own subscription, and gives up no other
    have hmid : mid.broker.Wired ∧ mid.broker.Serves queue id ∧
        mid.broker.due queue id = s.broker.due queue id ∧
        (s.broker.Spent queue id → mid.broker.Spent queue id) := by
      obtain ⟨hwired, hdoes | ⟨-, -, -, hsame⟩⟩ := answer?_does hb hanswer
      · have hspared (e : Broker.Event) (he : call.request.receiptEvent? answer = some e) :
            e.readerOf? ≠ some id ∧ (∀ new, e ≠ .subscribed queue new) ∧
              e.deliveredOn? queue = none := by
          obtain ⟨work, hwork, hcase⟩ := receiptEvent?_cases he
          obtain ⟨hheld, hqueue⟩ := hother (congrArg Work.stream? hwork)
          rcases hcase with ⟨-, rfl | ⟨r, rfl⟩⟩ | ⟨-, new, rfl⟩
          · exact ⟨fun h => hheld (Option.some.inj h), nofun, rfl⟩
          · exact ⟨fun h => hheld (Option.some.inj h), nofun, rfl⟩
          · refine ⟨nofun, fun new' h => ?_, rfl⟩
            cases h
            exact hqueue rfl
        obtain ⟨hserves, hdue, hspent⟩ := serves.spared hb hdoes fun e he =>
          ⟨(hspared e he).1, (hspared e he).2.1⟩
        have hnone : (call.request.receiptEvent? answer).bind (·.deliveredOn? queue) = none :=
          Option.bind_eq_none_iff.mpr fun e he => (hspared e he).2.2
        rw [hnone] at hdue
        exact ⟨hwired, hserves, hdue.trans (List.append_nil _), hspent⟩
      · rw [hsame]
        exact ⟨hb, serves, rfl, fun h => h⟩
    obtain ⟨hwired, hserves, hdue, hspent⟩ := hmid
    obtain ⟨e?, hdoes, hdropped⟩ := mid.broker.giveUp_does call.work.stream?
      ((s.turnOf call stop answer).2.progress.look Work.stream? none)
    rw [hbroker]
    have hspared (e : Broker.Event) (he : e? = some e) :
        e.readerOf? ≠ some id ∧ ∀ new, e ≠ .subscribed queue new := by
      obtain ⟨held, rfl, hheld, -⟩ := hdropped e he
      exact ⟨fun h => (hother hheld).1 (Option.some.inj h), nofun⟩
    obtain ⟨hserves', hdue', hspent'⟩ := hserves.spared hwired hdoes hspared
    have hnone : e?.bind (·.deliveredOn? queue) = none := by
      refine Option.bind_eq_none_iff.mpr fun e he => ?_
      obtain ⟨held, rfl, -⟩ := hdropped e he
      rfl
    rw [hnone, hdue] at hdue'
    exact ⟨hserves', hdue', fun h => hspent' (hspent h)⟩

/-- Subscriptions keep numbers of their own. -/
theorem Step.wired (h : Step s e s') (hb : s.broker.Wired) : s'.broker.Wired := by
  rcases Step.cases h with ⟨o, rfl, -, rfl⟩ | ⟨t, c, job, rfl, hstart⟩ |
    ⟨t, call, answer, stop, result, mid, rfl, -⟩
  · exact (apply_does hb o).1
  · rw [hstart.state]
    exact hb
  · obtain ⟨stop, mid, hturn, hbroker⟩ := h.turn_broker
    obtain ⟨fate, hanswer⟩ := hturn.answered
    rw [hbroker]
    exact (answer?_does hb hanswer).1.giveUp _ _

theorem Run.wired (run : Run s trace s') (hb : s.broker.Wired) : s'.broker.Wired :=
  run.invariant (I := fun _ s => s.broker.Wired) hb fun _ hs h => h.wired hs

end Broker

end Interplay

end Outbox
