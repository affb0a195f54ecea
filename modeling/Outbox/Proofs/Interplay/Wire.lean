import Outbox.Proofs.Interplay.Doing
import Outbox.Proofs.Table
/-!
# `Proofs.Interplay.Wire` — what is on the wire

A message is on the wire while a publication of it waits on an exchange. A publication gets there
when the broker accepts it, and leaves when the far side takes it; nothing else touches the
exchanges, and a publication that fails leaves nothing there. So how often the broker has accepted a
message is how often it waits on the exchanges and how often it was taken from them.
-/

namespace Outbox

namespace Broker

/-- How often a message waits on the exchanges. -/
def waiting (b : Broker) (id : MessageId) : Nat :=
  (b.exchanges.values.map (List.countP fun p => p.messageId = id)).sum

variable {b b' : Broker} {exchange : String}

theorem waiting_of_same (h : b'.exchanges = b.exchanges) (id : MessageId) :
    b'.waiting id = b.waiting id := by
  rw [waiting, waiting, h]

/-- What waits when the publications on one exchange change. -/
theorem waiting_of_put {queue : List Publication}
    (h : b'.exchanges = b.exchanges.put exchange queue) (id : MessageId) :
    b'.waiting id + (b.queued exchange).countP (fun p => p.messageId = id) =
      b.waiting id + queue.countP fun p => p.messageId = id := by
  have hsum := b.exchanges.sum_put exchange queue (List.countP fun p => p.messageId = id)
  rw [waiting, waiting, h, queued, Table.getD, ← hsum]
  congr 1
  cases b.exchanges.get? exchange <;> rfl

/-- A message that is put at the end of an exchange waits once more. -/
theorem waiting_of_published {p : Publication}
    (h : b'.exchanges = b.exchanges.put exchange (b.queued exchange ++ [p])) (id : MessageId) :
    b'.waiting id = b.waiting id + if p.messageId = id then 1 else 0 := by
  have hput := waiting_of_put h id
  rw [List.countP_append, List.countP_singleton] at hput
  simp only [decide_eq_true_eq] at hput
  omega

/-- A message that is taken waits once less. -/
theorem waiting_take (b : Broker) (exchange : String) (id : MessageId) :
    (b.take exchange).2.waiting id +
      (if (b.take exchange).1.map Publication.messageId = some id then 1 else 0) =
      b.waiting id := by
  cases hqueue : b.queued exchange with
  | nil =>
    rw [take, hqueue]
    rfl
  | cons p rest =>
    have hput : (b.take exchange).2.exchanges = b.exchanges.put exchange rest := by
      rw [take, hqueue]
    have hwaiting := waiting_of_put hput id
    have htaken : (b.take exchange).1 = some p := by
      rw [take, hqueue]
    rw [hqueue, List.countP_cons] at hwaiting
    simp only [decide_eq_true_eq] at hwaiting
    simp only [htaken, Option.map_some, Option.some.injEq]
    omega

end Broker

namespace Interplay

/-- How often the broker has accepted a message. -/
def acceptances (trace : List Moment) (id : MessageId) : Nat :=
  trace.countP fun moment => moment.event.accepted? = some id

/-- The message that the far side has taken from an exchange. -/
def Moment.taken? (moment : Moment) : Option MessageId :=
  match moment.event with
  | .outside (.take exchange) =>
    (moment.before.broker.take exchange).1.map Publication.messageId
  | .outside _ | .start .. | .turn .. => none

/-- How often the far side has taken a message. -/
def takings (trace : List Moment) (id : MessageId) : Nat :=
  trace.countP fun moment => moment.taken? = some id

section Wire

variable {s s' mid : System} {e : Event} {trace : List Moment}

theorem acceptances_snoc (trace : List Moment) (moment : Moment) (id : MessageId) :
    acceptances (trace ++ [moment]) id =
      acceptances trace id + if moment.event.accepted? = some id then 1 else 0 := by
  simp [acceptances, List.countP_append, List.countP_cons]

theorem takings_snoc (trace : List Moment) (moment : Moment) (id : MessageId) :
    takings (trace ++ [moment]) id =
      takings trace id + if moment.taken? = some id then 1 else 0 := by
  simp [takings, List.countP_append, List.countP_cons]

/-- An answer puts a message on the wire if it says that the broker has accepted it. -/
theorem answer_waiting {t : TaskId} {call : Call} {fate : Fate} {r : Request} {answer : r.Answer}
    (hs : s.store.Sound) (h : s.answer? t call fate r = some (answer, mid)) (id : MessageId) :
    mid.broker.waiting id =
      s.broker.waiting id + if r.accepted? answer = some id then 1 else 0 := by
  cases r with
  | publish exchange m =>
    obtain ⟨broker, rfl, ⟨⟨failure, rfl⟩, hsame⟩ | ⟨rfl, hput⟩⟩ := answer_publish h
    · exact Broker.waiting_of_same hsame id
    · rw [Broker.waiting_of_published hput]
      simp only [Request.accepted?, Option.some.injEq]
  | proceed =>
    rw [answer_proceed h]
    rfl
  | enter =>
    rw [(answer_enter h).1]
    rfl
  | fetch =>
    obtain ⟨store, rfl, -⟩ := answer_fetch hs h
    rfl
  | update =>
    obtain ⟨store, rfl, -⟩ := answer_update hs h
    rfl
  | release =>
    obtain ⟨store, rfl, -⟩ := answer_release h
    rfl
  | append =>
    rcases answer_append h with ⟨-, rfl⟩ | ⟨-, -, rfl⟩
    · rfl
    · rfl
  | subscribe =>
    obtain ⟨broker, rfl, hsame⟩ := answer_subscribe h
    exact Broker.waiting_of_same hsame id
  | sleep =>
    rw [(answer_sleep h).1]
    rfl
  | pause =>
    rw [answer_pause h]
    rfl
  | receive =>
    obtain ⟨broker, rfl, hsame⟩ := answer_receive h
    exact Broker.waiting_of_same hsame id
  | ready | take | listen | launch | halt | join => cases h

/-- What a step puts on the wire and takes from it. -/
theorem Step.waiting (hs : s.store.Sound) (h : Step s e s') (id : MessageId) :
    s'.broker.waiting id + (if Moment.taken? ⟨s, e⟩ = some id then 1 else 0) =
      s.broker.waiting id + if e.accepted? = some id then 1 else 0 := by
  rcases Step.cases h with ⟨o, rfl, -, rfl⟩ | ⟨t, c, job, rfl, hstart⟩ |
    ⟨t, call, answer, stop, result, mid, rfl, hturn⟩
  · cases o with
    | take exchange => exact s.broker.waiting_take exchange id
    | deliver queue r => exact Broker.waiting_of_same (s.broker.exchanges_deliver queue r) id
    | subscribe queue => exact Broker.waiting_of_same (s.broker.exchanges_subscribe queue) id
    | _ => rfl
  · rw [hstart.state]
    rfl
  · obtain ⟨fate, hanswer⟩ := hturn.answered
    rw [Broker.waiting_of_same hturn.exchanges]
    exact answer_waiting hs hanswer id

/-- **What the broker has accepted is on the wire, or was taken from it.** -/
theorem Run.acceptances_eq (run : Run .initial trace s) (id : MessageId) :
    acceptances trace id = s.broker.waiting id + takings trace id := by
  induction run with
  | nil => rfl
  | @snoc trace s s' e run h ih =>
    have hstep := h.waiting run.sound id
    rw [acceptances_snoc, takings_snoc, ih]
    show _ + (if e.accepted? = some id then 1 else 0) = _
    omega

end Wire

end Interplay

end Outbox
