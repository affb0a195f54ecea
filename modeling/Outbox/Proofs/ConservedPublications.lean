import Outbox.Process.Popping
import Outbox.Proofs.Broker.Operation
import Outbox.Proofs.WireRoundTrip
/-!
# `Proofs.ConservedPublications` — no message is lost on an exchange

A broker stands at a *counter*: some publish messages there, and others come and wait for one on an
exchange until a deadline. A wait looks at its exchange, and if there is nothing it listens for the
doorbell and looks again; in between anything else can happen. When the bell rings for whom, and when
a deadline passes, is left open here, so what is shown is so in whatever order all this happens.

On every exchange the messages come out as they went in: those taken by the waits that are over, and
then those that still lie there, are those published, in their order. A publication that fails puts
nothing there. Why it fails can be told from what has happened before: the broker is out of reach, or
faults that were ordered are left, or the message was refused.
-/

namespace Outbox

/-- A broker, and the waits for messages that are in progress at it, by number. -/
structure Counter where
  broker : Broker
  waits : Table Nat Popping

namespace Counter

open Broker

/-! ## What happens at a counter -/

/-- What has happened, as far as the exchanges are concerned. -/
inductive Event
  /-- The broker was made reachable, or not. -/
  | reachable (up : Bool)
  /-- A message is refused from now on. -/
  | refused (id : MessageId)
  /-- The next publications are made to fail. -/
  | ordered (faults : Nat)
  | published (exchange : String) (m : Message)
  | failed (exchange : String) (m : Message) (failure : BrokerFailure)
  /-- A wait is over, with a message. -/
  | popped (exchange : String) (p : Publication)
  /-- A wait is over, without a message. -/
  | gaveUp (exchange : String)

/-- What an operation of the broker has done, as far as the exchanges are concerned. -/
def Event.ofDone? : Done → Option Event
  | ⟨.setReachable up, _⟩ => some (.reachable up)
  | ⟨.reject id, _⟩ => some (.refused id)
  | ⟨.failPublications n, _⟩ => some (.ordered n)
  | ⟨.publish exchange m, answer⟩ =>
    match (answer : Except BrokerFailure Unit) with
    | .ok () => some (.published exchange m)
    | .error failure => some (.failed exchange m failure)
  | _ => none

/-- What is told of a wait after a turn. -/
def Event.ofTurn? (exchange : String) : Progress Popping (Option Publication) → Option Event
  | .waiting _ => none
  | .finished (some p) => some (.popped exchange p)
  | .finished none => some (.gaveUp exchange)

/-- The waits after a turn of one of them. -/
def turned (waits : Table Nat Popping) (id : Nat) :
    Progress Popping (Option Publication) → Table Nat Popping
  | .waiting s => waits.put id s
  | .finished _ => waits.erase id

/-- What can happen at a counter. -/
inductive Step : Counter → Option Event → Counter → Prop
  /-- An operation of the broker; messages are taken by waits only. -/
  | operation {c : Counter} {op : Operation} {answer : op.Answer} {b' : Broker}
      (others : ∀ exchange, op ≠ .take exchange) (done : c.broker.perform op = (answer, b')) :
      Step c (Event.ofDone? ⟨op, answer⟩) { c with broker := b' }
  /-- Somebody comes to wait for a message. -/
  | begins {c : Counter} {id : Nat} {exchange : String} {deadline : Nat}
      (new : c.waits.get? id = none) :
      Step c none { c with waits := c.waits.put id (.looking exchange deadline) }
  /-- A wait looks at its exchange. -/
  | looks {c : Counter} {id : Nat} {exchange : String} {deadline : Nat}
      {found : Option Publication} {b' : Broker} {progress : Progress Popping (Option Publication)}
      (waits : c.waits.get? id = some (.looking exchange deadline))
      (taken : c.broker.take exchange = (found, b'))
      (turn : ((Popping.looking exchange deadline).resume found).progress = progress) :
      Step c (Event.ofTurn? exchange progress) ⟨b', turned c.waits id progress⟩
  /-- A wait hears the doorbell, or its deadline passes. -/
  | hears {c : Counter} {id : Nat} {exchange : String} {deadline : Nat} {rang : Bool}
      {progress : Progress Popping (Option Publication)}
      (waits : c.waits.get? id = some (.listening exchange deadline))
      (turn : ((Popping.listening exchange deadline).resume rang).progress = progress) :
      Step c (Event.ofTurn? exchange progress) { c with waits := turned c.waits id progress }
  /-- A wait is given up before it has come to look. -/
  | leaves {c : Counter} {id : Nat} {exchange : String} {deadline : Nat}
      (waits : c.waits.get? id = some (.looking exchange deadline)) :
      Step c (some (.gaveUp exchange)) { c with waits := c.waits.erase id }

/-- What can have happened at a counter that was new at first, and what is there then. -/
inductive Run : List Event → Counter → Prop
  | nil : Run [] ⟨.idle, .empty⟩
  | snoc {es : List Event} {c c' : Counter} {e : Option Event} :
      Run es c → Step c e c' → Run (es ++ e.toList) c'

/-! ## What the events tell -/

/-- The message that was published on an exchange. -/
def Event.publishedOn? (exchange : String) : Event → Option Message
  | .published e m => if e = exchange then some m else none
  | _ => none

/-- The message that a wait for one on an exchange has got. -/
def Event.poppedFrom? (exchange : String) : Event → Option Publication
  | .popped e p => if e = exchange then some p else none
  | _ => none

/-- Whether a wait has got a message. -/
def Event.isPopped : Event → Bool
  | .popped .. => true
  | _ => false

def Event.reachable? : Event → Option Bool
  | .reachable up => some up
  | _ => none

def Event.refused? : Event → Option MessageId
  | .refused id => some id
  | _ => none

def Event.ordered? : Event → Option Nat
  | .ordered n => some n
  | _ => none

/-- Whether a publication has failed because that was ordered. -/
def Event.isFault : Event → Bool
  | .failed _ _ failure => failure = publishFault
  | _ => false

/-- The messages published on an exchange, the oldest first. -/
def published (exchange : String) (es : List Event) : List Message :=
  es.filterMap (Event.publishedOn? exchange)

/-- The messages taken from an exchange, the oldest first. -/
def popped (exchange : String) (es : List Event) : List Publication :=
  es.filterMap (Event.poppedFrom? exchange)

/-- Whether the broker can be reached: as was said last. -/
def reachable (es : List Event) : Bool :=
  (es.filterMap Event.reachable?).getLastD true

/-- The messages that are refused. -/
def refused (es : List Event) : List MessageId :=
  es.filterMap Event.refused?

/-- How many publications are still made to fail: as many as was ordered last, less those that have
failed for it since then. -/
def faultsLeft (es : List Event) : Nat :=
  (es.filterMap Event.ordered?).getLastD 0 -
    (es.reverse.takeWhile (·.ordered?.isNone)).countP Event.isFault

/-- The publication of a message as it lies on an exchange. -/
def publication (exchange : String) (m : Message) : Publication :=
  ⟨exchange, m.id, m.encode⟩

/-- How many messages lie on the exchanges. -/
def stock (b : Broker) : Nat :=
  (b.exchanges.values.map List.length).sum

/-! ## What a step does to the broker -/

/-- Two brokers agree on the exchanges and on what becomes of publications. -/
structure Level (b b' : Broker) : Prop where
  exchanges : b'.exchanges = b.exchanges
  published : b'.published = b.published
  reachable : b'.reachable = b.reachable
  failures : b'.failures = b.failures
  rejected : b'.rejected = b.rejected

/-- **What a step does to the broker**, as far as the exchanges are concerned. -/
inductive Does (b b' : Broker) : Option Event → Prop
  | reachable {up : Bool} (becomes : b' = b.setReachable up) : Does b b' (some (.reachable up))
  | refused {id : MessageId} (becomes : b' = b.reject id) : Does b b' (some (.refused id))
  | ordered {n : Nat} (becomes : b' = b.failPublications n) : Does b b' (some (.ordered n))
  | published {exchange : String} {m : Message}
      (becomes : b' = { b with
        exchanges := b.exchanges.put exchange (b.queued exchange ++ [publication exchange m])
        published := b.published + 1 }) :
      Does b b' (some (.published exchange m))
  | failed {exchange : String} {m : Message} {failure : BrokerFailure}
      (becomes : b' = if failure = publishFault then { b with failures := b.failures - 1 } else b) :
      Does b b' (some (.failed exchange m failure))
  | popped {exchange : String} {p : Publication} {rest : List Publication}
      (queued : b.queued exchange = p :: rest)
      (becomes : b' = { b with exchanges := b.exchanges.put exchange rest }) :
      Does b b' (some (.popped exchange p))
  | gaveUp {exchange : String} (same : b' = b) : Does b b' (some (.gaveUp exchange))
  /-- What happens has nothing to do with the exchanges. -/
  | aside (level : Level b b') : Does b b' none

section Does

variable {b b' : Broker} {c c' : Counter} {e : Option Event} {exchange : String} {m : Message}
  {failure : BrokerFailure}

/-- How a publication is answered. -/
theorem publish_answer (b : Broker) (exchange : String) (m : Message) :
    (b.publish exchange m).1 =
      if b.reachable = false then .error unreachableFault
      else if 0 < b.failures then .error publishFault
      else if m.id ∈ b.rejected then .error (refusal exchange m.id)
      else .ok () := by
  unfold publish
  rw [List.contains_eq_mem]
  cases b.reachable <;> simp only [Bool.not_false, Bool.not_true, if_true, if_false,
    Bool.false_eq_true, Bool.true_eq_false, decide_eq_true_eq]
  split
  · rfl
  · split <;> rfl

theorem level_refl (b : Broker) : Level b b :=
  ⟨rfl, rfl, rfl, rfl, rfl⟩

theorem level_deliver (b : Broker) (queue : String) (r : Receipt) : Level b (b.deliver queue r) := by
  simp only [deliver]
  split <;> exact ⟨rfl, rfl, rfl, rfl, rfl⟩

theorem level_subscribe (b : Broker) (queue : String) : Level b (b.subscribe queue).2 := by
  rw [subscribe]
  split <;> exact ⟨rfl, rfl, rfl, rfl, rfl⟩

theorem level_receive (b : Broker) (stream : StreamId) : Level b (b.receive stream).2 := by
  rw [receive]
  split
  · exact level_refl b
  · split
    · split <;> exact ⟨rfl, rfl, rfl, rfl, rfl⟩
    · exact level_refl b

/-- A publication fails for a fault that was ordered if the broker can be reached and one is left. -/
theorem eq_publishFault_iff (h : (b.publish exchange m).1 = .error failure) :
    failure = publishFault ↔ b.reachable = true ∧ 0 < b.failures := by
  rw [publish_answer] at h
  split at h
  · next hdown =>
    cases h
    simp [hdown, unreachableFault, publishFault]
  · next hup =>
    split at h
    · next hleft =>
      cases h
      simpa [hleft] using hup
    · next hnone =>
      split at h
      · cases h
        simp [hnone, refusal, publishFault]
      · cases h

/-- A publication that fails puts nothing on the exchanges, and uses up a fault only if that is why it
fails. -/
theorem does_publish {answer : Except BrokerFailure Unit}
    (h : b.publish exchange m = (answer, b')) :
    Does b b' (Event.ofDone? ⟨.publish exchange m, answer⟩) := by
  have hunreachable : unreachableFault ≠ publishFault := by decide
  have hrefused : refusal exchange m.id ≠ publishFault := nofun
  simp only [publish] at h
  split at h
  · cases h
    exact .failed (if_neg hunreachable).symm
  · split at h
    · cases h
      exact .failed (if_pos rfl).symm
    · split at h
      · cases h
        exact .failed (if_neg hrefused).symm
      · cases h
        exact .published rfl

theorem does_look {found : Option Publication} {deadline : Nat}
    (h : b.take exchange = (found, b')) :
    Does b b' (Event.ofTurn? exchange ((Popping.looking exchange deadline).resume found).progress) := by
  unfold take at h
  split at h
  · cases h
    exact .aside (level_refl b)
  · next p rest hqueued =>
    cases h
    exact .popped hqueued rfl

/-- Every step does to the broker what `Does` says of it. -/
theorem does_of_step (h : Step c e c') : Does c.broker c'.broker e := by
  cases h with
  | @operation op answer b' others done =>
    cases op with
    | setReachable | reject | failPublications =>
      cases done
      constructor
      rfl
    | publish exchange m => exact does_publish done
    | take exchange => exact absurd rfl (others exchange)
    | deliver queue r =>
      cases done
      exact .aside (level_deliver c.broker queue r)
    | subscribe queue =>
      have hb' : (c.broker.subscribe queue).2 = b' := congrArg Prod.snd done
      exact .aside (hb' ▸ level_subscribe c.broker queue)
    | receive stream =>
      have hb' : (c.broker.receive stream).2 = b' := congrArg Prod.snd done
      exact .aside (hb' ▸ level_receive c.broker stream)
    | close | cut | drop =>
      cases done
      exact .aside ⟨rfl, rfl, rfl, rfl, rfl⟩
  | begins => exact .aside (level_refl c.broker)
  | @looks id exchange deadline found b' progress waits taken turn =>
    subst turn
    exact does_look taken
  | @hears id exchange deadline rang progress waits turn =>
    subst turn
    cases rang
    · exact .gaveUp rfl
    · exact .aside (level_refl c.broker)
  | leaves => exact .gaveUp rfl

end Does

/-! ## The broker and the events -/

/-- The broker agrees with what has happened. -/
structure Agrees (es : List Event) (b : Broker) : Prop where
  inOrder : ∀ exchange, popped exchange es ++ b.queued exchange =
    (published exchange es).map (publication exchange)
  counted : b.published = es.countP Event.isPopped + stock b
  reachable : b.reachable = Counter.reachable es
  failures : b.failures = faultsLeft es
  rejected : ∀ id, id ∈ b.rejected ↔ id ∈ refused es

section Agrees

variable {b b' : Broker} {es : List Event} {e : Event} {exchange : String} {p : Publication}
  {rest : List Publication} {n : Nat}

theorem published_snoc (exchange : String) (es : List Event) (e : Event) :
    published exchange (es ++ [e]) = published exchange es ++ (e.publishedOn? exchange).toList := by
  cases h : e.publishedOn? exchange <;> simp [published, h]

theorem popped_snoc (exchange : String) (es : List Event) (e : Event) :
    popped exchange (es ++ [e]) = popped exchange es ++ (e.poppedFrom? exchange).toList := by
  cases h : e.poppedFrom? exchange <;> simp [popped, h]

theorem reachable_snoc (es : List Event) (e : Event) :
    reachable (es ++ [e]) = e.reachable?.getD (reachable es) := by
  cases h : e.reachable? <;> simp [reachable, h]

theorem refused_snoc (es : List Event) (e : Event) :
    refused (es ++ [e]) = refused es ++ e.refused?.toList := by
  cases h : e.refused? <;> simp [refused, h]

/-- An order of faults takes the place of those before it; else there is one less after a fault. -/
theorem faultsLeft_snoc (es : List Event) (e : Event) :
    faultsLeft (es ++ [e]) =
      e.ordered?.getD (faultsLeft es - if e.isFault then 1 else 0) := by
  unfold faultsLeft
  rw [List.reverse_append, List.reverse_singleton, List.singleton_append, List.filterMap_append]
  cases h : e.ordered? with
  | some n => simp [h]
  | none =>
    simp [h, List.countP_cons]
    omega

/-- To put other messages on an exchange changes the stock by the difference. -/
theorem stock_put (h : b'.exchanges = b.exchanges.put exchange rest) :
    stock b' + (b.queued exchange).length = stock b + rest.length := by
  have hsum := b.exchanges.sum_put exchange rest List.length
  have hqueued : (b.queued exchange).length =
      ((b.exchanges.get? exchange).map List.length).getD 0 := by
    rw [queued, Table.getD]
    cases b.exchanges.get? exchange <;> rfl
  rw [stock, stock, h, hqueued]
  exact hsum

/-- The agreement goes on after an event if the broker has changed as the event says. -/
theorem Agrees.snoc (h : Agrees es b)
    (inOrder : ∀ exchange, (e.poppedFrom? exchange).toList ++ b'.queued exchange =
      b.queued exchange ++ ((e.publishedOn? exchange).map (publication exchange)).toList)
    (counted : b'.published + stock b = b.published + stock b' + if e.isPopped then 1 else 0)
    (reachable : b'.reachable = e.reachable?.getD b.reachable)
    (failures : b'.failures = e.ordered?.getD (b.failures - if e.isFault then 1 else 0))
    (rejected : ∀ id, id ∈ b'.rejected ↔ id ∈ b.rejected ∨ e.refused? = some id) :
    Agrees (es ++ [e]) b' where
  inOrder exchange := by
    rw [popped_snoc, published_snoc, List.append_assoc, inOrder, ← List.append_assoc, h.inOrder,
      List.map_append]
    cases e.publishedOn? exchange <;> rfl
  counted := by
    have hbefore := h.counted
    rw [List.countP_append, List.countP_singleton]
    omega
  reachable := by rw [reachable, reachable_snoc, h.reachable]
  failures := by rw [failures, faultsLeft_snoc, h.failures]
  rejected id := by
    rw [rejected, h.rejected, refused_snoc, List.mem_append, Option.mem_toList]

/-- What is refused stays refused, and only an event of that kind adds to it. -/
theorem rejected_of_not_refused (h : e.refused? = none) (b : Broker) (id : MessageId) :
    id ∈ b.rejected ↔ id ∈ b.rejected ∨ e.refused? = some id := by
  simp [h]

/-- **What a step keeps.** The broker agrees with what has happened. -/
theorem Agrees.step {e : Option Event} (h : Agrees es b) (does : Does b b' e) :
    Agrees (es ++ e.toList) b' := by
  cases does with
  | aside level =>
    have hqueued (exchange : String) : b'.queued exchange = b.queued exchange := by
      rw [queued, queued, level.exchanges]
    rw [Option.toList_none, List.append_nil]
    exact
      { inOrder := fun exchange => hqueued exchange ▸ h.inOrder exchange
        counted := by rw [level.published, h.counted, stock, stock, level.exchanges]
        reachable := level.reachable.trans h.reachable
        failures := level.failures.trans h.failures
        rejected := level.rejected ▸ h.rejected }
  | reachable becomes | ordered becomes | gaveUp becomes =>
    subst becomes
    exact h.snoc (fun _ => (List.append_nil _).symm) rfl rfl rfl (rejected_of_not_refused rfl _)
  | @refused id becomes =>
    subst becomes
    refine h.snoc (fun _ => (List.append_nil _).symm) rfl rfl rfl fun other => ?_
    simp only [reject, Event.refused?, Option.some_inj]
    split
    · next hmem =>
      refine (or_iff_left_of_imp ?_).symm
      rintro rfl
      exact List.contains_iff_mem.mp hmem
    · rw [List.mem_append, List.mem_singleton, eq_comm]
  | @published exchange m becomes =>
    have hstock := stock_put (congrArg Broker.exchanges becomes)
    rw [List.length_append, List.length_singleton] at hstock
    subst becomes
    refine h.snoc (fun other => ?_) ?_ rfl rfl (rejected_of_not_refused rfl b)
    · simp only [queued, Table.getD_put, Event.poppedFrom?, Event.publishedOn?]
      by_cases heq : exchange = other <;> simp [heq]
    · simp only [Event.isPopped, Bool.false_eq_true, if_false]
      omega
  | @failed exchange m failure becomes =>
    -- whatever the reason, nothing but the faults that are left can differ
    have hfaults : b' = { b with failures := b.failures - if failure = publishFault then 1 else 0 } := by
      rw [becomes]
      split <;> rfl
    subst hfaults
    refine h.snoc (fun _ => (List.append_nil _).symm) rfl rfl ?_ (rejected_of_not_refused rfl b)
    simp [Event.ordered?, Event.isFault]
  | @popped exchange p rest hqueued becomes =>
    have hstock := stock_put (congrArg Broker.exchanges becomes)
    rw [hqueued, List.length_cons] at hstock
    subst becomes
    refine h.snoc (fun other => ?_) ?_ rfl rfl (rejected_of_not_refused rfl b)
    · simp only [queued, Table.getD_put, Event.poppedFrom?, Event.publishedOn?]
      by_cases heq : exchange = other
      · subst heq
        simpa [queued] using hqueued.symm
      · simp [heq]
    · simp only [Event.isPopped, if_true]
      omega

theorem Run.agrees {c : Counter} (h : Run es c) : Agrees es c.broker := by
  induction h with
  | nil =>
    exact ⟨fun _ => rfl, rfl, rfl, rfl, fun _ => Iff.rfl⟩
  | snoc _ hstep ih => exact ih.step (does_of_step hstep)

end Agrees

/-! ## The exchanges -/

/-- A publication carries a message that was published on an exchange. What is said of the body is
said of contents whose numbers are integers from `-2 ^ 63` to below `2 ^ 64`. -/
structure Carries (exchange : String) (p : Publication) (m : Message) : Prop where
  exchange : p.exchange = exchange
  messageId : p.messageId = m.id
  /-- The body is read as the message, or refused if its content is nested too deep. -/
  readable : m.content.json.isIntegral = true →
    p.decode? = if m.content.json.depth ≤ 126 then some m else none
  /-- No other message has this body, whether it can be read or not. -/
  tells : m.content.json.isIntegral = true → ∀ other : Message,
    other.content.json.isIntegral = true → other.encode = p.body → other = m

theorem carries_publication (exchange : String) (m : Message) :
    Carries exchange (publication exchange m) m where
  exchange := rfl
  messageId := rfl
  readable integral := Message.decode?_encode integral
  tells integral _ other same := Message.eq_of_encode_eq other integral same

/-- What is so of the exchanges after all that has happened. -/
structure Conserved (es : List Event) (c : Counter) : Prop where
  /-- The messages taken from an exchange, and then those that lie there, are those published there. -/
  inOrder : ∀ exchange, popped exchange es ++ c.broker.queued exchange =
    (published exchange es).map (publication exchange)
  /-- Each of them is there as it was given. -/
  asGiven : ∀ exchange,
    List.Forall₂ (Carries exchange) (popped exchange es ++ c.broker.queued exchange)
      (published exchange es)
  /-- What was published has been taken, or lies on an exchange. -/
  counted : c.broker.published = es.countP Event.isPopped + stock c.broker
  /-- The first reason that there is for a publication to fail is the one that is given. -/
  answered : ∀ exchange m, (c.broker.publish exchange m).1 =
    if reachable es = false then .error unreachableFault
    else if 0 < faultsLeft es then .error publishFault
    else if m.id ∈ refused es then .error (refusal exchange m.id)
    else .ok ()
  /-- A publication that fails changes nothing, but that a fault is used up if that is the reason. -/
  failed : ∀ exchange m failure, (c.broker.publish exchange m).1 = .error failure →
    (c.broker.publish exchange m).2 =
      if reachable es = true ∧ 0 < faultsLeft es then
        { c.broker with failures := faultsLeft es - 1 }
      else c.broker
  /-- A wait that is over without a message has changed nothing. -/
  inVain : ∀ exchange c', Step c (some (.gaveUp exchange)) c' → c'.broker = c.broker

/-- **No message is lost on an exchange, and none comes twice.** Whatever is done at a counter, by
however many and in whatever order, the messages that waits have taken from an exchange, and then
those that still lie there, are those published there, in their order, each under its identifier and
with its text, which is read as the message unless that is nested too deep, and is that of no other
message; and those taken and those that lie anywhere are as many as were published. A publication
fails exactly if the broker cannot be reached, or else if an ordered fault is left, which is then used
up, or else if the message was refused. Neither it nor a wait in vain changes anything else. -/
theorem publications_conserved {es : List Event} {c : Counter} (h : Run es c) : Conserved es c := by
  have hagrees := h.agrees
  refine ⟨hagrees.inOrder, fun exchange => ?_, hagrees.counted, ?_, ?_, ?_⟩
  · rw [hagrees.inOrder, List.forall₂_map_left_iff]
    exact List.forall₂_same.mpr fun m _ => carries_publication exchange m
  · intro exchange m
    rw [publish_answer, hagrees.reachable, hagrees.failures]
    simp only [hagrees.rejected]
  · intro exchange m failure hfailed
    have hdoes := does_publish (Prod.ext hfailed rfl : c.broker.publish exchange m = (_, _))
    have hreason := eq_publishFault_iff hfailed
    rw [hagrees.reachable, hagrees.failures] at hreason
    cases hdoes with
    | failed becomes => exact becomes.trans (by rw [if_congr hreason rfl rfl, hagrees.failures])
  · intro exchange c' hstep
    cases does_of_step hstep with
    | gaveUp same => exact same

/-- A publication fails for each of the three reasons, the earlier of which hide the later ones.
Somebody waits for a message, is woken and takes it, and somebody waits elsewhere in vain. -/
def scarce : List Event :=
  let m (n : Nat) : Message := .ofDraft (.ofNat n) default .epoch
  [.refused (.ofNat 2), .ordered 1, .reachable false,
    .failed "out" (m 2) unreachableFault, .reachable true,
    .failed "out" (m 2) publishFault, .failed "out" (m 2) (refusal "out" (.ofNat 2)),
    .published "out" (m 1), .published "other" (m 3),
    .popped "out" (publication "out" (m 1)), .gaveUp "none"]

theorem publications_conserved_scarce : ∃ c, Run scarce c ∧
    popped "out" scarce ++ c.broker.queued "out" =
      [publication "out" (.ofDraft (.ofNat 1) default .epoch)] ∧
    (∀ p ∈ popped "out" scarce, p.decode? = some (.ofDraft (.ofNat 1) default .epoch)) ∧
    c.broker.published = 1 + stock c.broker ∧
    (c.broker.publish "other" (.ofDraft (.ofNat 2) default .epoch)).1 =
      .error (refusal "other" (.ofNat 2)) := by
  let m (n : Nat) : Message := .ofDraft (.ofNat n) default .epoch
  have hfailing : Run (scarce.take 7) _ :=
    .snoc (.snoc (.snoc (.snoc (.snoc (.snoc (.snoc .nil
      (@Step.operation _ (.reject (.ofNat 2)) _ _ nofun rfl))
      (@Step.operation _ (.failPublications 1) _ _ nofun rfl))
      (@Step.operation _ (.setReachable false) _ _ nofun rfl))
      (@Step.operation _ (.publish "out" (m 2)) _ _ nofun rfl))
      (@Step.operation _ (.setReachable true) _ _ nofun rfl))
      (@Step.operation _ (.publish "out" (m 2)) _ _ nofun rfl))
      (@Step.operation _ (.publish "out" (m 2)) _ _ nofun rfl)
  have hwaiting : Run (scarce.take 9) _ :=
    .snoc (.snoc (.snoc (.snoc hfailing
      (@Step.begins _ 0 "out" 100 rfl))
      (@Step.looks _ 0 "out" 100 _ _ _ rfl rfl rfl))
      (@Step.operation _ (.publish "out" (m 1)) _ _ nofun rfl))
      (@Step.operation _ (.publish "other" (m 3)) _ _ nofun rfl)
  have h : Run scarce _ :=
    .snoc (.snoc (.snoc (.snoc (.snoc hwaiting
      (@Step.hears _ 0 "out" 100 true _ rfl rfl))
      (@Step.looks _ 0 "out" 100 _ _ _ rfl rfl rfl))
      (@Step.begins _ 1 "none" 50 rfl))
      (@Step.looks _ 1 "none" 50 _ _ _ rfl rfl rfl))
      (@Step.hears _ 1 "none" 50 false _ rfl rfl)
  obtain ⟨inOrder, asGiven, counted, answered, -, -⟩ := publications_conserved h
  have hcarries : List.Forall₂ (Carries "out") [publication "out" (m 1)] [m 1] := asGiven "out"
  refine ⟨_, h, inOrder "out", fun p hp => ?_, counted, answered "other" (m 2)⟩
  cases List.mem_singleton.mp hp
  exact ((List.forall₂_cons.mp hcarries).1.readable rfl).trans (if_pos (Nat.zero_le 126))

end Counter

end Outbox
