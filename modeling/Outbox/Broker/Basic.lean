import Outbox.Data.Table
import Outbox.Failure
import Outbox.Receipt
import Outbox.Wire.Codec
/-!
# `Outbox.Broker.Basic` — exchanges and receipt queues

The broker takes messages on *exchanges*, from which they are taken in the order in which they came,
and carries receipts on *queues*. A queue gives each receipt to its earliest subscriber that
still listens, and keeps it in a backlog if there is none; a new subscriber gets the backlog first.
A subscription that was closed or lost still yields what was delivered to it before.

The broker can be out of reach, can refuse single messages, and can be made to fail the next
publications.
-/

namespace Outbox

/-- A message as it was handed to the broker. -/
structure Publication where
  exchange : String
  messageId : MessageId
  body : String
  deriving DecidableEq, Repr, Inhabited

/-- The message in the body of a publication. -/
def Publication.decode? (p : Publication) : Option Message :=
  Message.decode? p.body.toList

/-- The number of a subscription. -/
abbrev StreamId := Nat

/-- The listening end of a subscription: what was delivered to it and is not read yet. -/
structure Stream where
  queue : String
  buffer : List (Except BrokerFailure Receipt)
  deriving Inhabited

/-- What a subscription has to offer. -/
inductive Reception
  | receipt (r : Receipt)
  | lost (failure : BrokerFailure)
  | ended
  | nothing
  deriving DecidableEq, Repr, Inhabited

/-- The broker. -/
structure Broker where
  reachable : Bool
  rejected : List MessageId
  /-- How many publications fail from now on. -/
  failures : Nat
  /-- The publications that wait on each exchange, the oldest first. -/
  exchanges : Table String (List Publication)
  /-- How many messages were published. -/
  published : Nat
  /-- The subscriptions of each queue that are neither closed nor lost, the earliest first. -/
  subscribers : Table String (List StreamId)
  /-- The receipts of each queue that came while nobody listened. -/
  backlog : Table String (List Receipt)
  /-- The subscriptions that somebody can still read from. -/
  streams : Table StreamId Stream
  nextStream : StreamId
  deriving Inhabited

namespace Broker

/-- A broker that can be reached and has nothing to do yet. -/
def idle : Broker :=
  ⟨true, [], 0, Table.empty, 0, Table.empty, Table.empty, Table.empty, 0⟩

/-- The failure of a broker that cannot be reached. -/
def unreachableFault : BrokerFailure :=
  .unavailable "in-memory broker offline"

/-- The failure of a publication that was made to fail. -/
def publishFault : BrokerFailure :=
  .unavailable "injected publish failure"

/-- The failure of a publication of a message that the broker refuses. -/
def refusal (exchange : String) (id : MessageId) : BrokerFailure :=
  .rejected (id.display ++ " refused by " ++ exchange)

/-- Makes the broker reachable or not. -/
def setReachable (b : Broker) (reachable : Bool) : Broker :=
  { b with reachable }

/-- Refuses a message from now on. -/
def reject (b : Broker) (id : MessageId) : Broker :=
  { b with rejected := if b.rejected.contains id then b.rejected else b.rejected ++ [id] }

/-- Makes the next publications fail. -/
def failPublications (b : Broker) (n : Nat) : Broker :=
  { b with failures := n }

/-- Whether the broker can be reached. -/
def ready (b : Broker) : Except BrokerFailure Unit :=
  if b.reachable then .ok () else .error unreachableFault

/-! ## Exchanges -/

/-- The publications that wait on an exchange, the oldest first. -/
def queued (b : Broker) (exchange : String) : List Publication :=
  b.exchanges.getD exchange []

/-- Publishes a message on an exchange. -/
def publish (b : Broker) (exchange : String) (m : Message) : Except BrokerFailure Unit × Broker :=
  if !b.reachable then (.error unreachableFault, b)
  else if 0 < b.failures then (.error publishFault, { b with failures := b.failures - 1 })
  else if b.rejected.contains m.id then (.error (refusal exchange m.id), b)
  else
    let waiting := b.queued exchange ++ [⟨exchange, m.id, m.encode⟩]
    (.ok (),
      { b with
        exchanges := b.exchanges.put exchange waiting
        published := b.published + 1 })

/-- Takes the oldest publication from an exchange. -/
def take (b : Broker) (exchange : String) : Option Publication × Broker :=
  match b.queued exchange with
  | [] => (none, b)
  | p :: rest => (some p, { b with exchanges := b.exchanges.put exchange rest })

/-! ## Receipt queues -/

/-- The subscriptions of a queue that are neither closed nor lost and that somebody reads from. -/
def listeners (b : Broker) (queue : String) : List StreamId :=
  (b.subscribers.getD queue []).filter b.streams.contains

/-- Adds to what a subscription has to offer. -/
def push (streams : Table StreamId Stream) (id : StreamId)
    (item : Except BrokerFailure Receipt) : Table StreamId Stream :=
  match streams.get? id with
  | some s => streams.put id { s with buffer := s.buffer ++ [item] }
  | none => streams

/-- Delivers a receipt on a queue. -/
def deliver (b : Broker) (queue : String) (r : Receipt) : Broker :=
  let live := b.listeners queue
  let b := { b with subscribers := b.subscribers.put queue live }
  match live with
  | [] => { b with backlog := b.backlog.put queue (b.backlog.getD queue [] ++ [r]) }
  | first :: _ => { b with streams := push b.streams first (.ok r) }

/-- Ends the subscriptions of a queue in good order. -/
def close (b : Broker) (queue : String) : Broker :=
  { b with subscribers := b.subscribers.erase queue }

/-- Cuts the subscriptions of a queue; each is told the reason. -/
def cut (b : Broker) (queue reason : String) : Broker :=
  let streams := (b.subscribers.getD queue []).foldl
    (fun streams id => push streams id (.error (.connectionLost reason))) b.streams
  { b with subscribers := b.subscribers.erase queue, streams }

/-- Subscribes to a queue; the new subscription gets the backlog. -/
def subscribe (b : Broker) (queue : String) : Except BrokerFailure StreamId × Broker :=
  if !b.reachable then (.error unreachableFault, b)
  else
    let id := b.nextStream
    (.ok id,
      { b with
        streams := b.streams.put id ⟨queue, (b.backlog.getD queue []).map .ok⟩
        backlog := b.backlog.erase queue
        subscribers := b.subscribers.put queue (b.subscribers.getD queue [] ++ [id])
        nextStream := id + 1 })

/-- Takes what a subscription has to offer next. One with nothing to read has ended if it was closed
or cut, and otherwise may get something later. -/
def receive (b : Broker) (id : StreamId) : Reception × Broker :=
  match b.streams.get? id with
  | none => (.ended, b)
  | some s =>
    match s.buffer with
    | item :: rest =>
      let b := { b with streams := b.streams.put id { s with buffer := rest } }
      match item with
      | .ok r => (.receipt r, b)
      | .error failure => (.lost failure, b)
    | [] => (if (b.subscribers.getD s.queue []).contains id then .nothing else .ended, b)

/-- Gives a subscription up, with all that it still has to offer. -/
def drop (b : Broker) (id : StreamId) : Broker :=
  { b with streams := b.streams.erase id }

/-- Gives up the subscription that was held, unless it is the one that is kept. -/
def giveUp (b : Broker) (held kept : Option StreamId) : Broker :=
  match held with
  | some stream => if kept = some stream then b else b.drop stream
  | none => b

end Broker

end Outbox
