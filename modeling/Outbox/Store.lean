import Outbox.Data.Table
import Outbox.Failure
import Outbox.Message
import Outbox.Tally
/-!
# `Outbox.Store` — where messages live

The store keeps every message under its identifier. A publisher *claims* the pending messages that
it fetches, oldest first, so that no two publishers get the same one; a claim ends when the message
makes a step or is released. A status changes by legal steps only.

Two counts make the store fail on purpose: the next so many operations of any kind, and the next so
many updates. An operation that fails changes nothing but these counts. Insertion belongs to the
producer and never fails. A fetch makes room for all that it may return before it looks for anything,
and crashes its caller where so much room cannot be had.
-/

namespace Outbox

/-- The messages, the claims on them, and the faults to come. -/
structure Store where
  /-- The messages by identifier. -/
  messages : Table MessageId Message
  /-- The identifier of every insertion, the oldest first; one used again is listed again. -/
  order : List MessageId
  /-- The messages that are claimed, in the order of the claims. -/
  claimed : List MessageId
  /-- How many steps the messages have made. -/
  writes : Nat
  /-- How many operations fail from now on. -/
  failures : Nat
  /-- How many updates fail from now on. -/
  updateFailures : Nat
  deriving Inhabited

namespace Store

/-- A store without messages. -/
def empty : Store :=
  ⟨Table.empty, [], [], 0, 0, 0⟩

/-- The failure of an operation that was made to fail. -/
def operationFault : StoreFailure :=
  .unavailable "injected store failure"

/-- The failure of an update that was made to fail. -/
def updateFault : StoreFailure :=
  .unavailable "injected update failure"

/-- Does an operation unless it is to fail. -/
def attempt {α : Type} (s : Store) (operation : Store → Except StoreFailure α × Store) :
    Except StoreFailure α × Store :=
  if 0 < s.failures then (.error operationFault, { s with failures := s.failures - 1 })
  else operation s

/-- Makes the next operations fail. -/
def failOperations (s : Store) (n : Nat) : Store :=
  { s with failures := n }

/-- Makes the next updates fail. -/
def failUpdates (s : Store) (n : Nat) : Store :=
  { s with updateFailures := n }

/-- Puts a message in. One with the same identifier is replaced; a claim on it stays. -/
def insert (s : Store) (m : Message) : Store :=
  { s with messages := s.messages.put m.id m, order := s.order ++ [m.id] }

/-- Goes through identifiers and claims the pending messages that are not claimed yet, at most
`limit` of them. Gives the messages and all claims. -/
def claim (messages : Table MessageId Message) :
    (limit : Nat) → (ids claimed : List MessageId) → List Message × List MessageId
  | 0, _, claimed => ([], claimed)
  | _, [], claimed => ([], claimed)
  | limit + 1, id :: rest, claimed =>
    if claimed.contains id then claim messages (limit + 1) rest claimed
    else match messages.get? id with
      | some m =>
        if m.status = .pending then
          let (batch, claimed) := claim messages limit rest (claimed ++ [id])
          (m :: batch, claimed)
        else claim messages (limit + 1) rest claimed
      | none => claim messages (limit + 1) rest claimed

/-- Fetches and claims pending messages, the oldest first, at most `limit` of them, for which there
is room. -/
def fetch (s : Store) (limit : Nat) : Except StoreFailure (List Message) × Store :=
  s.attempt fun s =>
    let (batch, claimed) := claim s.messages limit s.order s.claimed
    (.ok batch, { s with claimed })

/-- The number of messages that there can be room for at a time. A message takes 128 bytes, and what
is made room for takes fewer than `2 ^ 63`. -/
def room : Nat :=
  0x7FFF_FFFF_FFFF_FFFF / 128

/-- Makes room for `limit` messages and fetches; `none` is a crash of the caller for want of room,
which leaves the store as it is. A fetch that is to fail does so before room is made. -/
def fetch? (s : Store) (limit : Nat) : Option (Except StoreFailure (List Message) × Store) :=
  if s.failures = 0 ∧ room < limit then none else some (s.fetch limit)

/-- Moves a message to a status, if that is a legal step for it, and ends the claim on it. -/
def update (s : Store) (id : MessageId) (status : Status) (now : Instant) :
    Except StoreFailure Transition × Store :=
  s.attempt fun s =>
    if 0 < s.updateFailures then
      (.error updateFault, { s with updateFailures := s.updateFailures - 1 })
    else match s.messages.get? id with
      | none => (.error (.notFound id), s)
      | some m =>
        if m.status.canBecome status then
          (.ok ⟨id, m.status, status⟩,
            { s with
              messages := s.messages.put id { m with status, updatedAt := now }
              claimed := s.claimed.filter (· ≠ id)
              writes := s.writes + 1 })
        else (.error (.conflict id m.status status), s)

/-- Ends the claims on the given messages. -/
def release (s : Store) (ids : List MessageId) : Except StoreFailure Unit × Store :=
  s.attempt fun s => (.ok (), { s with claimed := s.claimed.filter (!ids.contains ·) })

/-- Looks a message up. -/
def get (s : Store) (id : MessageId) : Except StoreFailure (Option Message) × Store :=
  s.attempt fun s => (.ok (s.messages.get? id), s)

/-- Counts the messages by status. -/
def tally (s : Store) : Except StoreFailure Tally × Store :=
  s.attempt fun s => (.ok (Tally.ofList (s.messages.values.map Message.status)), s)

end Store

end Outbox
