import Outbox.Identifier
import Outbox.Json.Basic
import Outbox.Status
import Outbox.Time.Instant
/-!
# `Outbox.Message` — notifications

A message is what a producer wants delivered, with the identifier, the status and the times that the
store gives it. The store alone owns messages; publishers and consumers hold copies for as long as
they work on them.
-/

namespace Outbox

/-- What a producer wants delivered: where to, what, and some words about it. -/
structure Draft where
  destination : String
  content : Content
  metadata : Dict String
  deriving DecidableEq, Inhabited

/-- A message in the store. -/
structure Message where
  id : MessageId
  destination : String
  content : Content
  metadata : Dict String
  status : Status
  createdAt : Instant
  updatedAt : Instant
  deriving DecidableEq, Inhabited

/-- The message made of a draft at a moment; it is pending. -/
def Message.ofDraft (id : MessageId) (draft : Draft) (now : Instant) : Message :=
  ⟨id, draft.destination, draft.content, draft.metadata, .pending, now, now⟩

/-- A step that a message has made. -/
structure Transition where
  id : MessageId
  old : Status
  new : Status
  deriving DecidableEq, Repr, Inhabited

end Outbox
