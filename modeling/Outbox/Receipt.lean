import Outbox.Identifier
import Outbox.Status
/-!
# `Outbox.Receipt` — receipts that come back from the broker

The far side of the broker reports what became of a message. It reports at least once, so the same
receipt may come again.
-/

namespace Outbox

/-- What became of a message that was handed to the broker. -/
structure Receipt where
  messageId : MessageId
  success : Bool
  detail : Option String
  deriving DecidableEq, Repr, Inhabited

namespace Receipt

/-- The message was delivered. -/
def delivered (id : MessageId) : Receipt :=
  ⟨id, true, none⟩

/-- The message could not be delivered, for the given reason. -/
def failed (id : MessageId) (detail : String) : Receipt :=
  ⟨id, false, some detail⟩

/-- The status that the receipt moves its message to. -/
def target (r : Receipt) : Status :=
  if r.success then .delivered else .deliveredFailed

end Receipt

end Outbox
