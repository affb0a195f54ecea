import Outbox.Identifier
import Outbox.Status
import Outbox.Time.Instant
/-!
# `Outbox.History` — what happened to the messages

An append-only record with one entry for each step that a message made. Entries are never changed.
-/

namespace Outbox

/-- One step of one message. -/
structure HistoryEntry where
  id : EntryId
  messageId : MessageId
  status : Status
  level : Level
  detail : Option String
  loggedAt : Instant
  deriving DecidableEq, Inhabited

/-- The entry for a step to a status; its level is that of the status. -/
def HistoryEntry.make (id : EntryId) (messageId : MessageId) (status : Status)
    (detail : Option String) (now : Instant) : HistoryEntry :=
  ⟨id, messageId, status, status.level, detail, now⟩

/-- The entries so far, the oldest first. -/
structure History where
  entries : List HistoryEntry
  deriving DecidableEq, Inhabited

namespace History

/-- A history without entries. -/
def empty : History :=
  ⟨[]⟩

/-- Adds an entry at the end. -/
def append (h : History) (entry : HistoryEntry) : History :=
  ⟨h.entries ++ [entry]⟩

/-- The entries of one message, the oldest first. -/
def entriesOf (h : History) (id : MessageId) : List HistoryEntry :=
  h.entries.filter fun entry => entry.messageId = id

/-- The number of entries. -/
def size (h : History) : Nat :=
  h.entries.length

/-- Whether there is no entry. -/
def isEmpty (h : History) : Bool :=
  h.entries.isEmpty

@[simp]
theorem size_append (h : History) (entry : HistoryEntry) :
    (h.append entry).size = h.size + 1 := by
  simp [append, size]

/-- An entry is added at the end of those of its message and to no others. -/
theorem entriesOf_append (h : History) (entry : HistoryEntry) (id : MessageId) :
    (h.append entry).entriesOf id =
      h.entriesOf id ++ if entry.messageId = id then [entry] else [] := by
  by_cases he : entry.messageId = id <;> simp [append, entriesOf, he]

end History

end Outbox
