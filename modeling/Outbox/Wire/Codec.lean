import Outbox.Receipt
import Outbox.History
import Outbox.Json.Printer
import Outbox.Message
import Outbox.Tally
import Outbox.Wire.Record
/-!
# `Outbox.Wire.Codec` — what travels as JSON

Every kind of value that is sent or stored as JSON has a value on the wire (`toJson`), a reader of
such values (`ofJson?`), a compact text (`encode`) and a reader of texts (`decode?`). Fields are
written in their order, a missing detail and empty metadata are left out; a reader passes
over fields that it does not know.
-/

namespace Outbox

/-! ## Records -/

namespace Message

/-- The fields of a message. -/
def keys : List String :=
  ["id", "destination", "content", "metadata", "status", "created_at", "updated_at"]

/-- A message on the wire. -/
def toJson (m : Message) : Json :=
  .object (Wire.field "id" m.id.toJson ++ Wire.field "destination" (.text m.destination) ++
    Wire.field "content" m.content.json ++
    Wire.optionalField "metadata" (Wire.ofDict? m.metadata) ++
    Wire.field "status" m.status.toJson ++ Wire.field "created_at" m.createdAt.toJson ++
    Wire.field "updated_at" m.updatedAt.toJson)

/-- Reads a message on the wire. -/
def ofJson? (j : Json) : Option Message := do
  match ← Wire.slots? keys j with
  | [some id, some destination, some content, metadata, some status, some createdAt,
      some updatedAt] =>
    return {
      id := ← Identifier.ofJson? id
      destination := ← Wire.text? destination
      content := Content.ofJson content
      metadata := ← Wire.dict? metadata
      status := ← Status.ofJson? status
      createdAt := ← Instant.ofJson? createdAt
      updatedAt := ← Instant.ofJson? updatedAt }
  | _ => none

/-- The text of a message. -/
def encode (m : Message) : String :=
  m.toJson.print

/-- Reads the text of a message. -/
def decode? (text : List Char) : Option Message :=
  Json.readRecord? keys text >>= ofJson?

end Message

namespace HistoryEntry

/-- The fields of a history entry. -/
def keys : List String :=
  ["id", "message_id", "status", "log_level", "result", "logged_at"]

/-- A history entry on the wire. -/
def toJson (e : HistoryEntry) : Json :=
  .object (Wire.field "id" e.id.toJson ++ Wire.field "message_id" e.messageId.toJson ++
    Wire.field "status" e.status.toJson ++ Wire.field "log_level" e.level.toJson ++
    Wire.optionalField "result" (e.detail.map .text) ++ Wire.field "logged_at" e.loggedAt.toJson)

/-- Reads a history entry on the wire; its level is taken as it stands there. -/
def ofJson? (j : Json) : Option HistoryEntry := do
  match ← Wire.slots? keys j with
  | [some id, some messageId, some status, some level, detail, some loggedAt] =>
    return {
      id := ← Identifier.ofJson? id
      messageId := ← Identifier.ofJson? messageId
      status := ← Status.ofJson? status
      level := ← Level.ofJson? level
      detail := ← Wire.optionalText? detail
      loggedAt := ← Instant.ofJson? loggedAt }
  | _ => none

/-- The text of a history entry. -/
def encode (e : HistoryEntry) : String :=
  e.toJson.print

/-- Reads the text of a history entry. -/
def decode? (text : List Char) : Option HistoryEntry :=
  Json.readRecord? keys text >>= ofJson?

end HistoryEntry

namespace Receipt

/-- The fields of a receipt. -/
def keys : List String :=
  ["message_id", "success", "detail"]

/-- A receipt on the wire. -/
def toJson (r : Receipt) : Json :=
  .object (Wire.field "message_id" r.messageId.toJson ++ Wire.field "success" (.bool r.success) ++
    Wire.optionalField "detail" (r.detail.map .text))

/-- Reads a receipt on the wire. -/
def ofJson? (j : Json) : Option Receipt := do
  match ← Wire.slots? keys j with
  | [some messageId, some success, detail] =>
    return {
      messageId := ← Identifier.ofJson? messageId
      success := ← Wire.bool? success
      detail := ← Wire.optionalText? detail }
  | _ => none

/-- The text of a receipt. -/
def encode (r : Receipt) : String :=
  r.toJson.print

/-- Reads the text of a receipt. -/
def decode? (text : List Char) : Option Receipt :=
  Json.readRecord? keys text >>= ofJson?

end Receipt

namespace Tally

/-- The fields of a tally. -/
def keys : List String :=
  ["pending", "enqueued", "not_enqueued", "delivered", "delivered_failed"]

/-- A number of messages on the wire. -/
def countJson (n : Nat) : Json :=
  .number (.integer n)

/-- A tally on the wire. -/
def toJson (t : Tally) : Json :=
  .object (Wire.field "pending" (countJson t.pending) ++
    Wire.field "enqueued" (countJson t.enqueued) ++
    Wire.field "not_enqueued" (countJson t.notEnqueued) ++
    Wire.field "delivered" (countJson t.delivered) ++
    Wire.field "delivered_failed" (countJson t.deliveredFailed))

/-- Reads a tally on the wire. -/
def ofJson? (j : Json) : Option Tally := do
  match ← Wire.slots? keys j with
  | [some pending, some enqueued, some notEnqueued, some delivered, some deliveredFailed] =>
    return {
      pending := ← Wire.count? pending
      enqueued := ← Wire.count? enqueued
      notEnqueued := ← Wire.count? notEnqueued
      delivered := ← Wire.count? delivered
      deliveredFailed := ← Wire.count? deliveredFailed }
  | _ => none

/-- The text of a tally. -/
def encode (t : Tally) : String :=
  t.toJson.print

/-- Reads the text of a tally. -/
def decode? (text : List Char) : Option Tally :=
  Json.readRecord? keys text >>= ofJson?

end Tally

/-! ## Single values -/

namespace Identifier

variable {kind : Kind}

/-- The JSON text of an identifier. -/
def encode (id : Identifier kind) : String :=
  id.toJson.print

/-- Reads the JSON text of an identifier. -/
def decode? (text : List Char) : Option (Identifier kind) :=
  Json.read? Json.depthLimit text >>= ofJson?

end Identifier

namespace Status

/-- The JSON text of a status. -/
def encode (s : Status) : String :=
  s.toJson.print

/-- Reads the JSON text of a status. -/
def decode? (text : List Char) : Option Status :=
  Json.read? Json.depthLimit text >>= ofJson?

end Status

namespace Level

/-- The JSON text of a level. -/
def encode (l : Level) : String :=
  l.toJson.print

/-- Reads the JSON text of a level. -/
def decode? (text : List Char) : Option Level :=
  Json.read? Json.depthLimit text >>= ofJson?

end Level

end Outbox
