import Outbox.Broker.Basic
import Outbox.Proofs.Table
import Outbox.Proofs.Wire.Fields
/-!
# `Proofs.WireRoundTrip` — what travels as JSON comes back as it was

Every message, history entry and receipt is read back from its compact text, whatever identifiers,
texts and times it holds. The one limit is on the content of messages: the reader goes no deeper
than 127 arrays and objects, of which the message itself is the first, while the printer knows no
limit. A message whose content is nested too deep is published all the same, with a body that nobody
can read.
-/

namespace Outbox

/-! ## Messages -/

namespace Message

/-- The fields of a message with their values. -/
def fields (m : Message) : List (String × Option Json) :=
  [("id", some m.id.toJson), ("destination", some (.text m.destination)),
    ("content", some m.content.json), ("metadata", Wire.ofDict? m.metadata),
    ("status", some m.status.toJson), ("created_at", some m.createdAt.toJson),
    ("updated_at", some m.updatedAt.toJson)]

theorem toJson_eq (m : Message) : m.toJson = .object (Wire.record m.fields) := by
  simp [toJson, fields, Wire.record, Wire.field, Wire.optionalField]

/-- A message is read back from its value on the wire. -/
theorem ofJson?_toJson (m : Message) : ofJson? m.toJson = some m := by
  have hslots : Wire.slots? keys m.toJson = some (m.fields.map Prod.snd) :=
    m.toJson_eq ▸ Wire.slots?_record (show keys.Nodup by decide)
  rw [ofJson?, hslots]
  simp [fields, Wire.text?]

/-- But for its content there is nothing in a message that could not be read. -/
theorem simple_or_content (m : Message) :
    ∀ field ∈ m.fields, ∀ j ∈ field.2, Wire.Simple j ∨ j = m.content.json := by
  have hmetadata (j : Json) (h : Wire.ofDict? m.metadata = some j) :
      Wire.Simple j ∨ j = m.content.json := .inl (Wire.simple_of_mem_ofDict? h)
  simpa [fields] using hmetadata

/-- A message has no doubles but those in its content. -/
theorem integral_fields {m : Message} (h : m.content.json.isIntegral = true) :
    ∀ field ∈ m.fields, ∀ j ∈ field.2, j.isIntegral = true := by
  intro field hfield j hj
  rcases m.simple_or_content field hfield j hj with hsimple | rfl
  · exact hsimple.1
  · exact h

/-- Two messages without doubles have the same text only if they are the same, however deep their
contents are. -/
theorem eq_of_encode_eq {m m' : Message} (h : m.content.json.isIntegral = true)
    (h' : m'.content.json.isIntegral = true) (same : m.encode = m'.encode) : m = m' := by
  have hintegral {m : Message} (h : m.content.json.isIntegral = true) :
      m.toJson.isIntegral = true := by
    rw [toJson_eq]
    exact Json.membersIntegral_iff.mpr (Wire.forall_mem_record.mpr (integral_fields h))
  have hjson : m.toJson = m'.toJson :=
    Json.eq_of_write_eq (hintegral h) (hintegral h') (String.ofList_injective same)
  have hread := m.ofJson?_toJson
  rw [hjson, ofJson?_toJson, Option.some_inj] at hread
  exact hread.symm

/-- A message is read back from its text exactly if its content is not nested too deep. -/
theorem decode?_encode {m : Message} (h : m.content.json.isIntegral = true) :
    decode? m.encode.toList = if m.content.json.depth ≤ 126 then some m else none := by
  have hdepth : (∀ field ∈ m.fields, ∀ j ∈ field.2, j.depth ≤ Json.depthLimit - 1) ↔
      m.content.json.depth ≤ 126 := by
    refine ⟨fun hall => hall ("content", some m.content.json) (by simp [fields]) _ rfl, ?_⟩
    intro hcontent field hfield j hj
    rcases m.simple_or_content field hfield j hj with hsimple | rfl
    · exact Nat.le_trans hsimple.2 (by decide)
    · exact hcontent
  have hread : Json.readRecord? keys m.toJson.write =
      if m.content.json.depth ≤ 126 then some m.toJson else none := by
    rw [toJson_eq, ← if_congr hdepth rfl rfl]
    exact Wire.readRecord?_record (integral_fields h)
  rw [decode?, encode, Json.print, String.toList_ofList, hread]
  split
  · exact ofJson?_toJson m
  · rfl

end Message

/-! ## History entries -/

namespace HistoryEntry

/-- The fields of a history entry with their values. -/
def fields (e : HistoryEntry) : List (String × Option Json) :=
  [("id", some e.id.toJson), ("message_id", some e.messageId.toJson),
    ("status", some e.status.toJson), ("log_level", some e.level.toJson),
    ("result", e.detail.map .text), ("logged_at", some e.loggedAt.toJson)]

theorem toJson_eq (e : HistoryEntry) : e.toJson = .object (Wire.record e.fields) := by
  simp [toJson, fields, Wire.record, Wire.field, Wire.optionalField]

/-- A history entry is read back from its value on the wire. -/
theorem ofJson?_toJson (e : HistoryEntry) : ofJson? e.toJson = some e := by
  have hslots : Wire.slots? keys e.toJson = some (e.fields.map Prod.snd) :=
    e.toJson_eq ▸ Wire.slots?_record (show keys.Nodup by decide)
  rw [ofJson?, hslots]
  simp [fields]

/-- A history entry is read back from its text. -/
theorem decode?_encode (e : HistoryEntry) : decode? e.encode.toList = some e := by
  have hread : Json.readRecord? keys e.toJson.write = some e.toJson := by
    rw [toJson_eq]
    exact Wire.readRecord?_simple (by simp [fields])
  rw [decode?, encode, Json.print, String.toList_ofList, hread]
  exact ofJson?_toJson e

end HistoryEntry

/-! ## Receipts -/

namespace Receipt

/-- The fields of a receipt with their values. -/
def fields (r : Receipt) : List (String × Option Json) :=
  [("message_id", some r.messageId.toJson), ("success", some (.bool r.success)),
    ("detail", r.detail.map .text)]

theorem toJson_eq (r : Receipt) : r.toJson = .object (Wire.record r.fields) := by
  simp [toJson, fields, Wire.record, Wire.field, Wire.optionalField]

/-- A receipt is read back from its value on the wire. -/
theorem ofJson?_toJson (r : Receipt) : ofJson? r.toJson = some r := by
  have hslots : Wire.slots? keys r.toJson = some (r.fields.map Prod.snd) :=
    r.toJson_eq ▸ Wire.slots?_record (show keys.Nodup by decide)
  rw [ofJson?, hslots]
  simp [fields, Wire.bool?]

/-- A receipt is read back from its text. -/
theorem decode?_encode (r : Receipt) : decode? r.encode.toList = some r := by
  have hread : Json.readRecord? keys r.toJson.write = some r.toJson := by
    rw [toJson_eq]
    exact Wire.readRecord?_simple (by simp [fields])
  rw [decode?, encode, Json.print, String.toList_ofList, hread]
  exact ofJson?_toJson r

end Receipt

/-! ## Publications -/

/-- A message that the broker accepts waits on its exchange with its text as the body. -/
theorem Broker.queued_publish {b : Broker} {exchange : String} {m : Message}
    (h : (b.publish exchange m).1 = .ok ()) :
    (b.publish exchange m).2.queued exchange =
      b.queued exchange ++ [⟨exchange, m.id, m.encode⟩] := by
  simp only [publish] at h ⊢
  split_ifs at h ⊢
  simp [queued, Table.getD_put]

/-- **What travels as JSON comes back as it was.** Let the numbers in the content of messages be
integers from `-2 ^ 63` to below `2 ^ 64`. Then the compact text of a message is read as that
message if its content is at most 126 arrays and objects deep, and is refused if it is deeper; the
texts of history entries and of receipts are always read as these; and the body that a broker puts
on an exchange for a message that it accepts is read as that message, or refused, in the same
way. -/
theorem wire_round_trip :
    (∀ m : Message, m.content.json.isIntegral = true →
      Message.decode? m.encode.toList = if m.content.json.depth ≤ 126 then some m else none) ∧
    (∀ e : HistoryEntry, HistoryEntry.decode? e.encode.toList = some e) ∧
    (∀ r : Receipt, Receipt.decode? r.encode.toList = some r) ∧
    (∀ (b : Broker) (exchange : String) (m : Message), m.content.json.isIntegral = true →
      (b.publish exchange m).1 = .ok () →
      ∃ p : Publication,
        (b.publish exchange m).2.queued exchange = b.queued exchange ++ [p] ∧
        p.messageId = m.id ∧ p.body = m.encode ∧
        p.decode? = if m.content.json.depth ≤ 126 then some m else none) := by
  refine ⟨fun m h => Message.decode?_encode h, HistoryEntry.decode?_encode,
    Receipt.decode?_encode, fun b exchange m h hok => ?_⟩
  exact ⟨_, Broker.queued_publish hok, rfl, rfl, Message.decode?_encode h⟩

/-- A number inside as many arrays. -/
def nested : Nat → Json
  | 0 => .number (.integer (-2 ^ 63))
  | n + 1 => .array [nested n]

theorem normal_nested (n : Nat) : (nested n).Normal := by
  induction n with
  | zero => rfl
  | succ n ih =>
    have h : (nested n).normalize = nested n := ih
    simp [Json.Normal, nested, Json.normalize, Json.normalizeItems, h]

theorem isIntegral_nested (n : Nat) : (nested n).isIntegral = true := by
  induction n with
  | zero => rfl
  | succ n ih => simp [nested, Json.isIntegral, Json.areIntegral, ih]

theorem depth_nested (n : Nat) : (nested n).depth = n := by
  induction n with
  | zero => rfl
  | succ n ih => simp [nested, Json.depth, Json.depthOfItems, ih]

/-- A message with such a content, made in the leap second at the end of the year -1. -/
def nestedMessage (n : Nat) : Message :=
  ⟨.ofNat 1, "\u0001 \"è\"", ⟨nested n, normal_nested n⟩, Dict.ofList [("b", "\n"), ("a", "")],
    .enqueued, ⟨-62167219201, 1500000000, by decide⟩, .epoch⟩

theorem wire_round_trip_nested :
    Message.decode? (nestedMessage 126).encode.toList = some (nestedMessage 126) ∧
    Message.decode? (nestedMessage 127).encode.toList = none ∧
    ∃ p : Publication, (Broker.idle.publish "out" (nestedMessage 127)).2.queued "out" = [p] ∧
      p.decode? = none := by
  obtain ⟨hmessage, -, -, hpublish⟩ := wire_round_trip
  have hdepth (n : Nat) : (nestedMessage n).content.json.depth = n := depth_nested n
  have hintegral (n : Nat) : (nestedMessage n).content.json.isIntegral = true :=
    isIntegral_nested n
  obtain ⟨p, hqueued, -, -, hp⟩ :=
    hpublish Broker.idle "out" (nestedMessage 127) (hintegral 127) rfl
  refine ⟨?_, ?_, p, hqueued, ?_⟩
  · rw [hmessage _ (hintegral 126), hdepth, if_pos (Nat.le_refl 126)]
  · rw [hmessage _ (hintegral 127), hdepth, if_neg (by decide)]
  · rw [hp, hdepth, if_neg (by decide)]

end Outbox
