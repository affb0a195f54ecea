import Outbox.Proofs.Json.Values
import Outbox.Proofs.WireRoundTrip
/-!
# `Proofs.DecodingNormalises` — what was read can be written and read again

The readers take more texts than the printers write: fields in any order or as an array, unknown
fields, repeated keys, times at any offset, identifiers in any case. Whatever text they take, the
value that they make of it is one whose own text is read as the same value. The identifiers, times
and dictionaries that a reader makes are in their normal form by their types; what has to be shown
is that contents are not nested too deep and that numbers lie in the range of their readers.
-/

namespace Outbox

/-! ## Readers that normalise -/

/-- A value whose text is read as that value, and so has that text again. -/
def Rereads {α : Type} (decode? : List Char → Option α) (encode : α → String) (v : α) : Prop :=
  decode? (encode v).toList = some v ∧
    (decode? (encode v).toList).map encode = some (encode v)

theorem Rereads.of_decode? {α : Type} {decode? : List Char → Option α} {encode : α → String}
    {v : α} (h : decode? (encode v).toList = some v) : Rereads decode? encode v :=
  ⟨h, by rw [h, Option.map_some]⟩

/-! ## Fields that were read -/

namespace Wire

open Json (Readable)

theorem exists_of_mem_mapM {α β : Type} {f : α → Option β} {xs : List α} {ys : List β}
    (h : xs.mapM f = some ys) : ∀ y ∈ ys, ∃ x ∈ xs, f x = some y := by
  induction xs generalizing ys with
  | nil =>
    cases h
    nofun
  | cons x xs ih =>
    rw [List.mapM_cons] at h
    obtain ⟨y, hy, h⟩ := Option.bind_eq_some_iff.mp h
    obtain ⟨more, hmore, h⟩ := Option.bind_eq_some_iff.mp h
    cases h
    refine List.forall_mem_cons.mpr ⟨⟨x, List.mem_cons_self, hy⟩, fun z hz => ?_⟩
    obtain ⟨w, hw, hz⟩ := ih hmore z hz
    exact ⟨w, List.mem_cons_of_mem x hw, hz⟩

/-- What stands in the fields of a record is nested one less deep than the record. -/
theorem readable_of_slots? {keys : List String} {limit : Nat} {j : Json}
    {values : List (Option Json)} (hj : Readable (limit + 1) j)
    (h : slots? keys j = some values) : ∀ value ∈ values, ∀ x ∈ value, Readable limit x := by
  cases j with
  | array items =>
    simp only [slots?] at h
    split at h
    · cases h
      intro value hvalue x hx
      rcases List.mem_append.mp hvalue with hsome | hnone
      · obtain ⟨item, hitem, rfl⟩ := List.mem_map.mp hsome
        cases hx
        exact hj.of_mem_array x hitem
      · cases List.eq_of_mem_replicate hnone
        cases hx
    · cases h
  | object members =>
    intro value hvalue x hx
    obtain ⟨key, -, hkey⟩ := exists_of_mem_mapM h value hvalue
    split at hkey
    · cases hkey
      cases hx
    · next m hm =>
      cases hkey
      cases hx
      have hmem : m ∈ members.filter fun m => m.1 == key := by
        rw [hm]
        exact List.mem_singleton_self m
      exact hj.of_mem_object m (List.mem_of_mem_filter hmem)
    · cases hkey
  | null | bool | number | text => cases h

/-- What stands in the fields of a record that was read from a text. -/
theorem readable_of_decoded {keys : List String} {text : List Char} {j : Json}
    {values : List (Option Json)} (hj : Json.readRecord? keys text = some j)
    (h : slots? keys j = some values) : ∀ value ∈ values, ∀ x ∈ value, Readable 126 x := by
  have hreadable : Readable (126 + 1) j := Json.readable_of_readRecord? hj
  exact readable_of_slots? hreadable h

/-- A number of things that was read is in the range of integers. -/
theorem lt_of_count? {limit : Nat} {j : Json} {n : Nat} (hj : Readable limit j)
    (h : count? j = some n) : n < 2 ^ 64 := by
  rw [count?.eq_def] at h
  split at h
  · next k =>
    have hrange : Json.Number.InRange (.integer k) :=
      hj.inRange _ (List.mem_singleton_self _)
    split at h
    · cases h
      have := hrange.2
      omega
    · cases h
  · cases h

end Wire

/-! ## Messages -/

namespace Message

/-- The content of a message that was read is one that a text can hold. -/
theorem readable_of_decode? {text : List Char} {m : Message} (h : decode? text = some m) :
    Json.Readable 126 m.content.json := by
  obtain ⟨j, hj, h⟩ := Option.bind_eq_some_iff.mp h
  obtain ⟨values, hvalues, h⟩ := Option.bind_eq_some_iff.mp h
  have hreadable := Wire.readable_of_decoded hj hvalues
  split at h
  · next id destination content metadata status createdAt updatedAt =>
    have hcontent : Json.Readable 126 content := hreadable (some content) (by simp) content rfl
    have hm : m.content = Content.ofJson content := by
      simp only [Option.bind_eq_bind, Option.bind_eq_some_iff, Option.pure_def,
        Option.some.injEq] at h
      obtain ⟨_, -, _, -, _, -, _, -, _, -, _, -, rfl⟩ := h
      rfl
    rw [hm]
    exact Json.Readable.normalize content hcontent
  · cases h

/-- A message that was read is read again from its text, if its content has no doubles. -/
theorem decode?_encode_of_decode? {text : List Char} {m : Message} (h : decode? text = some m)
    (hcontent : ∀ n ∈ m.content.json.numbers, ∃ k, n = .integer k) :
    decode? m.encode.toList = some m := by
  have hreadable := readable_of_decode? h
  have hintegral : m.content.json.isIntegral = true :=
    Json.isIntegral_of_numbers _ fun n hn => ⟨hreadable.inRange n hn, hcontent n hn⟩
  rw [decode?_encode hintegral, if_pos hreadable.depth]

end Message

/-! ## Tallies -/

namespace Tally

/-- The fields of a tally with their values. -/
def fields (t : Tally) : List (String × Option Json) :=
  [("pending", some (countJson t.pending)), ("enqueued", some (countJson t.enqueued)),
    ("not_enqueued", some (countJson t.notEnqueued)), ("delivered", some (countJson t.delivered)),
    ("delivered_failed", some (countJson t.deliveredFailed))]

/-- The numbers that a tally consists of. -/
def counts (t : Tally) : List Nat :=
  [t.pending, t.enqueued, t.notEnqueued, t.delivered, t.deliveredFailed]

theorem toJson_eq (t : Tally) : t.toJson = .object (Wire.record t.fields) := by
  simp [toJson, fields, Wire.record, Wire.field, Wire.optionalField]

@[simp]
theorem count?_countJson (n : Nat) : Wire.count? (countJson n) = some n := by
  simp [Wire.count?, countJson]

/-- A tally is read back from its value on the wire. -/
theorem ofJson?_toJson (t : Tally) : ofJson? t.toJson = some t := by
  have hslots : Wire.slots? keys t.toJson = some (t.fields.map Prod.snd) :=
    t.toJson_eq ▸ Wire.slots?_record (show keys.Nodup by decide)
  rw [ofJson?, hslots]
  simp [fields]

theorem simple_countJson {n : Nat} (h : n < 2 ^ 64) : Wire.Simple (countJson n) := by
  refine ⟨?_, Nat.zero_le 1⟩
  simp only [countJson, Json.isIntegral, Bool.and_eq_true, decide_eq_true_eq]
  omega

/-- A tally is read back from its text if its numbers are in range. -/
theorem decode?_encode {t : Tally} (h : ∀ n ∈ t.counts, n < 2 ^ 64) :
    decode? t.encode.toList = some t := by
  have hsimple : ∀ field ∈ t.fields, ∀ j ∈ field.2, Wire.Simple j := by
    simp only [counts, List.forall_mem_cons] at h
    simp only [fields, List.forall_mem_cons, Option.mem_def, Option.some.injEq, forall_eq']
    exact ⟨simple_countJson h.1, simple_countJson h.2.1, simple_countJson h.2.2.1,
      simple_countJson h.2.2.2.1, simple_countJson h.2.2.2.2.1, nofun⟩
  have hread : Json.readRecord? keys t.toJson.write = some t.toJson := by
    rw [toJson_eq]
    exact Wire.readRecord?_simple hsimple
  rw [decode?, encode, Json.print, String.toList_ofList, hread]
  exact ofJson?_toJson t

/-- The numbers of a tally that was read are in range. -/
theorem lt_of_decode? {text : List Char} {t : Tally} (h : decode? text = some t) :
    ∀ n ∈ t.counts, n < 2 ^ 64 := by
  obtain ⟨j, hj, h⟩ := Option.bind_eq_some_iff.mp h
  obtain ⟨values, hvalues, h⟩ := Option.bind_eq_some_iff.mp h
  have hreadable := Wire.readable_of_decoded hj hvalues
  split at h
  · simp only [Option.bind_eq_bind, Option.bind_eq_some_iff, Option.pure_def,
      Option.some.injEq] at h
    obtain ⟨pending, hpending, enqueued, henqueued, notEnqueued, hnotEnqueued, delivered,
      hdelivered, deliveredFailed, hdeliveredFailed, rfl⟩ := h
    simp only [List.forall_mem_cons, Option.mem_def, Option.some.injEq, forall_eq'] at hreadable
    simp only [counts, List.forall_mem_cons]
    exact ⟨Wire.lt_of_count? hreadable.1 hpending, Wire.lt_of_count? hreadable.2.1 henqueued,
      Wire.lt_of_count? hreadable.2.2.1 hnotEnqueued,
      Wire.lt_of_count? hreadable.2.2.2.1 hdelivered,
      Wire.lt_of_count? hreadable.2.2.2.2.1 hdeliveredFailed, nofun⟩
  · cases h

end Tally

/-! ## Single values -/

/-- A value that is not nested and has no numbers is read from its text. -/
theorem Json.read?_print {j : Json} (h : Wire.Simple j) :
    Json.read? depthLimit j.print.toList = some j := by
  rw [Json.print, String.toList_ofList, Json.read?_write _ h.1,
    if_pos (Nat.le_trans h.2 (by decide))]

/-- An identifier is read back from its text. -/
theorem Identifier.decode?_encode {kind : Kind} (id : Identifier kind) :
    decode? id.encode.toList = some id := by
  rw [decode?, encode, Json.read?_print id.simple_toJson, Option.bind_eq_bind,
    Option.bind_some, ofJson?_toJson]

/-- A status is read back from its text. -/
theorem Status.decode?_encode (s : Status) : decode? s.encode.toList = some s := by
  rw [decode?, encode, Json.read?_print s.simple_toJson, Option.bind_eq_bind,
    Option.bind_some, ofJson?_toJson]

/-- A level is read back from its text. -/
theorem Level.decode?_encode (l : Level) : decode? l.encode.toList = some l := by
  rw [decode?, encode, Json.read?_print l.simple_toJson, Option.bind_eq_bind,
    Option.bind_some, ofJson?_toJson]

/-- **Decoding normalises.** Whatever text is read as a message without doubles in its content, as
a history entry, a receipt, a tally, a status, a level or an identifier of either kind: the text of
what was read is read in turn, as the same value, which is written as that text again. By
`Json.Numeral.number?_eq_integer_iff` the content of a message has no doubles if its numerals are
integers in range and none is a zero with a sign. -/
theorem decoding_normalises (text : List Char) :
    (∀ m, Message.decode? text = some m →
      (∀ n ∈ m.content.json.numbers, ∃ k, n = .integer k) →
      Rereads Message.decode? Message.encode m) ∧
    (∀ e, HistoryEntry.decode? text = some e →
      Rereads HistoryEntry.decode? HistoryEntry.encode e) ∧
    (∀ r, Receipt.decode? text = some r → Rereads Receipt.decode? Receipt.encode r) ∧
    (∀ t, Tally.decode? text = some t → Rereads Tally.decode? Tally.encode t) ∧
    (∀ s, Status.decode? text = some s → Rereads Status.decode? Status.encode s) ∧
    (∀ l, Level.decode? text = some l → Rereads Level.decode? Level.encode l) ∧
    (∀ id : MessageId, Identifier.decode? text = some id →
      Rereads Identifier.decode? Identifier.encode id) ∧
    (∀ id : EntryId, Identifier.decode? text = some id →
      Rereads Identifier.decode? Identifier.encode id) :=
  ⟨fun _ hm hcontent => .of_decode? (Message.decode?_encode_of_decode? hm hcontent),
    fun e _ => .of_decode? e.decode?_encode, fun r _ => .of_decode? r.decode?_encode,
    fun _ ht => .of_decode? (Tally.decode?_encode (Tally.lt_of_decode? ht)),
    fun s _ => .of_decode? s.decode?_encode, fun l _ => .of_decode? l.decode?_encode,
    fun id _ => .of_decode? id.decode?_encode, fun id _ => .of_decode? id.decode?_encode⟩

/-- A message as an array, with an identifier of more than 128 bits, a key given twice, and times
that are written loosely, the second of them the leap second at the end of the day before. -/
def looseMessage : List Char :=
  ["[\"zyxwvtsrqpnmkjhgfedcba9876\", \"\", ", "\x7b\"b\": [-0.5], \"a\": [1, ",
    "-9223372036854775808], \"b\": ", "18446744073709551615\x7d, ", "\x7b\"k\": \"\\u00e9\"\x7d, ",
    "\x7b\"PENDING\": null\x7d, ", "\"2024-2-29 5:06:7.25+01:30\", ",
    "\"+2024 - 03-01t01:29:60 +01:30\"]"].flatMap String.toList

/-- A history entry with its fields in another order, an unknown one among them, and no detail. -/
def looseEntry : List Char :=
  ["\x7b\"result\": null, \"more\": [1e999], ", "\"log_level\": \"FAILED\", ",
    "\"status\": \"DELIVERED\", ", "\"id\": \"0000000000000000000000000a\", ",
    "\"logged_at\": \"1970-01-01 00:00:00utc\", ",
    "\"message_id\": \"0000000000000000000000000B\"\x7d"].flatMap String.toList

theorem decoding_normalises_loose_texts :
    (∃ m, Message.decode? looseMessage = some m ∧
      m.content.json.numbers = [.integer 1, .integer (-2 ^ 63), .integer (2 ^ 64 - 1)] ∧
      Rereads Message.decode? Message.encode m) ∧
    (∃ e, HistoryEntry.decode? looseEntry = some e ∧
      Rereads HistoryEntry.decode? HistoryEntry.encode e) ∧
    (∃ r, Receipt.decode? "[\"zyxwvtsrqpnmkjhgfedcba9876\", true]".toList = some r ∧
      Rereads Receipt.decode? Receipt.encode r) ∧
    (∃ t, Tally.decode? "[0, 1, 2, 3, 18446744073709551615]".toList = some t ∧
      Rereads Tally.decode? Tally.encode t) ∧
    (∃ s, Status.decode? "\x7b\"DELIVERED\": null\x7d".toList = some s ∧
      Rereads Status.decode? Status.encode s) ∧
    (∃ l, Level.decode? " \"FAILED\" ".toList = some l ∧ Rereads Level.decode? Level.encode l) ∧
    (∃ id : MessageId, Identifier.decode? "\"zyxwvtsrqpnmkjhgfedcba9876\"".toList = some id ∧
      Rereads Identifier.decode? Identifier.encode id) ∧
    (∃ id : EntryId, Identifier.decode? "\"zyxwvtsrqpnmkjhgfedcba9876\"".toList = some id ∧
      Rereads Identifier.decode? Identifier.encode id) := by
  have read {α : Type} {text : List Char} {decode? : List Char → Option α} {P : α → Prop}
      (hsome : (decode? text).isSome = true) (h : ∀ v, decode? text = some v → P v) :
      ∃ v, decode? text = some v ∧ P v := by
    obtain ⟨v, hv⟩ := Option.isSome_iff_exists.mp hsome
    exact ⟨v, hv, h v hv⟩
  have hmessage : (Message.decode? looseMessage).map (·.content.json.numbers) =
      some [.integer 1, .integer (-2 ^ 63), .integer (2 ^ 64 - 1)] := by decide +kernel
  obtain ⟨m, hm, hnumbers⟩ := Option.map_eq_some_iff.mp hmessage
  exact ⟨⟨m, hm, hnumbers, (decoding_normalises _).1 m hm (by simp [hnumbers])⟩,
    read (by decide +kernel) (decoding_normalises _).2.1,
    read (by decide +kernel) (decoding_normalises _).2.2.1,
    read (by decide +kernel) (decoding_normalises _).2.2.2.1,
    read (by decide +kernel) (decoding_normalises _).2.2.2.2.1,
    read (by decide +kernel) (decoding_normalises _).2.2.2.2.2.1,
    read (by decide +kernel) (decoding_normalises _).2.2.2.2.2.2.1,
    read (by decide +kernel) (decoding_normalises _).2.2.2.2.2.2.2⟩

end Outbox
