import Outbox.Proofs.Json.Reading
import Outbox.Proofs.Time.Text
import Outbox.Proofs.Ulid
import Outbox.Wire.Record
/-!
# `Proofs.Wire.Fields` — the fields of a record are read as they were written

Each value that stands in a field is read back from the JSON value for it, and a record gives each
of its fields its value again, with nothing for a field that was left out.
-/

namespace Outbox

/-! ## Single values -/

@[simp]
theorem Identifier.ofJson?_toJson {kind : Kind} (id : Identifier kind) :
    ofJson? id.toJson = some id := by
  simp [ofJson?, toJson, Wire.text?]

@[simp]
theorem Instant.ofJson?_toJson (t : Instant) : ofJson? t.toJson = some t := by
  simp [ofJson?, toJson, Wire.text?, print]

@[simp]
theorem Status.ofJson?_toJson (s : Status) : ofJson? s.toJson = some s := by
  cases s <;> rfl

@[simp]
theorem Level.ofJson?_toJson (l : Level) : ofJson? l.toJson = some l := by
  cases l <;> rfl

@[simp]
theorem Content.ofJson_json (c : Content) : ofJson c.json = c := by
  obtain ⟨j, hnormal⟩ := c
  have hj : j.normalize = j := hnormal
  simp [ofJson, hj]

namespace Wire

@[simp]
theorem optionalText?_map_text (detail : Option String) :
    optionalText? (detail.map .text) = some detail := by
  cases detail <;> rfl

theorem textMembers?_texts (entries : List (String × String)) :
    textMembers? (entries.map fun e => (e.1, .text e.2)) = some entries := by
  induction entries with
  | nil => rfl
  | cons e rest ih => simp [textMembers?, text?, ih]

/-- A dictionary is read back, an empty one from a field that is left out. -/
@[simp]
theorem dict?_ofDict? (d : Dict String) : dict? (ofDict? d) = some d := by
  rw [ofDict?]
  split
  · next h =>
    obtain ⟨entries, hsorted⟩ := d
    cases List.isEmpty_iff.mp h
    rfl
  · simp [dict?, ofDict, textMembers?_texts, Dict.ofList_entries]

/-! ## Values that are always read -/

/-- A value without numbers that is not nested, or the object for a dictionary. -/
def Simple (j : Json) : Prop :=
  j.isIntegral = true ∧ j.depth ≤ 1

@[simp]
theorem simple_text (s : String) : Simple (.text s) :=
  ⟨rfl, Nat.zero_le 1⟩

@[simp]
theorem simple_bool (b : Bool) : Simple (.bool b) :=
  ⟨rfl, Nat.zero_le 1⟩

/-- The texts of a dictionary are nested in one object. -/
theorem simple_of_mem_ofDict? {d : Dict String} {j : Json} (h : j ∈ ofDict? d) : Simple j := by
  rw [ofDict?] at h
  split at h
  · cases h
  · cases h
    have htext {m : String × Json} (hm : m ∈ d.entries.map fun e => (e.1, Json.text e.2)) :
        m.2.isIntegral = true ∧ m.2.depth ≤ 0 := by
      obtain ⟨e, -, rfl⟩ := List.mem_map.mp hm
      exact ⟨rfl, Nat.le_refl 0⟩
    exact ⟨Json.membersIntegral_iff.mpr fun m hm => (htext hm).1,
      Nat.succ_le_succ (Json.depthOfMembers_le_iff.mpr fun m hm => (htext hm).2)⟩

/-! ## Records -/

/-- The members of the object for a record, of which some fields may be left out. -/
def record (fields : List (String × Option Json)) : List (String × Json) :=
  fields.flatMap fun field => optionalField field.1 field.2

theorem key_of_mem_record {fields : List (String × Option Json)} {m : String × Json}
    (h : m ∈ record fields) : m.1 ∈ fields.map Prod.fst := by
  obtain ⟨⟨key, value⟩, hfield, hm⟩ := List.mem_flatMap.mp h
  cases value with
  | none => cases hm
  | some j =>
    cases List.mem_singleton.mp hm
    exact List.mem_map_of_mem hfield

/-- What is asked of the members of a record is asked of the fields that are not left out. -/
theorem forall_mem_record {fields : List (String × Option Json)} {P : Json → Prop} :
    (∀ m ∈ record fields, P m.2) ↔ ∀ field ∈ fields, ∀ j ∈ field.2, P j := by
  constructor
  · rintro h ⟨key, value⟩ hfield j hj
    cases hj
    exact h (key, j) (List.mem_flatMap.mpr ⟨_, hfield, List.mem_singleton_self _⟩)
  · intro h m hm
    obtain ⟨⟨key, value⟩, hfield, hm⟩ := List.mem_flatMap.mp hm
    cases value with
    | none => cases hm
    | some j =>
      cases List.mem_singleton.mp hm
      exact h _ hfield j rfl

/-- A key that no field has selects no member. -/
theorem filter_record_of_notMem {fields : List (String × Option Json)} {key : String}
    (h : key ∉ fields.map Prod.fst) : (record fields).filter (fun m => m.1 == key) = [] := by
  rw [List.filter_eq_nil_iff]
  intro m hm heq
  exact h (beq_iff_eq.mp heq ▸ key_of_mem_record hm)

/-- The key of a field selects its member. -/
theorem filter_record {fields : List (String × Option Json)} (hkeys : (fields.map Prod.fst).Nodup)
    {key : String} {value : Option Json} (h : (key, value) ∈ fields) :
    (record fields).filter (fun m => m.1 == key) = optionalField key value := by
  induction fields with
  | nil => cases h
  | cons field rest ih =>
    obtain ⟨hfresh, hrest⟩ := List.nodup_cons.mp hkeys
    show (optionalField field.1 field.2 ++ record rest).filter _ = _
    rw [List.filter_append]
    rcases List.mem_cons.mp h with rfl | h
    · rw [filter_record_of_notMem hfresh, List.append_nil]
      cases value <;> simp [optionalField]
    · have hne : field.1 ≠ key := fun heq =>
        hfresh (heq ▸ List.mem_map_of_mem (f := Prod.fst) h)
      rw [ih hrest h]
      cases hvalue : field.2 <;> simp [optionalField, hne]

theorem mapM_keys {fields : List (String × Option Json)} {slot? : String → Option (Option Json)}
    (h : ∀ field ∈ fields, slot? field.1 = some field.2) :
    (fields.map Prod.fst).mapM slot? = some (fields.map Prod.snd) := by
  induction fields with
  | nil => rfl
  | cons field rest ih =>
    simp [List.mapM_cons, h field List.mem_cons_self,
      ih fun other hother => h other (List.mem_cons_of_mem field hother)]

/-- A record gives each of its fields the value that was written. -/
theorem slots?_record {fields : List (String × Option Json)}
    (hkeys : (fields.map Prod.fst).Nodup) :
    slots? (fields.map Prod.fst) (.object (record fields)) = some (fields.map Prod.snd) := by
  refine mapM_keys fun field hfield => ?_
  rw [filter_record hkeys hfield]
  cases field.2 <;> rfl

/-- The text of a record is read as that record if none of its fields is nested too deep. -/
theorem readRecord?_record {fields : List (String × Option Json)}
    (hintegral : ∀ field ∈ fields, ∀ j ∈ field.2, j.isIntegral = true) :
    Json.readRecord? (fields.map Prod.fst) (Json.write (.object (record fields))) =
      if ∀ field ∈ fields, ∀ j ∈ field.2, j.depth ≤ Json.depthLimit - 1 then
        some (.object (record fields))
      else none := by
  rw [Json.readRecord?_write (Json.membersIntegral_iff.mpr (forall_mem_record.mpr hintegral))
    fun _ => key_of_mem_record]
  exact if_congr (Json.depthOfMembers_le_iff.trans
    (forall_mem_record (P := fun j => j.depth ≤ Json.depthLimit - 1))) rfl rfl

theorem readRecord?_simple {fields : List (String × Option Json)}
    (h : ∀ field ∈ fields, ∀ j ∈ field.2, Simple j) :
    Json.readRecord? (fields.map Prod.fst) (Json.write (.object (record fields))) =
      some (.object (record fields)) := by
  rw [readRecord?_record fun field hfield j hj => (h field hfield j hj).1]
  exact if_pos fun field hfield j hj => Nat.le_trans (h field hfield j hj).2 (by decide)

end Wire

@[simp]
theorem Identifier.simple_toJson {kind : Kind} (id : Identifier kind) : Wire.Simple id.toJson :=
  Wire.simple_text _

@[simp]
theorem Instant.simple_toJson (t : Instant) : Wire.Simple t.toJson :=
  Wire.simple_text _

@[simp]
theorem Status.simple_toJson (s : Status) : Wire.Simple s.toJson :=
  Wire.simple_text _

@[simp]
theorem Level.simple_toJson (l : Level) : Wire.Simple l.toJson :=
  Wire.simple_text _

end Outbox
