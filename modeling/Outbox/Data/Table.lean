/-!
# `Outbox.Data.Table` — tables that keep the order of their keys

A table maps keys to values and lists them in the order in which the keys came in. `get?` is its
view: what an operation does is said by what `get?` answers afterwards.
-/

namespace Outbox

/-- Values by key, in the order in which the keys came in. -/
structure Table (κ υ : Type) where
  entries : List (κ × υ)
  deriving Repr

namespace Table

variable {κ υ : Type} [DecidableEq κ]

/-- A table without keys. -/
def empty : Table κ υ :=
  ⟨[]⟩

instance : Inhabited (Table κ υ) := ⟨empty⟩

/-- Looks up a key in a list of entries. -/
def find? (k : κ) : List (κ × υ) → Option υ
  | [] => none
  | e :: rest => if e.1 = k then some e.2 else find? k rest

/-- Sets the value of a key in a list of entries, at the end if the key is new. -/
def set (k : κ) (v : υ) : List (κ × υ) → List (κ × υ)
  | [] => [(k, v)]
  | e :: rest => if e.1 = k then (k, v) :: rest else e :: set k v rest

/-- The value of a key. -/
def get? (t : Table κ υ) (k : κ) : Option υ :=
  find? k t.entries

/-- The value of a key, or the given one where there is none. -/
def getD (t : Table κ υ) (k : κ) (v : υ) : υ :=
  (t.get? k).getD v

/-- Whether a key has a value. -/
def contains (t : Table κ υ) (k : κ) : Bool :=
  (t.get? k).isSome

/-- Gives a key a value; a key that had one keeps its place. -/
def put (t : Table κ υ) (k : κ) (v : υ) : Table κ υ :=
  ⟨set k v t.entries⟩

/-- Takes a key and its value out. -/
def erase (t : Table κ υ) (k : κ) : Table κ υ :=
  ⟨t.entries.filter fun e => e.1 ≠ k⟩

/-- The keys, in the order in which they came in. -/
def keys (t : Table κ υ) : List κ :=
  t.entries.map Prod.fst

/-- The values, in the order of their keys. -/
def values (t : Table κ υ) : List υ :=
  t.entries.map Prod.snd

@[simp]
theorem get?_empty (k : κ) : (empty : Table κ υ).get? k = none := rfl

theorem find?_set (k l : κ) (v : υ) (es : List (κ × υ)) :
    find? l (set k v es) = if k = l then some v else find? l es := by
  induction es with
  | nil => rfl
  | cons e rest ih =>
    simp only [set]
    split
    · next h =>
      subst h
      by_cases hl : e.1 = l <;> simp [find?, hl]
    · next h =>
      simp only [find?, ih]
      by_cases hl : e.1 = l
      · subst hl
        simp [Ne.symm h]
      · simp [hl]

/-- A value that a key has is listed with it. -/
theorem mem_entries_of_get? {t : Table κ υ} {k : κ} {v : υ} (h : t.get? k = some v) :
    (k, v) ∈ t.entries := by
  obtain ⟨es⟩ := t
  simp only [get?] at h
  induction es with
  | nil => cases h
  | cons e rest ih =>
    simp only [find?] at h
    split at h
    · next hk =>
      cases h
      subst hk
      exact List.mem_cons_self
    · exact List.mem_cons_of_mem _ (ih h)

theorem mem_keys_of_get? {t : Table κ υ} {k : κ} {v : υ} (h : t.get? k = some v) : k ∈ t.keys :=
  List.mem_map_of_mem (mem_entries_of_get? h)

@[simp]
theorem get?_put (t : Table κ υ) (k l : κ) (v : υ) :
    (t.put k v).get? l = if k = l then some v else t.get? l :=
  find?_set k l v t.entries

@[simp]
theorem get?_erase (t : Table κ υ) (k l : κ) :
    (t.erase k).get? l = if k = l then none else t.get? l := by
  obtain ⟨es⟩ := t
  simp only [get?, erase]
  induction es with
  | nil => simp [find?]
  | cons e rest ih =>
    by_cases he : e.1 = k
    · by_cases hk : k = l
      · simp_all
      · have : e.1 ≠ l := he ▸ hk
        simp_all [find?]
    · by_cases hl : e.1 = l
      · have : k ≠ l := fun h => he (hl.trans h.symm)
        simp_all [find?]
      · simp_all [find?]

theorem mem_keys_put {t : Table κ υ} {k l : κ} {v : υ} (h : l ∈ (t.put k v).keys) :
    l = k ∨ l ∈ t.keys := by
  obtain ⟨es⟩ := t
  simp only [put, keys] at h ⊢
  induction es with
  | nil => exact .inl (List.mem_singleton.mp h)
  | cons e rest ih =>
    by_cases he : e.1 = k
    · rw [set, if_pos he, List.map_cons] at h
      rw [List.map_cons]
      rcases List.mem_cons.mp h with h | h
      · exact .inl h
      · exact .inr (List.mem_cons_of_mem _ h)
    · rw [set, if_neg he, List.map_cons] at h
      rw [List.map_cons]
      rcases List.mem_cons.mp h with h | h
      · exact .inr (h ▸ List.mem_cons_self)
      · exact (ih h).imp_right (List.mem_cons_of_mem _)

/-- Setting a value lists no key twice. -/
theorem nodup_put {t : Table κ υ} (h : t.keys.Nodup) (k : κ) (v : υ) : (t.put k v).keys.Nodup := by
  obtain ⟨es⟩ := t
  induction es with
  | nil => exact List.nodup_cons.mpr ⟨List.not_mem_nil, List.nodup_nil⟩
  | cons e rest ih =>
    obtain ⟨hnot, hrest⟩ := List.nodup_cons.mp h
    by_cases he : e.1 = k
    · have hkeys : (put ⟨e :: rest⟩ k v).keys = (⟨e :: rest⟩ : Table κ υ).keys := by
        simp [put, set, keys, he]
      rw [hkeys]
      exact h
    · have hkeys : (put ⟨e :: rest⟩ k v).keys = e.1 :: (put ⟨rest⟩ k v).keys := by
        simp [put, set, keys, he]
      rw [hkeys]
      refine List.nodup_cons.mpr ⟨fun hmem => ?_, ih hrest⟩
      rcases mem_keys_put hmem with hk | hmem
      · exact he hk
      · exact hnot hmem

theorem nodup_erase {t : Table κ υ} (h : t.keys.Nodup) (k : κ) : (t.erase k).keys.Nodup :=
  h.sublist ((List.filter_sublist).map _)

/-- Where no key is listed twice, a key has the value that it is listed with. -/
theorem get?_of_mem_entries {t : Table κ υ} (h : t.keys.Nodup) {k : κ} {v : υ}
    (hmem : (k, v) ∈ t.entries) : t.get? k = some v := by
  obtain ⟨es⟩ := t
  induction es with
  | nil => cases hmem
  | cons e rest ih =>
    obtain ⟨hnot, hrest⟩ := List.nodup_cons.mp h
    rcases List.mem_cons.mp hmem with heq | hmem
    · subst heq
      exact if_pos rfl
    · have hne : e.1 ≠ k := by
        rintro rfl
        exact hnot (List.mem_map.mpr ⟨_, hmem, rfl⟩)
      rw [get?, find?, if_neg hne]
      exact ih hrest hmem

end Table

end Outbox
