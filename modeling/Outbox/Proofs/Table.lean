import Mathlib.Algebra.GroupWithZero.Nat
import Mathlib.Data.List.Perm.Lattice
import Outbox.Data.Table
/-!
# `Proofs.Table` — the values of a table

A table lists its keys in the order in which they came in, so two tables that give the same answers
may list their values in different orders. What is counted or added up over the values does not
depend on the order.
-/

namespace Outbox

namespace Table

variable {κ υ : Type} [DecidableEq κ]

@[simp]
theorem getD_put (t : Table κ υ) (k l : κ) (v d : υ) :
    (t.put k v).getD l d = if k = l then v else t.getD l d := by
  unfold getD
  rw [get?_put]
  split <;> rfl

@[simp]
theorem getD_erase (t : Table κ υ) (k l : κ) (d : υ) :
    (t.erase k).getD l d = if k = l then d else t.getD l d := by
  unfold getD
  rw [get?_erase]
  split <;> rfl

theorem contains_put (t : Table κ υ) (k l : κ) (v : υ) :
    (t.put k v).contains l = (l == k || t.contains l) := by
  unfold contains
  rw [get?_put]
  by_cases h : k = l
  · simp [h]
  · simp [h, Ne.symm h]

theorem contains_erase (t : Table κ υ) (k l : κ) :
    (t.erase k).contains l = (t.contains l && l != k) := by
  unfold contains
  rw [get?_erase]
  by_cases h : k = l
  · simp [h]
  · simp [h, Ne.symm h]

/-- To take out a key that has no value changes nothing. -/
theorem erase_of_absent {t : Table κ υ} {k : κ} (h : t.get? k = none) : t.erase k = t := by
  obtain ⟨entries⟩ := t
  unfold erase
  congr 1
  rw [List.filter_eq_self]
  intro e he
  induction entries with
  | nil => cases he
  | cons first rest ih =>
    unfold get? find? at h
    split at h
    · cases h
    · next hne =>
      rcases List.mem_cons.mp he with rfl | he
      · simpa using hne
      · exact ih h he

/-- A key that has a value keeps one when it is given another. -/
theorem contains_put_of_get {t : Table κ υ} {k : κ} {v : υ} (h : t.get? k = some v) (l : κ)
    (v' : υ) : (t.put k v').contains l = t.contains l := by
  rw [contains_put]
  by_cases hl : l = k
  · simp [hl, contains, h]
  · simp [hl]

theorem mem_keys_iff {t : Table κ υ} {k : κ} : k ∈ t.keys ↔ t.contains k = true := by
  constructor
  · intro hmem
    obtain ⟨es⟩ := t
    induction es with
    | nil => cases hmem
    | cons e rest ih =>
      show (find? k (e :: rest)).isSome = true
      unfold find?
      split
      · rfl
      · next hne =>
        rcases List.mem_cons.mp hmem with heq | hrest
        · exact absurd heq.symm hne
        · exact ih hrest
  · intro h
    obtain ⟨v, hv⟩ := Option.isSome_iff_exists.mp h
    exact mem_keys_of_get? hv

/-- Tables that give the same answers hold the same values. -/
theorem values_perm {t t' : Table κ υ} (h : t.keys.Nodup) (h' : t'.keys.Nodup)
    (heq : ∀ k, t.get? k = t'.get? k) : t.values.Perm t'.values := by
  have hmem (e : κ × υ) : e ∈ t.entries ↔ e ∈ t'.entries := by
    constructor
    · intro he
      exact mem_entries_of_get? ((heq e.1).symm.trans (get?_of_mem_entries h he))
    · intro he
      exact mem_entries_of_get? ((heq e.1).trans (get?_of_mem_entries h' he))
  exact ((List.perm_ext_iff_of_nodup h.of_map h'.of_map).mpr hmem).map Prod.snd

/-- The values of a table are that of one key and those of the others. -/
theorem values_perm_erase {t : Table κ υ} (h : t.keys.Nodup) (k : κ) :
    t.values.Perm ((t.get? k).toList ++ (t.erase k).values) := by
  have hcons {v : υ} (hv : t.get? k = some v) :
      t.values.Perm (⟨(k, v) :: (t.erase k).entries⟩ : Table κ υ).values := by
    refine values_perm h (List.nodup_cons.mpr ⟨?_, nodup_erase h k⟩) fun l => ?_
    · intro hmem
      obtain ⟨e, he, hk⟩ := List.mem_map.mp hmem
      simp [erase, hk] at he
    · rw [get?, get?, find?]
      split
      · next hl => exact hl ▸ hv
      · next hl => exact ((get?_erase t k l).trans (if_neg hl)).symm
  cases hv : t.get? k with
  | some v => exact hcons hv
  | none =>
    refine values_perm h (nodup_erase h k) fun l => ?_
    rw [get?_erase]
    split
    · next hl => rw [← hl, hv]
    · rfl

/-- What the values of a table add up to when the value of a key is set. -/
theorem sum_put (t : Table κ υ) (k : κ) (v : υ) (f : υ → Nat) :
    ((t.put k v).values.map f).sum + ((t.get? k).map f).getD 0 = (t.values.map f).sum + f v := by
  obtain ⟨es⟩ := t
  simp only [put, values, get?, List.map_map]
  induction es with
  | nil => simp [set, find?]
  | cons e rest ih =>
    by_cases he : e.1 = k
    · simp [set, find?, he]
      omega
    · simp only [set, find?, if_neg he, List.map_cons, List.sum_cons]
      omega

/-- What the values of a table add up to when a key is taken out. -/
theorem sum_erase {t : Table κ υ} (h : t.keys.Nodup) (k : κ) (f : υ → Nat) :
    ((t.erase k).values.map f).sum + ((t.get? k).map f).getD 0 = (t.values.map f).sum := by
  have hperm := (values_perm_erase h k).map f
  rw [hperm.sum_nat, List.map_append, List.sum_append, Nat.add_comm]
  cases t.get? k with
  | none => rfl
  | some v => simp

end Table

end Outbox
