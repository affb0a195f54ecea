/-!
# `Outbox.Data.Dict` — tables keyed by text, in key order

A dictionary is a list of entries whose keys ascend, so each key occurs once. Texts are ordered by
their code points, which is also the order of their UTF-8 bytes. `Dict.ofList` builds one from
entries in any order; where a key is repeated, its last entry counts.
-/

namespace Outbox

/-- The keys of a list of entries ascend. -/
def Dict.Sorted {α : Type} (entries : List (String × α)) : Prop :=
  entries.Pairwise fun a b => a.1 < b.1

/-- Entries whose keys ascend. -/
structure Dict (α : Type) where
  entries : List (String × α)
  sorted : Dict.Sorted entries

namespace Dict

variable {α : Type}

instance [DecidableEq α] : DecidableEq (Dict α) := fun a b =>
  decidable_of_iff (a.entries = b.entries)
    ⟨fun h => by cases a; cases b; simp_all, fun h => h ▸ rfl⟩

/-- Puts an entry in its place, unless its key is there already. -/
def place (e : String × α) : List (String × α) → List (String × α)
  | [] => [e]
  | f :: rest =>
    if e.1 < f.1 then e :: f :: rest
    else if e.1 = f.1 then f :: rest
    else f :: place e rest

/-- The entries in key order, of each key the last one. -/
def arrange (entries : List (String × α)) : List (String × α) :=
  entries.foldr place []

theorem mem_of_mem_place {e f : String × α} {l : List (String × α)} (h : f ∈ place e l) :
    f = e ∨ f ∈ l := by
  induction l with
  | nil => simpa [place] using h
  | cons g rest ih =>
    simp only [place] at h
    split at h
    · simpa using h
    · split at h
      · exact .inr h
      · rcases List.mem_cons.mp h with h | h
        · exact .inr (by simp [h])
        · exact (ih h).imp_right (by simp [·])

theorem sorted_place {e : String × α} {l : List (String × α)} (h : Sorted l) :
    Sorted (place e l) := by
  induction l with
  | nil => simp [place, Sorted]
  | cons g rest ih =>
    obtain ⟨hg, hrest⟩ := List.pairwise_cons.mp h
    simp only [place]
    split
    · next hlt =>
      refine List.pairwise_cons.mpr ⟨fun f hf => ?_, h⟩
      rcases List.mem_cons.mp hf with rfl | hf
      · exact hlt
      · exact String.lt_trans hlt (hg f hf)
    · split
      · exact h
      · next hlt hne =>
        refine List.pairwise_cons.mpr ⟨fun f hf => ?_, ih hrest⟩
        rcases mem_of_mem_place hf with rfl | hf
        · grind
        · exact hg f hf

theorem sorted_arrange (l : List (String × α)) : Sorted (arrange l) := by
  induction l with
  | nil => exact List.Pairwise.nil
  | cons e rest ih => exact sorted_place ih

/-- Entries in key order stay as they are. -/
theorem arrange_of_sorted {l : List (String × α)} (h : Sorted l) : arrange l = l := by
  induction l with
  | nil => rfl
  | cons e rest ih =>
    obtain ⟨he, hrest⟩ := List.pairwise_cons.mp h
    show place e (arrange rest) = e :: rest
    rw [ih hrest]
    cases rest with
    | nil => rfl
    | cons f rest => simp [place, he f (by simp)]

/-- The dictionary with the given entries. -/
def ofList (entries : List (String × α)) : Dict α :=
  ⟨arrange entries, sorted_arrange entries⟩

/-- The dictionary without entries. -/
def empty : Dict α :=
  ⟨[], List.Pairwise.nil⟩

instance : Inhabited (Dict α) := ⟨empty⟩

/-- Whether there is no entry. -/
def isEmpty (d : Dict α) : Bool :=
  d.entries.isEmpty

/-- The number of entries. -/
def size (d : Dict α) : Nat :=
  d.entries.length

theorem ofList_entries (d : Dict α) : ofList d.entries = d := by
  cases d with
  | mk entries sorted => simp [ofList, arrange_of_sorted sorted]

end Dict

end Outbox
