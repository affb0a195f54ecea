import Outbox.Data.Dict
import Outbox.Number.Double
/-!
# `Outbox.Json.Basic` — JSON values

A value keeps the members of its objects as they were written, in order and with repetitions. Its
*normal form* has the members of every object in key order and, of a repeated key, only the last
one. Message contents are values in normal form.
-/

namespace Outbox

/-- A number of a JSON text: an integer from `-2 ^ 63` to below `2 ^ 64`, or a double. -/
inductive Json.Number
  | integer (n : Int)
  | double (x : Double)
  deriving DecidableEq, Repr

/-- A JSON value. -/
inductive Json
  | null
  | bool (b : Bool)
  | number (n : Json.Number)
  | text (s : String)
  | array (items : List Json)
  | object (members : List (String × Json))
  deriving Inhabited

namespace Json

/-! ## Equality -/

mutual
/-- Whether two values are the same. -/
def same : Json → Json → Bool
  | .null, .null => true
  | .bool a, .bool b => a == b
  | .number a, .number b => a == b
  | .text a, .text b => a == b
  | .array a, .array b => sameItems a b
  | .object a, .object b => sameMembers a b
  | _, _ => false

/-- Whether two lists of values are the same. -/
def sameItems : List Json → List Json → Bool
  | [], [] => true
  | a :: as, b :: bs => same a b && sameItems as bs
  | _, _ => false

/-- Whether two lists of members are the same. -/
def sameMembers : List (String × Json) → List (String × Json) → Bool
  | [], [] => true
  | a :: as, b :: bs => sameMember a b && sameMembers as bs
  | _, _ => false

/-- Whether two members are the same. -/
def sameMember : String × Json → String × Json → Bool
  | (k, a), (l, b) => k == l && same a b
end

mutual
theorem same_iff : (a b : Json) → (same a b = true ↔ a = b)
  | .null, b => by cases b <;> simp [same]
  | .bool _, b => by cases b <;> simp [same]
  | .number _, b => by cases b <;> simp [same]
  | .text _, b => by cases b <;> simp [same]
  | .array as, b => by
    cases b with
    | array bs => simpa [same] using sameItems_iff as bs
    | _ => simp [same]
  | .object as, b => by
    cases b with
    | object bs => simpa [same] using sameMembers_iff as bs
    | _ => simp [same]

theorem sameItems_iff : (a b : List Json) → (sameItems a b = true ↔ a = b)
  | [], b => by cases b <;> simp [sameItems]
  | a :: as, b => by
    cases b with
    | nil => simp [sameItems]
    | cons b bs => simp [sameItems, same_iff a b, sameItems_iff as bs]

theorem sameMembers_iff : (a b : List (String × Json)) → (sameMembers a b = true ↔ a = b)
  | [], b => by cases b <;> simp [sameMembers]
  | a :: as, b => by
    cases b with
    | nil => simp [sameMembers]
    | cons b bs => simp [sameMembers, sameMember_iff a b, sameMembers_iff as bs]

theorem sameMember_iff : (a b : String × Json) → (sameMember a b = true ↔ a = b)
  | (k, a), (l, b) => by simp [sameMember, same_iff a b]
end

instance : DecidableEq Json := fun a b => decidable_of_iff _ (same_iff a b)

/-! ## Normal form -/

mutual
/-- The value with the members of every object in key order, of a repeated key the last one. -/
def normalize : Json → Json
  | .array items => .array (normalizeItems items)
  | .object members => .object (Dict.arrange (normalizeMembers members))
  | j => j

/-- Every value of a list in normal form. -/
def normalizeItems : List Json → List Json
  | [] => []
  | j :: rest => normalize j :: normalizeItems rest

/-- Every value of a list of members in normal form. -/
def normalizeMembers : List (String × Json) → List (String × Json)
  | [] => []
  | m :: rest => normalizeMember m :: normalizeMembers rest

/-- A member with its value in normal form. -/
def normalizeMember : String × Json → String × Json
  | (key, j) => (key, normalize j)
end

/-- A value that is its own normal form. -/
def Normal (j : Json) : Prop :=
  normalize j = j

instance (j : Json) : Decidable j.Normal :=
  inferInstanceAs (Decidable (_ = _))

theorem normalizeMembers_of_forall {ms : List (String × Json)} (h : ∀ m ∈ ms, m.2.Normal) :
    normalizeMembers ms = ms := by
  induction ms with
  | nil => rfl
  | cons m rest ih =>
    have hm : normalizeMember m = m := by
      obtain ⟨key, j⟩ := m
      have hj : normalize j = j := h (key, j) (by simp)
      simp [normalizeMember, hj]
    simp [normalizeMembers, hm, ih fun n hn => h n (by simp [hn])]

theorem mem_of_mem_arrange {α : Type} {l : List (String × α)} {e : String × α}
    (h : e ∈ Dict.arrange l) : e ∈ l := by
  induction l with
  | nil => exact h
  | cons f rest ih =>
    rcases Dict.mem_of_mem_place h with rfl | h
    · simp
    · exact List.mem_cons_of_mem _ (ih h)

mutual
theorem normal_normalize : ∀ j : Json, (normalize j).Normal
  | .null => rfl
  | .bool _ => rfl
  | .number _ => rfl
  | .text _ => rfl
  | .array items => congrArg Json.array (normalizeItems_normalizeItems items)
  | .object members => by
    have h : ∀ m ∈ Dict.arrange (normalizeMembers members), m.2.Normal := fun m hm =>
      normal_of_mem_normalizeMembers members m (mem_of_mem_arrange hm)
    simp only [Normal, normalize, normalizeMembers_of_forall h,
      Dict.arrange_of_sorted (Dict.sorted_arrange _)]

theorem normalizeItems_normalizeItems :
    ∀ items : List Json, normalizeItems (normalizeItems items) = normalizeItems items
  | [] => rfl
  | j :: rest =>
    List.cons_eq_cons.mpr ⟨normal_normalize j, normalizeItems_normalizeItems rest⟩

theorem normal_of_mem_normalizeMembers :
    ∀ members : List (String × Json), ∀ m ∈ normalizeMembers members, m.2.Normal
  | [], _, h => nomatch h
  | n :: rest, m, h => by
    rcases List.mem_cons.mp h with rfl | h
    · exact normal_normalizeMember n
    · exact normal_of_mem_normalizeMembers rest m h

theorem normal_normalizeMember : ∀ m : String × Json, (normalizeMember m).2.Normal
  | (_, j) => normal_normalize j
end

end Json

/-- The content of a message: a JSON value in normal form. -/
structure Content where
  json : Json
  normal : json.Normal

namespace Content

instance : DecidableEq Content := fun a b =>
  decidable_of_iff (a.json = b.json)
    ⟨fun h => by cases a; cases b; simp_all, fun h => h ▸ rfl⟩

/-- The content with the normal form of a value. -/
def ofJson (j : Json) : Content :=
  ⟨j.normalize, j.normal_normalize⟩

instance : Inhabited Content := ⟨ofJson .null⟩

end Content

end Outbox
