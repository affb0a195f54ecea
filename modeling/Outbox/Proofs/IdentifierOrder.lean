import Mathlib.Algebra.Group.Int.Defs
import Outbox.Generator
import Outbox.Proofs.Ulid
/-!
# `Proofs.IdentifierOrder` — identifiers sort by time, as numbers and as texts

The digits of the alphabet ascend with their values, and all identifiers are written with as many
digits. So the order of two texts, byte by byte, is that of the numbers: the first digit that differs
decides both. The time is in the upper bits, so of two identifiers the one made in the earlier
millisecond is the lesser, whatever chance has put below.
-/

namespace Outbox

/-- The bytes of a text in UTF-8. Texts are ordered by their bytes, the first that differs deciding;
a text goes before those that it begins. -/
def bytes (s : String) : List UInt8 :=
  s.toByteArray.data.toList

/-! ## Orders that compare the first difference -/

theorem compare_append {xs ys : List UInt8} (h : xs.length = ys.length) (xs' ys' : List UInt8) :
    compare (xs ++ xs') (ys ++ ys') = (compare xs ys).then (compare xs' ys') := by
  induction xs generalizing ys with
  | nil =>
    cases ys with
    | nil => rfl
    | cons y ys => cases h
  | cons x xs ih =>
    cases ys with
    | nil => cases h
    | cons y ys =>
      simp only [List.cons_append, List.compare_cons_cons, ih (Nat.succ.inj h), Ordering.then_assoc]

/-- A number is compared by its digits, the most significant first. -/
theorem compare_mul_add {base a b r s : Nat} (hr : r < base) (hs : s < base) :
    compare (base * a + r) (base * b + s) = (compare a b).then (compare r s) := by
  rcases Nat.lt_trichotomy a b with hless | rfl | hmore
  · have hmul : base * a + base ≤ base * b := Nat.mul_le_mul_left base hless
    rw [Nat.compare_eq_lt.mpr hless, Nat.compare_eq_lt.mpr (by omega)]
    rfl
  · rw [Std.compare_self, Ordering.eq_then]
    simp only [Nat.compare_eq_ite_lt, Nat.add_lt_add_iff_left]
  · have hmul : base * b + base ≤ base * a := Nat.mul_le_mul_left base hmore
    rw [Nat.compare_eq_gt.mpr hmore, Nat.compare_eq_gt.mpr (by omega)]
    rfl

theorem bytes_ofList (cs : List Char) :
    bytes (String.ofList cs) = cs.flatMap String.utf8EncodeChar := by
  simp [bytes, List.utf8Encode]

namespace Ulid

/-- A digit is one byte. -/
theorem length_encode_symbol {d : Nat} (h : d < 32) :
    (String.utf8EncodeChar (symbol d)).length = 1 :=
  (by decide : ∀ d < 32, (String.utf8EncodeChar (symbol d)).length = 1) d h

/-- The digits ascend. -/
theorem compare_symbol {d e : Nat} (hd : d < 32) (he : e < 32) :
    compare (String.utf8EncodeChar (symbol d)) (String.utf8EncodeChar (symbol e)) = compare d e :=
  (by decide +kernel : ∀ d < 32, ∀ e < 32,
    compare (String.utf8EncodeChar (symbol d)) (String.utf8EncodeChar (symbol e)) = compare d e)
    d hd e he

theorem length_encode_digits (width n : Nat) :
    ((digits width n).flatMap String.utf8EncodeChar).length = width := by
  induction width generalizing n with
  | zero => rfl
  | succ width ih =>
    have hlast : n % 32 < 32 := Nat.mod_lt n (by decide)
    rw [digits, List.flatMap_append, List.length_append, ih, List.flatMap_singleton,
      length_encode_symbol hlast]

/-- The last digits of two numbers are in the order of what of the numbers they hold. -/
theorem compare_digits (width m n : Nat) :
    compare ((digits width m).flatMap String.utf8EncodeChar)
        ((digits width n).flatMap String.utf8EncodeChar) =
      compare (m % 32 ^ width) (n % 32 ^ width) := by
  -- the last digit decides only where those before it are the same, in the texts and in the numbers
  induction width generalizing m n with
  | zero => simp [digits, Nat.mod_one]
  | succ width ih =>
    have hlast (k : Nat) : k % 32 < 32 := Nat.mod_lt k (by decide)
    have hlength : ((digits width (m / 32)).flatMap String.utf8EncodeChar).length =
        ((digits width (n / 32)).flatMap String.utf8EncodeChar).length := by
      rw [length_encode_digits, length_encode_digits]
    rw [digits, digits, List.flatMap_append, List.flatMap_append, compare_append hlength, ih,
      List.flatMap_singleton, List.flatMap_singleton, compare_symbol (hlast m) (hlast n),
      mod_pow_width_succ, mod_pow_width_succ, compare_mul_add (hlast m) (hlast n)]

/-- The texts of identifiers are in the order of the identifiers, after whatever they begin with. -/
theorem compare_write (front : List Char) (u v : Ulid) :
    compare (bytes (String.ofList (front ++ u.write))) (bytes (String.ofList (front ++ v.write))) =
      compare u v := by
  rw [bytes_ofList, bytes_ofList, List.flatMap_append, List.flatMap_append, compare_append rfl,
    Std.compare_self, Ordering.eq_then, write, write, compare_digits, toNat_mod_pow_width,
    toNat_mod_pow_width]
  rfl

theorem toNat_ofParts (milliseconds chance : Nat) : (ofParts milliseconds chance).toNat =
    chances * (milliseconds % 0x1_0000_0000_0000) + chance % chances := by
  rw [ofParts, ofNat, toNat, BitVec.toNat_ofNat, Nat.mul_comm chances]
  exact Nat.mod_eq_of_lt (by unfold chances; omega)

theorem chance_lt (chance : Nat) : chance % chances < chances :=
  Nat.mod_lt chance (by decide)

theorem milliseconds_ofParts (milliseconds chance : Nat) :
    (ofParts milliseconds chance).milliseconds = milliseconds % 0x1_0000_0000_0000 := by
  rw [Ulid.milliseconds, toNat_ofParts, Nat.mul_add_div (by decide),
    Nat.div_eq_of_lt (chance_lt chance), Nat.add_zero]

/-- Of two identifiers the one of the lesser time is the lesser. -/
theorem compare_ofParts {s t : Nat} (h : s % 0x1_0000_0000_0000 < t % 0x1_0000_0000_0000)
    (chance₁ chance₂ : Nat) : compare (ofParts s chance₁) (ofParts t chance₂) = .lt := by
  show compare (ofParts s chance₁).toNat (ofParts t chance₂).toNat = .lt
  rw [toNat_ofParts, toNat_ofParts, compare_mul_add (chance_lt _) (chance_lt _),
    Nat.compare_eq_lt.mpr h]
  rfl

end Ulid

namespace Identifier

variable {kind : Kind}

/-- The time of an identifier is the time at which it was made, if the 48 bits can hold that. -/
theorem milliseconds_generate {t : Instant} (first : 0 ≤ t.milliseconds)
    (last : t.milliseconds < 2 ^ 48) (chance : Nat) :
    ((generate t chance : Identifier kind).milliseconds : Int) = t.milliseconds := by
  rw [Identifier.milliseconds, generate, Ulid.milliseconds_ofParts]
  omega

/-- Of two identifiers the one made in the earlier millisecond is the lesser. -/
theorem compare_generate {s t : Instant} (first : 0 ≤ s.milliseconds)
    (earlier : s.milliseconds < t.milliseconds) (last : t.milliseconds < 2 ^ 48)
    (chance₁ chance₂ : Nat) :
    compare (generate s chance₁ : Identifier kind) (generate t chance₂) = .lt := by
  apply Ulid.compare_ofParts
  omega

theorem compare_display (a b : Identifier kind) :
    compare (bytes a.display) (bytes b.display) = compare a b :=
  Ulid.compare_write kind.tag a.ulid b.ulid

theorem compare_wire (a b : Identifier kind) :
    compare (bytes a.wire) (bytes b.wire) = compare a b := by
  have h := Ulid.compare_write [] a.ulid b.ulid
  rw [List.nil_append, List.nil_append] at h
  exact h

theorem wire_injective {a b : Identifier kind} (h : a.wire = b.wire) : a = b := by
  have hread : some a = ofWire? b.wire := h ▸ (ofWire?_wire a).symm
  rw [ofWire?_wire] at hread
  exact Option.some.inj hread

theorem display_injective {a b : Identifier kind} (h : a.display = b.display) : a = b := by
  apply wire_injective
  have htexts : kind.tag ++ a.ulid.write = kind.tag ++ b.ulid.write := String.ofList_injective h
  exact congrArg String.ofList (List.append_cancel_left htexts)

/-- **Identifiers sort by time.** The order of two identifiers of a kind is that of their texts, as
they are displayed and as they travel, byte by byte, and their texts are the same only if they are.
Of two identifiers made in different milliseconds the earlier one is the lesser, whatever chance has
added; and each holds the millisecond in which it was made. -/
theorem sorted_by_time :
    (∀ a b : Identifier kind,
      compare (bytes a.display) (bytes b.display) = compare a b ∧
      compare (bytes a.wire) (bytes b.wire) = compare a b ∧
      (a.display = b.display → a = b) ∧ (a.wire = b.wire → a = b)) ∧
    ∀ (s t : Instant) (chance₁ chance₂ : Nat), 0 ≤ s.milliseconds →
      s.milliseconds < t.milliseconds → t.milliseconds < 2 ^ 48 →
      let a : Identifier kind := generate s chance₁
      let b : Identifier kind := generate t chance₂
      compare a b = .lt ∧ compare (bytes a.display) (bytes b.display) = .lt ∧
        compare (bytes a.wire) (bytes b.wire) = .lt ∧
        a.milliseconds = s.milliseconds ∧ b.milliseconds = t.milliseconds := by
  refine ⟨fun a b => ⟨compare_display a b, compare_wire a b, display_injective, wire_injective⟩, ?_⟩
  intro s t chance₁ chance₂ first earlier last
  have hless : compare (generate s chance₁ : Identifier kind) (generate t chance₂) = .lt :=
    compare_generate first earlier last chance₁ chance₂
  refine ⟨hless, (compare_display _ _).trans hless, (compare_wire _ _).trans hless, ?_, ?_⟩
  · exact milliseconds_generate first (by omega) chance₁
  · exact milliseconds_generate (by omega) last chance₂

/-- The last millisecond of a year with the greatest chance goes before the first one of the next year
with the least. -/
theorem sorted_by_time_newYear :
    let a : MessageId := generate ⟨1704067199, 999_999_999, by decide⟩ (2 ^ 80 - 1)
    let b : MessageId := generate ⟨1704067200, 0, by decide⟩ 0
    compare a b = .lt ∧ compare (bytes a.display) (bytes b.display) = .lt ∧
      compare (bytes a.wire) (bytes b.wire) = .lt ∧
      (a.milliseconds : Int) = 1704067199999 ∧ (b.milliseconds : Int) = 1704067200000 :=
  sorted_by_time.2 ⟨1704067199, 999_999_999, by decide⟩ ⟨1704067200, 0, by decide⟩ (2 ^ 80 - 1) 0
    (by decide) (by decide) (by decide)

end Identifier

end Outbox
