import Mathlib.Algebra.Group.Nat.Defs
import Mathlib.Data.Nat.Basic
import Outbox.Identifier
/-!
# `Proofs.Ulid` — identifiers are read as they were written

Twenty-six digits hold all the 128 bits of an identifier, so its text names it, with the two bits
that the reader drops being zero.
-/

namespace Outbox

namespace Ulid

theorem value?_symbol {d : Nat} (h : d < 32) : value? (symbol d) = some d :=
  (by decide : ∀ d < 32, value? (symbol d) = some d) d h

theorem readFrom?_append (n : Nat) (cs ds : List Char) :
    readFrom? n (cs ++ ds) = readFrom? n cs >>= fun m => readFrom? m ds := by
  induction cs generalizing n with
  | nil => rfl
  | cons c cs ih =>
    simp only [List.cons_append, readFrom?]
    cases value? c with
    | none => rfl
    | some d => exact ih _

/-- What the last digits hold is what all but one of them hold, and the last one. -/
theorem mod_pow_width_succ (width n : Nat) :
    n % 32 ^ (width + 1) = 32 * (n / 32 % 32 ^ width) + n % 32 := by
  rw [Nat.pow_succ', Nat.mod_mul]
  omega

/-- The digits of a text hold all of an identifier. -/
theorem toNat_mod_pow_width (u : Ulid) : u.toNat % 32 ^ width = u.toNat :=
  Nat.mod_eq_of_lt (Nat.lt_trans u.bits.isLt (by decide))

/-- The last digits of a number denote what of it they hold. -/
theorem readFrom?_digits (width n : Nat) : readFrom? 0 (digits width n) = some (n % 32 ^ width) := by
  induction width generalizing n with
  | zero => simp [digits, readFrom?, Nat.mod_one]
  | succ width ih =>
    have hlast : n % 32 < 32 := Nat.mod_lt n (by decide)
    rw [digits, readFrom?_append, ih]
    simp [readFrom?, value?_symbol hlast, mod_pow_width_succ]

theorem ofNat_toNat (u : Ulid) : ofNat u.toNat = u := by
  obtain ⟨bits⟩ := u
  simp [ofNat, toNat]

/-- Every identifier is read as it was written. -/
@[simp]
theorem read?_write (u : Ulid) : read? u.write = some u := by
  rw [read?, if_pos (length_write u), write, readFrom?_digits, toNat_mod_pow_width, Option.map_some,
    ofNat_toNat]

end Ulid

/-- An identifier of either kind is read as it was written. -/
@[simp]
theorem Identifier.ofWire?_wire {kind : Kind} (id : Identifier kind) :
    ofWire? id.wire = some id := by
  simp [ofWire?, wire]

end Outbox
