import Mathlib.Algebra.Group.Nat.Defs
import Mathlib.Data.List.TakeWhile
import Outbox.Proofs.Text.Blank
import Outbox.Text.Digits
/-!
# `Proofs.Text.Digits` — decimal digits are read as they were written

The digits of a number denote that number, with or without leading zeros; of a fixed number of
digits, as much of the number as they hold. A reader that takes leading digits takes all that were
written and nothing of what follows.
-/

namespace Outbox.Text

namespace Digits

/-! ## Single digits -/

theorem isDigit_symbol {d : Nat} (h : d < 10) : isDigit (symbol d) = true :=
  (by decide : ∀ d < 10, isDigit (symbol d) = true) d h

theorem value_symbol {d : Nat} (h : d < 10) : value (symbol d) = d :=
  (by decide : ∀ d < 10, value (symbol d) = d) d h

theorem symbol_ne_zero {d : Nat} (h : d < 10) (hd : 0 < d) : symbol d ≠ '0' :=
  (by decide : ∀ d < 10, 0 < d → symbol d ≠ '0') d h hd

theorem isDigit_iff {c : Char} : isDigit c = true ↔ 48 ≤ c.toNat ∧ c.toNat ≤ 57 := by
  rw [isDigit, Bool.and_eq_true, decide_eq_true_eq, decide_eq_true_eq]
  exact Iff.rfl

theorem exists_symbol {c : Char} (h : isDigit c = true) : ∃ d < 10, c = symbol d := by
  obtain ⟨hlow, hhigh⟩ := isDigit_iff.mp h
  refine ⟨c.toNat - 48, by omega, ?_⟩
  rw [symbol, Nat.add_sub_cancel' hlow, Char.ofNat_toNat]

theorem isBlank_of_isDigit {c : Char} (h : isDigit c = true) : isBlank c = false := by
  have hrange := isDigit_iff.mp h
  simp only [isBlank, Bool.or_eq_false_iff, Bool.and_eq_false_iff, decide_eq_false_iff_not,
    beq_eq_false_iff_ne]
  omega

/-! ## What digits denote -/

theorem read_snoc (ds : List Char) (c : Char) : read (ds ++ [c]) = 10 * read ds + value c := by
  simp [read, readFrom]

theorem read_zeros (n : Nat) (ds : List Char) : read (List.replicate n '0' ++ ds) = read ds := by
  induction n with
  | zero => rfl
  | succ n ih => exact ih

/-- The digits of a number denote it. -/
@[simp]
theorem read_write (n : Nat) : read (write n) = n := by
  rw [write]
  split
  · next h => simp [read, readFrom, value_symbol h]
  · next h =>
    have hlast : n % 10 < 10 := Nat.mod_lt n (by decide)
    rw [read_snoc, read_write (n / 10), value_symbol hlast]
    omega
termination_by n
decreasing_by omega

/-- Leading zeros change nothing. -/
@[simp]
theorem read_writePadded (width n : Nat) : read (writePadded width n) = n := by
  rw [writePadded, read_zeros, read_write]

/-- The last digits of a number denote what of it they hold. -/
theorem read_writeFixed (width n : Nat) : read (writeFixed width n) = n % 10 ^ width := by
  induction width generalizing n with
  | zero => simp [writeFixed, read, readFrom, Nat.mod_one]
  | succ width ih =>
    have hlast : n % 10 < 10 := Nat.mod_lt n (by decide)
    rw [writeFixed, read_snoc, ih, value_symbol hlast, Nat.pow_succ', Nat.mod_mul]
    omega

theorem read_writeFixed_of_lt {width n : Nat} (h : n < 10 ^ width) :
    read (writeFixed width n) = n := by
  rw [read_writeFixed, Nat.mod_eq_of_lt h]

/-! ## What is written -/

theorem write_ne_nil (n : Nat) : write n ≠ [] := by
  rw [write]
  split <;> simp

theorem isDigit_of_mem_write {n : Nat} {c : Char} (h : c ∈ write n) : isDigit c = true := by
  rw [write] at h
  split at h
  · next hn =>
    cases List.mem_singleton.mp h
    exact isDigit_symbol hn
  · rcases List.mem_append.mp h with h | h
    · exact isDigit_of_mem_write h
    · cases List.mem_singleton.mp h
      exact isDigit_symbol (Nat.mod_lt n (by decide))
termination_by n
decreasing_by omega

theorem isDigit_of_mem_writePadded {width n : Nat} {c : Char} (h : c ∈ writePadded width n) :
    isDigit c = true := by
  rcases List.mem_append.mp h with h | h
  · cases (List.mem_replicate.mp h).2
    rfl
  · exact isDigit_of_mem_write h

theorem isDigit_of_mem_writeFixed {width n : Nat} {c : Char} (h : c ∈ writeFixed width n) :
    isDigit c = true := by
  induction width generalizing n with
  | zero => cases h
  | succ width ih =>
    rcases List.mem_append.mp h with h | h
    · exact ih h
    · cases List.mem_singleton.mp h
      exact isDigit_symbol (Nat.mod_lt n (by decide))

theorem writePadded_ne_nil (width n : Nat) : writePadded width n ≠ [] :=
  List.append_ne_nil_of_right_ne_nil _ (write_ne_nil n)

theorem writeFixed_ne_nil {width : Nat} (h : 0 < width) (n : Nat) : writeFixed width n ≠ [] :=
  List.ne_nil_of_length_pos (by rwa [length_writeFixed])

/-- A number above zero is written without a leading zero. -/
theorem head?_write_ne_zero {n : Nat} (h : 0 < n) : (write n).head? ≠ some '0' := by
  rw [write]
  split
  · next hn => simpa using symbol_ne_zero hn h
  · have hrest := head?_write_ne_zero (n := n / 10) (by omega)
    cases hds : write (n / 10) with
    | nil => exact absurd hds (write_ne_nil (n / 10))
    | cons d ds =>
      rw [hds] at hrest
      exact hrest
termination_by n
decreasing_by omega

/-- Digits that begin with a zero are that zero alone. -/
theorem length_write_of_head? {n : Nat} (h : (write n).head? = some '0') :
    (write n).length = 1 := by
  rcases Nat.eq_zero_or_pos n with rfl | hn
  · rw [write]
    rfl
  · exact absurd h (head?_write_ne_zero hn)

/-! ## Taking leading digits -/

/-- A text that begins with digits does not begin with anything else. -/
theorem append_ne_cons {ds rest : List Char} (hne : ds ≠ []) (hds : ∀ c ∈ ds, isDigit c = true)
    {c : Char} {cs : List Char} (hc : isDigit c = false) : ds ++ rest ≠ c :: cs := by
  intro heq
  cases ds with
  | nil => exact hne rfl
  | cons d ds =>
    cases heq
    rw [hds c List.mem_cons_self] at hc
    cases hc

/-- A reader of at most `limit` digits takes all of a run that is no longer, if the run fills the
limit or something else than a digit follows. -/
theorem spanUpTo_append {limit : Nat} {ds rest : List Char} (hds : ∀ c ∈ ds, isDigit c = true)
    (hlength : ds.length ≤ limit)
    (hrest : ds.length < limit → ∀ c ∈ rest.head?, isDigit c = false) :
    spanUpTo limit (ds ++ rest) = (ds, rest) := by
  induction ds generalizing limit with
  | nil =>
    cases limit with
    | zero => rfl
    | succ limit =>
      cases rest with
      | nil => rfl
      | cons c rest =>
        have hc : isDigit c = false := hrest (Nat.succ_pos limit) c rfl
        simp [spanUpTo, hc]
  | cons d ds ih =>
    cases limit with
    | zero => cases hlength
    | succ limit =>
      have hd : isDigit d = true := hds d List.mem_cons_self
      have htail := ih (fun c hc => hds c (List.mem_cons_of_mem d hc))
        (Nat.le_of_succ_le_succ hlength) fun h => hrest (Nat.succ_lt_succ h)
      simp [spanUpTo, hd, htail]

theorem takeWhile_append {ds : List Char} {c : Char} {rest : List Char}
    (hds : ∀ d ∈ ds, isDigit d = true) (hc : isDigit c = false) :
    (ds ++ c :: rest).takeWhile isDigit = ds := by
  rw [List.takeWhile_append_of_pos hds, List.takeWhile_cons_of_neg (by simp [hc]), List.append_nil]

theorem dropWhile_append {ds : List Char} {c : Char} {rest : List Char}
    (hds : ∀ d ∈ ds, isDigit d = true) (hc : isDigit c = false) :
    (ds ++ c :: rest).dropWhile isDigit = c :: rest := by
  rw [List.dropWhile_append_of_pos hds, List.dropWhile_cons_of_neg (by simp [hc])]

end Digits

/-- No white space goes before a digit. -/
theorem trimStart_of_isDigit {ds rest : List Char} (hne : ds ≠ [])
    (hds : ∀ c ∈ ds, Digits.isDigit c = true) : trimStart (ds ++ rest) = ds ++ rest :=
  trimStart_append hne fun c hc => Digits.isBlank_of_isDigit (hds c hc)

end Outbox.Text
