import Mathlib.Data.List.TakeWhile
import Outbox.Text.Blank
/-!
# `Proofs.Text.Blank` — what trimming takes and what it leaves

Trimming takes white space from both ends of a text, and it takes all of it: what stands between two
runs of white space, and holds none itself, is what is left.
-/

namespace Outbox.Text

/-- Nothing is taken from a text that does not begin with white space. -/
theorem trimStart_append {cs rest : List Char} (hne : cs ≠ [])
    (hcs : ∀ c ∈ cs, isBlank c = false) : trimStart (cs ++ rest) = cs ++ rest := by
  cases cs with
  | nil => exact absurd rfl hne
  | cons c cs =>
    have hc := hcs c List.mem_cons_self
    exact List.dropWhile_cons_of_neg (Bool.eq_false_iff.mp hc)

theorem trimStart_blanks {blanks : List Char} (h : ∀ c ∈ blanks, isBlank c = true)
    (rest : List Char) : trimStart (blanks ++ rest) = trimStart rest :=
  List.dropWhile_append_of_pos h

/-- White space around a text is taken from it. -/
theorem trim_append {front cs back : List Char} (hfront : ∀ c ∈ front, isBlank c = true)
    (hne : cs ≠ []) (hcs : ∀ c ∈ cs, isBlank c = false) (hback : ∀ c ∈ back, isBlank c = true) :
    trim (front ++ cs ++ back) = cs := by
  have hreverse : trimStart cs.reverse = cs.reverse := by
    have h := @trimStart_append cs.reverse [] (by simpa using hne)
      fun c hc => hcs c (List.mem_reverse.mp hc)
    simpa using h
  rw [trim, List.append_assoc, trimStart_blanks hfront, trimStart_append hne hcs,
    List.reverse_append, trimStart_blanks fun c hc => hback c (List.mem_reverse.mp hc), hreverse,
    List.reverse_reverse]

/-- What is taken from a text is white space. -/
theorem exists_trim (cs : List Char) : ∃ front back, cs = front ++ trim cs ++ back ∧
    (∀ c ∈ front, isBlank c = true) ∧ ∀ c ∈ back, isBlank c = true := by
  have hstart : cs = cs.takeWhile isBlank ++ trimStart cs :=
    List.takeWhile_append_dropWhile.symm
  have hend : (trimStart cs).reverse =
      (trimStart cs).reverse.takeWhile isBlank ++ (trim cs).reverse := by
    rw [trim, List.reverse_reverse]
    exact List.takeWhile_append_dropWhile.symm
  refine ⟨cs.takeWhile isBlank, ((trimStart cs).reverse.takeWhile isBlank).reverse, ?_, ?_, ?_⟩
  · have hrest : trimStart cs =
        trim cs ++ ((trimStart cs).reverse.takeWhile isBlank).reverse := by
      have h := congrArg List.reverse hend
      rwa [List.reverse_reverse, List.reverse_append, List.reverse_reverse] at h
    rw [List.append_assoc, ← hrest]
    exact hstart
  · intro c hc
    exact List.mem_takeWhile_imp hc
  · intro c hc
    exact List.mem_takeWhile_imp (List.mem_reverse.mp hc)

end Outbox.Text
