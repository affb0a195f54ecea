import Outbox.Proofs.Store.Operation
/-!
# `Proofs.UnseenFailures` — what fails leaves no trace in the store

An operation that fails may use up a fault that was to come, and changes nothing else; and a fault
that is to come does nothing but make an operation fail. So a run with faults is a run without any,
with some operations in between that have failed: take these out, along with the orders to fail, and
what is left is a run of a store that never fails, with the same answers and the same store in the
end.

The two runs go side by side. The invariant is that the one store is the other one *mended*.
-/

namespace Outbox.Store

/-- The store without the faults to come. -/
def mended (s : Store) : Store :=
  { s with failures := 0, updateFailures := 0 }

/-- Whether an operation has done its work: it has not failed, and is no order to fail. -/
def Done.worked : Done → Bool
  | ⟨.insert .., _⟩ => true
  | ⟨.fetch _, answer⟩ => (answer : Except StoreFailure (List Message)).isOk
  | ⟨.update .., answer⟩ => (answer : Except StoreFailure Transition).isOk
  | ⟨.release _, answer⟩ => (answer : Except StoreFailure Unit).isOk
  | ⟨.get _, answer⟩ => (answer : Except StoreFailure (Option Message)).isOk
  | ⟨.tally, answer⟩ => (answer : Except StoreFailure Tally).isOk
  | ⟨.failOperations _, _⟩ | ⟨.failUpdates _, _⟩ => false

section Mended

variable {s s' : Store} {trace : List Done}

/-- Two stores that differ in the faults to come only are one when mended. -/
theorem Same.mended_eq (h : Same s s') : s'.mended = s.mended := by
  obtain ⟨messages, order, claimed, writes⟩ := h
  simp only [mended, messages, order, claimed, writes]

theorem same_mended (s : Store) : Same s s.mended :=
  ⟨rfl, rfl, rfl, rfl⟩

/-- What has not done its work has changed nothing but the faults to come. -/
theorem same_of_not_worked {op : Operation} {answer : op.Answer} (hs : s.Keyed)
    (h : s.perform op = (answer, s')) (failed : Done.worked ⟨op, answer⟩ = false) : Same s s' := by
  cases does_of_perform hs h with
  | placed | drawn | moved | released => cases failed
  | same hsame => exact hsame

/-- What works in a store works in the mended store as well, if that is so where no operation is
made to fail. -/
theorem attempt_mended {α : Type} {operation : Store → Except StoreFailure α × Store}
    {answer : Except StoreFailure α} (h : s.attempt operation = (answer, s'))
    (worked : answer.isOk = true)
    (done : operation s = (answer, s') → operation s.mended = (answer, s'.mended)) :
    s.mended.attempt operation = (answer, s'.mended) := by
  have hquiet : ¬ 0 < s.mended.failures := Nat.lt_irrefl 0
  rcases attempt_cases h with ⟨reason, rfl, -⟩ | hdone
  · cases worked
  · rw [attempt, if_neg hquiet]
    exact done hdone

/-- An operation that, where it is not made to fail, has no eye for the faults to come. -/
theorem attempt_mended_of_blind {α : Type} {operation : Store → Except StoreFailure α × Store}
    {answer : Except StoreFailure α} (h : s.attempt operation = (answer, s'))
    (worked : answer.isOk = true)
    (blind : operation s.mended = ((operation s).1, (operation s).2.mended)) :
    s.mended.attempt operation = (answer, s'.mended) := by
  refine attempt_mended h worked fun hdone => ?_
  rw [blind, hdone]

theorem update_mended {id : MessageId} {status : Status} {now : Instant}
    {answer : Except StoreFailure Transition} (h : s.update id status now = (answer, s'))
    (worked : answer.isOk = true) : s.mended.update id status now = (answer, s'.mended) := by
  refine attempt_mended h worked fun hdone => ?_
  have hquiet : ¬ 0 < s.mended.updateFailures := Nat.lt_irrefl 0
  rw [if_neg hquiet, show s.mended.messages = s.messages from rfl]
  split at hdone
  · cases hdone
    cases worked
  · split at hdone
    · cases hdone
      cases worked
    · split at hdone
      · next hlegal =>
        cases hdone
        exact if_pos hlegal
      · cases hdone
        cases worked

/-- **What works in a store works in the mended store**, with the same answer. -/
theorem perform_mended {op : Operation} {answer : op.Answer} (h : s.perform op = (answer, s'))
    (worked : Done.worked ⟨op, answer⟩ = true) : s.mended.perform op = (answer, s'.mended) := by
  cases op with
  | insert id draft now =>
    cases h
    rfl
  | update id status now => exact update_mended h worked
  | fetch limit =>
    have h : s.fetch limit = (answer, s') := h
    exact attempt_mended_of_blind h worked rfl
  | release ids =>
    have h : s.release ids = (answer, s') := h
    exact attempt_mended_of_blind h worked rfl
  | get id =>
    have h : s.get id = (answer, s') := h
    exact attempt_mended_of_blind h worked rfl
  | tally =>
    have h : s.tally = (answer, s') := h
    exact attempt_mended_of_blind h worked rfl
  | failOperations | failUpdates => cases worked

/-- The run without what has failed goes side by side with the run. -/
theorem Performed.mended (h : Performed s trace s') (hs : s.Keyed) :
    Performed s.mended (trace.filter Done.worked) s'.mended := by
  induction h with
  | nil => exact .nil
  | @cons s s₁ s' op answer trace hop _ ih =>
    have hrest := ih ((does_of_perform hs hop).keyed hs)
    cases hworked : Done.worked ⟨op, answer⟩ with
    | true =>
      rw [List.filter_cons_of_pos hworked]
      exact .cons (perform_mended hop hworked) hrest
    | false =>
      -- the mended store stays as it is
      rw [List.filter_cons_of_neg (Bool.eq_false_iff.mp hworked),
        ← (same_of_not_worked hs hop hworked).mended_eq]
      exact hrest

end Mended

/-- **What fails leaves no trace.** Take a run of operations, with faults ordered at any moments, and
leave out the orders and all that has failed. What is left is a run from an empty store too, in which
each operation is answered as before, and which ends with the same messages, list, claims and number
of steps. So it is at every moment on the way, whoever looks. -/
theorem failures_unseen {trace : List Done} {s : Store} (h : Performed .empty trace s) :
    ∃ s', Performed .empty (trace.filter Done.worked) s' ∧ Same s s' ∧
      ∀ before later, trace = before ++ later → ∃ mid mid',
        Performed .empty before mid ∧ Performed mid later s ∧
        Performed .empty (before.filter Done.worked) mid' ∧
        Performed mid' (later.filter Done.worked) s' ∧ Same mid mid' := by
  refine ⟨s.mended, h.mended keyed_empty, same_mended s, ?_⟩
  rintro before later rfl
  obtain ⟨mid, hbefore, hlater⟩ := h.split
  exact ⟨mid, mid.mended, hbefore, hlater, hbefore.mended keyed_empty,
    hlater.mended (hbefore.keyed keyed_empty), same_mended mid⟩

/-- Faults of both kinds are ordered, one order replacing another, and the updates fail in all four
ways before one works. -/
def faulty : List Done :=
  let m := Message.ofDraft (.ofNat 1) default .epoch
  [⟨.insert (.ofNat 1) default .epoch, m⟩,
    ⟨.failOperations 5, ()⟩,
    ⟨.failUpdates 1, ()⟩,
    ⟨.failOperations 2, ()⟩,
    ⟨.fetch 1, Except.error operationFault⟩,
    ⟨.update (.ofNat 1) .enqueued .epoch, Except.error operationFault⟩,
    ⟨.fetch 1, Except.ok [m]⟩,
    ⟨.update (.ofNat 1) .enqueued .epoch, Except.error updateFault⟩,
    ⟨.update (.ofNat 2) .enqueued .epoch, Except.error (.notFound (.ofNat 2))⟩,
    ⟨.update (.ofNat 1) .delivered .epoch,
      Except.error (.conflict (.ofNat 1) .pending .delivered)⟩,
    ⟨.update (.ofNat 1) .enqueued .epoch, Except.ok ⟨.ofNat 1, .pending, .enqueued⟩⟩,
    ⟨.failUpdates 7, ()⟩]

theorem failures_unseen_faulty :
    (∃ s, Performed .empty faulty s ∧ s.claimed = [] ∧ s.writes = 1 ∧ s.updateFailures = 7) ∧
    (faulty.filter Done.worked).length = 3 ∧
    ∃ s', Performed .empty (faulty.filter Done.worked) s' ∧ s'.claimed = [] ∧ s'.writes = 1 := by
  have h : Performed .empty faulty _ :=
    .cons rfl (.cons rfl (.cons rfl (.cons rfl (.cons rfl (.cons rfl (.cons rfl (.cons rfl
      (.cons rfl (.cons rfl (.cons rfl (.cons rfl .nil)))))))))))
  obtain ⟨s', hrun, hsame, -⟩ := failures_unseen h
  exact ⟨⟨_, h, rfl, rfl, rfl⟩, rfl, s', hrun, hsame.claimed, hsame.writes⟩

end Outbox.Store
