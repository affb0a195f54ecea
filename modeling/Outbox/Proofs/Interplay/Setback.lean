import Outbox.Process.Consuming
import Outbox.Process.Publishing
/-!
# `Proofs.Interplay.Setback` — what a loop does when it gets nowhere

A batch gets nowhere when it never comes to a message: what is carried could not be recorded, the
fetch failed, or there was nothing to fetch. It gets stuck when an outcome could not be recorded. A
publisher's loop pauses after every batch of either kind, and a consumer's loop after every receipt
that it could not record and after every subscription that failed. The loops tell of each setback as
it happens.
-/

namespace Outbox

/-- Whether a loop tells that it could not record something, or not subscribe. -/
def Notice.isSetback : Notice → Bool
  | .outcomeUnrecorded .. | .receiptUnrecorded .. | .resubscribeFailed .. => true
  | _ => false

/-- A turn leads to a state, or to an outcome, with some property. -/
def Turn.Leads {σ α : Type} (turn : Turn σ α) (on : σ → Prop) (out : α → Prop) : Prop :=
  match turn.progress with
  | .waiting state => on state
  | .finished outcome => out outcome

/-- What a larger process tells that its part did not is told once the part has come to its end. -/
theorem Turn.told_of_andThen {σ τ α β : Type} {turn : Turn σ α} {wrap : σ → τ}
    {next : α → Turn τ β} {p : Notice → Bool} (plain : turn.notices.any p = false)
    (h : (turn.andThen wrap next).notices.any p = true) :
    ∃ outcome, turn.progress = .finished outcome ∧ (next outcome).notices.any p = true := by
  cases hp : turn.progress with
  | waiting state =>
    rw [Turn.andThen_of_waiting hp] at h
    cases plain.symm.trans h
  | finished outcome =>
    rw [Turn.andThen_of_finished hp, List.any_append, plain, Bool.false_or] at h
    exact ⟨outcome, rfl, h⟩

section Setbacks

variable {c : Config} {stop : Bool} {carried : List Outcome}

/-- A recorder tells of no setback; who makes use of it does. -/
theorem Recording.no_setback (rec : Recording) (answer : (rec.request c).Answer) :
    (rec.resume c answer).notices.any Notice.isSetback = false := by
  cases rec with
  | updating outcome tries =>
    change Except StoreFailure (Transition × Stamp) at answer
    rcases answer with failure | ⟨change, stamp⟩
    · simp only [resume]
      split <;> rfl
    · rfl
  | updatePause | appendPause => rfl
  | appending change entry tries =>
    change Except StoreFailure Unit at answer
    rcases answer with failure | ⟨⟩
    · simp only [resume]
      split <;> rfl
    · rfl

/-! ## Batches -/

namespace Batching

/-- Whether the batch has not come to a message of its own yet. -/
def isEmptyHanded : Batching → Bool
  | .opening | .recovering .. | .freeing .. | .fetching _ => true
  | .publishing .. | .recording .. | .keeping .. | .releasing .. => false

/-- Whether the batch could not record an outcome; it publishes no more then. -/
def isStuck : Batching → Bool
  | .keeping summary _ _ | .releasing summary _ => 0 < summary.storeFailures
  | .opening | .recovering .. | .freeing .. | .fetching _ | .publishing .. | .recording .. => false

/-- Whether a batch came to nothing, or could not record an outcome. -/
def isVain : Except StoreFailure BatchSummary → Bool
  | .ok summary => 0 < summary.storeFailures || summary.fetched = 0
  | .error _ => true

/-- Every turn of a batch leads from one property to another, or to the end of a batch in vain. -/
def LeadsOn (c : Config) (I J : Batching → Prop) : Prop :=
  ∀ {s : Batching} (stop : Bool) (carried : List Outcome) (answer : (s.request c).Answer), I s →
    (s.resume c stop carried answer).2.Leads J (isVain · = true)

/-- Whether a batch has no message of its own, or has just come to its first one. -/
def Seeks (s : Batching) : Prop :=
  s.isEmptyHanded = true ∨ ∃ summary m rest, s = .publishing summary m rest

theorem seeks_recoverNext (summary : BatchSummary) (carried : List Outcome) :
    (recoverNext summary carried).Leads Seeks (isVain · = true) := by
  cases carried <;> exact .inl rfl

/-- A batch that does not have a message of its own comes to one, or to nothing. -/
theorem leadsOn_of_emptyHanded : LeadsOn c (·.isEmptyHanded = true) Seeks := by
  intro s stop carried answer h
  cases s with
  | opening => exact seeks_recoverNext ..
  | recovering summary outcome record =>
    simp only [resume]
    split
    · exact .inl rfl
    · rfl
    · exact seeks_recoverNext ..
    · exact .inl rfl
  | freeing summary outcome result =>
    change Except StoreFailure Unit at answer
    cases answer <;> exact seeks_recoverNext ..
  | fetching summary =>
    change Except StoreFailure (List Message) at answer
    rcases answer with failure | batch
    · rfl
    · cases batch with
      | nil => exact Bool.or_true _
      | cons m rest => exact .inr ⟨_, m, rest, rfl⟩
  | publishing | recording | keeping | releasing => cases h

/-- A batch that could not record an outcome gives the rest back and ends. -/
theorem leadsOn_of_stuck : LeadsOn c (·.isStuck = true) (·.isStuck = true) := by
  intro s stop carried answer h
  cases s with
  | keeping summary outcome rest =>
    cases rest with
    | nil => exact Bool.or_eq_true_iff.mpr (.inl h)
    | cons m rest => exact h
  | releasing summary rest =>
    change Except StoreFailure Unit at answer
    cases answer <;> exact Bool.or_eq_true_iff.mpr (.inl h)
  | opening | recovering | freeing | fetching | publishing | recording => cases h

theorem settle_no_setback (outcome : Outcome) (result : RecordResult) (summary : BatchSummary) :
    (settle outcome result summary).2.any Notice.isSetback = false := by
  cases result <;> rfl

theorem recovered_no_setback (summary : BatchSummary) (outcome : Outcome) (result : RecordResult)
    (carried : List Outcome) :
    (recovered summary outcome result carried).2.notices.any Notice.isSetback = false := by
  simp only [recovered, List.any_append, settle_no_setback, Bool.false_or]
  cases carried <;> rfl

/-- A batch that tells of a setback could not record an outcome. -/
theorem stuck_of_setback {s : Batching} {answer : (s.request c).Answer}
    (h : (s.resume c stop carried answer).2.notices.any Notice.isSetback = true) :
    ∃ next, (s.resume c stop carried answer).2.progress = .waiting next ∧ next.isStuck = true := by
  cases s with
  | opening => cases carried <;> cases h
  | recovering summary outcome record =>
    have hplain := record.no_setback answer
    simp only [resume] at h
    split at h
    · cases hplain.symm.trans h
    · cases hplain.symm.trans h
    · rw [List.any_append, hplain, recovered_no_setback] at h
      cases h
    · cases hplain.symm.trans h
  | freeing summary outcome result =>
    have hplain := recovered_no_setback summary outcome result carried
    change Except StoreFailure Unit at answer
    cases answer <;> cases hplain.symm.trans h
  | fetching summary =>
    change Except StoreFailure (List Message) at answer
    rcases answer with failure | batch
    · cases h
    · cases batch <;> cases h
  | publishing summary m rest =>
    change Except BrokerFailure Unit at answer
    cases answer <;> cases h
  | recording summary outcome rest record =>
    obtain ⟨result, hlast, htold⟩ := Turn.told_of_andThen (record.no_setback answer) h
    rcases result with failure | result
    · refine ⟨.keeping summary.countStoreFailure outcome rest,
        congrArg Turn.progress (Turn.andThen_of_finished hlast _ _), ?_⟩
      exact decide_eq_true (Nat.succ_pos summary.storeFailures)
    · simp only [List.any_append, settle_no_setback, Bool.false_or] at htold
      cases rest <;> cases stop <;> cases htold
  | keeping summary outcome rest => cases rest <;> cases h
  | releasing summary rest =>
    change Except StoreFailure Unit at answer
    cases answer <;> cases h

end Batching

/-! ## Loops -/

namespace Publishing

/-- After a batch that was in vain the loop pauses, for no less than it waits after an empty batch
or than after a failure. -/
theorem pausing_of_vain (stop : Bool) {result : Except StoreFailure BatchSummary}
    (vain : Batching.isVain result = true) : ∃ milliseconds,
      (afterBatch c stop result).progress = .waiting (.pausing milliseconds) ∧
        min c.idleBackoff c.errorBackoff ≤ milliseconds := by
  rcases result with failure | summary
  · exact ⟨_, rfl, Nat.min_le_right ..⟩
  · rw [Batching.isVain, Bool.or_eq_true, decide_eq_true_eq, decide_eq_true_eq] at vain
    simp only [afterBatch]
    split
    · exact ⟨_, rfl, Nat.min_le_right ..⟩
    · next hrecorded =>
      rw [if_pos (vain.resolve_left hrecorded)]
      exact ⟨_, rfl, Nat.min_le_left ..⟩

/-- A loop that tells of a setback is in a batch that could not record an outcome. -/
theorem stuck_of_setback {s : Publishing} {answer : (s.request c).Answer}
    (h : (s.resume c stop carried answer).2.notices.any Notice.isSetback = true) :
    ∃ batch, (s.resume c stop carried answer).2.progress = .waiting (.batching batch) ∧
      batch.isStuck = true := by
  cases s with
  | starting => cases stop <;> cases h
  | batching batch =>
    by_cases hplain : (batch.resume c stop carried answer).2.notices.any Notice.isSetback = true
    · obtain ⟨next, hnext, hstuck⟩ := Batching.stuck_of_setback hplain
      exact ⟨next, congrArg Turn.progress (Turn.andThen_of_waiting hnext _ _), hstuck⟩
    · obtain ⟨result, -, htold⟩ := Turn.told_of_andThen (Bool.eq_false_iff.mpr hplain) h
      rcases result with failure | summary
      · cases htold
      · simp only [afterBatch] at htold
        split at htold
        · cases htold
        · split at htold
          · cases htold
          · cases stop <;> cases htold
  | pausing milliseconds =>
    change Bool at answer
    cases answer <;> cases stop <;> cases h
  | abandoning =>
    simp only [resume] at h
    split at h <;> cases h
  | releasing ids =>
    change Except StoreFailure Unit at answer
    cases answer <;> cases h

end Publishing

/-- Handling a receipt that ends with a setback ends because the receipt could not be recorded. -/
theorem Handling.failed_of_setback {s : Handling} {answer : (s.request c).Answer}
    (h : (s.resume c answer).notices.any Notice.isSetback = true) :
    (s.resume c answer).progress = .finished .storeFailed := by
  cases s with
  | recording r rechecks record =>
    obtain ⟨result, hlast, htold⟩ := Turn.told_of_andThen (record.no_setback answer) h
    refine (congrArg Turn.progress (Turn.andThen_of_finished hlast _ _)).trans ?_
    rcases result with failure | ⟨change⟩ | _ | ⟨current⟩
    · rfl
    · cases htold
    · cases htold
    · simp only [conflicted] at htold
      split at htold
      · cases htold
      · split at htold <;> cases htold
  | rechecking => cases h

/-- A consumer's loop that tells of a setback pauses. -/
theorem Consuming.pauses_of_setback {s : Consuming} {answer : (s.request c).Answer}
    (h : (s.resume c stop answer).notices.any Notice.isSetback = true) :
    ∃ next, (s.resume c stop answer).progress = .waiting next ∧
      next.request c = .pause c.errorBackoff := by
  cases s with
  | starting stream => cases stop <;> cases h
  | listening stream =>
    change Heard at answer
    rcases answer with r | failure | _ | givenUp
    · cases h
    · cases h
    · cases h
    · cases givenUp <;> cases stop <;> cases h
  | handling stream work =>
    by_cases hplain : (work.resume c answer).notices.any Notice.isSetback = true
    · have hfailed := Handling.failed_of_setback hplain
      exact ⟨_, congrArg Turn.progress (Turn.andThen_of_finished hfailed _ _), rfl⟩
    · obtain ⟨disposition, -, htold⟩ := Turn.told_of_andThen (Bool.eq_false_iff.mpr hplain) h
      cases disposition <;> cases stop <;> cases htold
  | pausing stream r =>
    change Bool at answer
    cases answer <;> cases h
  | reconnecting stream =>
    change Bool at answer
    cases answer <;> cases h
  | subscribing stream =>
    change Except BrokerFailure StreamId at answer
    rcases answer with failure | fresh
    · exact ⟨_, rfl, rfl⟩
    · cases stop <;> cases h

end Setbacks

end Outbox
