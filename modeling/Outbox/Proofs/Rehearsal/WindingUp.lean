import Outbox.Proofs.Rehearsal.Heed
/-!
# `Proofs.Rehearsal.WindingUp` — what a loop still does when it is to stop

A loop that is to stop is not cut short: it goes on by the answers that it gets, and these may take
it through the carried outcomes, one message, and the retries of what it records. This module says of
one turn of such a loop what it can lead to. Of the turns that are left it uses up one; the message
that may still be published is published or not, but not another one; and what a batch has in hand it
lets go only when it is done with it.
-/

namespace Outbox

open Interplay

/-! ## Turns that are left -/

/-- A bound on the turns that it takes to record an outcome, and one more. -/
def Config.turnsToRecord (c : Config) : Nat :=
  4 * c.storeRetries + 3

theorem Recording.turnsLeft_le (c : Config) (rec : Recording) :
    rec.turnsLeft c ≤ c.turnsToRecord := by
  cases rec <;> simp only [turnsLeft, Config.turnsToRecord] <;> omega

theorem Recording.turnsLeft_begin_lt (c : Config) (outcome : Outcome) :
    (begin outcome).turnsLeft c < c.turnsToRecord := by
  rw [turnsLeft_begin]
  exact Nat.lt_succ_self _

/-- A bound on the turns that a loop with such a batch can still take when it is to stop, if its
publisher carries so many outcomes. -/
def Batching.turnsLeft (c : Config) (carried : Nat) : Batching → Nat
  | .opening | .freeing .. => carried * c.turnsToRecord + c.turnsToRecord + 7
  | .recovering _ _ record =>
    record.turnsLeft c + (carried - 1) * c.turnsToRecord + c.turnsToRecord + 7
  | .fetching _ => c.turnsToRecord + 6
  | .publishing .. => c.turnsToRecord + 5
  | .recording _ _ _ record => record.turnsLeft c + 5
  | .keeping .. => 5
  | .releasing .. => 4

/-- A bound on the turns that a publisher's loop can still take when it is to stop. -/
def Publishing.turnsLeft (c : Config) (carried : Nat) : Publishing → Nat
  | .batching batch => batch.turnsLeft c carried
  | .starting | .pausing _ => 3
  | .abandoning => 2
  | .releasing _ => 1

/-- A bound on the turns that a consumer's loop can still take when it is to stop. -/
def Consuming.turnsLeft (c : Config) : Consuming → Nat
  | .starting _ | .pausing .. | .reconnecting _ => 1
  | .subscribing _ => 2
  | .listening _ => c.turnsToHandle + 1
  | .handling _ work => work.turnsLeft c + 1

namespace Batching

variable {c : Config} {carried : List Outcome}

/-- To go on with the carried outcomes takes fewer turns than there are for that. -/
theorem turnsLeft_recoverNext (c : Config) (summary : BatchSummary) (carried : List Outcome) :
    (recoverNext summary carried).progress.look (turnsLeft c carried.length) 3 <
      carried.length * c.turnsToRecord + c.turnsToRecord + 7 := by
  cases carried with
  | nil =>
    simp only [recoverNext, Turn.progress_wait, Progress.look, turnsLeft]
    omega
  | cons outcome rest =>
    have hbegin := Recording.turnsLeft_begin_lt c outcome
    simp only [recoverNext, Turn.progress_wait, Progress.look, turnsLeft, List.length_cons,
      Nat.add_sub_cancel]
    rw [Nat.add_one_mul rest.length]
    omega

theorem turnsLeft_giveBack (c : Config) (summary : BatchSummary) (rest : List Message) (n : Nat) :
    (giveBack summary rest).progress.look (turnsLeft c n) 3 ≤ 4 := by
  cases rest with
  | nil => exact Nat.le_succ 3
  | cons m rest => exact Nat.le_refl 4

theorem turnsLeft_publishNext (c : Config) (summary : BatchSummary) (rest : List Message)
    (n : Nat) : (publishNext true summary rest).progress.look (turnsLeft c n) 3 ≤ 4 := by
  cases rest with
  | nil => exact Nat.le_succ 3
  | cons m rest => exact Nat.le_refl 4

/-- **Every turn of a batch uses up one of those that are left.** The last one leaves some for the
loop. -/
theorem turnsLeft_lt {s : Batching} (carried : List Outcome) (answer : (s.request c).Answer) :
    (s.resume c true carried answer).2.progress.look
        (turnsLeft c (s.resume c true carried answer).1.length) 3 <
      s.turnsLeft c carried.length := by
  cases s with
  | opening => exact turnsLeft_recoverNext ..
  | recovering summary outcome record =>
    have hpos := Recording.turnsLeft_pos c record
    have htail (summary : BatchSummary) :
        (recoverNext summary carried.tail).progress.look (turnsLeft c carried.tail.length) 3 <
          (carried.length - 1) * c.turnsToRecord + c.turnsToRecord + 7 := by
      have hnext := turnsLeft_recoverNext c summary carried.tail
      rw [List.length_tail] at hnext ⊢
      exact hnext
    simp only [resume]
    split
    · next record' hrecord =>
      have hlt := Recording.turnsLeft_lt hrecord
      simp only [Progress.look, turnsLeft]
      omega
    · simp only [Progress.look, turnsLeft]
      omega
    · next change _ =>
      refine Nat.lt_of_lt_of_le (htail _) ?_
      simp only [turnsLeft]
      omega
    · simp only [Progress.look, turnsLeft, List.length_tail]
      omega
  | freeing summary outcome result =>
    change Except StoreFailure Unit at answer
    cases answer <;> exact turnsLeft_recoverNext ..
  | fetching summary =>
    change Except StoreFailure (List Message) at answer
    rcases answer with failure | ⟨_ | ⟨m, rest⟩⟩
    · show 3 < _
      simp only [turnsLeft]
      omega
    · show 3 < _
      simp only [turnsLeft]
      omega
    · exact Nat.lt_succ_self _
  | publishing summary m rest =>
    change Except BrokerFailure Unit at answer
    have hbegin := Recording.turnsLeft_begin_lt c (outcomeOf m answer)
    have hnext : (Recording.begin (outcomeOf m answer)).turnsLeft c + 5 < c.turnsToRecord + 5 := by
      omega
    cases answer <;> exact hnext
  | recording summary outcome rest record =>
    have hpos := Recording.turnsLeft_pos c record
    cases hp : (record.resume c answer).progress with
    | waiting record' =>
      have hlt := Recording.turnsLeft_lt hp
      rw [resume, Turn.andThen_of_waiting hp]
      simp only [Progress.look, turnsLeft]
      omega
    | finished result =>
      rw [resume, Turn.andThen_of_finished hp]
      simp only [turnsLeft]
      rcases result with failure | result
      · show 5 < _
        omega
      · have hnext := turnsLeft_publishNext c (settle outcome result summary).1 rest carried.length
        refine Nat.lt_of_le_of_lt hnext ?_
        omega
  | keeping summary outcome rest =>
    exact Nat.lt_succ_of_le (turnsLeft_giveBack ..)
  | releasing summary rest =>
    change Except StoreFailure Unit at answer
    cases answer <;> exact Nat.lt_succ_self 3

/-- A bound on all turns that a batch and the loop after it take. -/
theorem turnsLeft_le (c : Config) (n : Nat) (s : Batching) :
    s.turnsLeft c n ≤ (n + 2) * c.turnsToRecord + 7 := by
  have hsub : (n - 1) * c.turnsToRecord ≤ n * c.turnsToRecord :=
    Nat.mul_le_mul_right _ (Nat.sub_le n 1)
  rw [Nat.add_mul]
  cases s with
  | recovering _ _ record | recording _ _ _ record =>
    have hrecord := record.turnsLeft_le c
    simp only [turnsLeft]
    omega
  | _ =>
    simp only [turnsLeft]
    omega

end Batching

/-- Whether the batch is about to begin, when it gets to itself what its publisher carries. -/
def Batching.isOpening : Batching → Bool
  | .opening => true
  | _ => false

/-- A batch begins but once. -/
theorem Batching.not_opening {c : Config} {stop : Bool} {s : Batching} (carried : List Outcome)
    (answer : (s.request c).Answer) :
    (s.resume c stop carried answer).2.progress.look isOpening false = false := by
  have hrecover (summary : BatchSummary) (carried : List Outcome) :
      (recoverNext summary carried).progress.look isOpening false = false := by
    cases carried <;> rfl
  have hpublish (stop : Bool) (summary : BatchSummary) (rest : List Message) :
      (publishNext stop summary rest).progress.look isOpening false = false := by
    cases rest <;> cases stop <;> rfl
  cases s with
  | opening => exact hrecover ..
  | recovering summary outcome record =>
    simp only [resume]
    split
    · rfl
    · rfl
    · exact hrecover ..
    · rfl
  | freeing summary outcome result =>
    change Except StoreFailure Unit at answer
    cases answer <;> exact hrecover ..
  | fetching summary =>
    change Except StoreFailure (List Message) at answer
    cases answer with
    | error failure => rfl
    | ok batch => exact hpublish ..
  | publishing summary m rest =>
    change Except BrokerFailure Unit at answer
    cases answer <;> rfl
  | recording summary outcome rest record =>
    cases hp : (record.resume c answer).progress with
    | waiting record' =>
      rw [resume, Turn.andThen_of_waiting hp]
      rfl
    | finished result =>
      rw [resume, Turn.andThen_of_finished hp]
      rcases result with failure | result
      · rfl
      · exact hpublish ..
  | keeping summary outcome rest => cases rest <;> rfl
  | releasing summary rest =>
    change Except StoreFailure Unit at answer
    cases answer <;> rfl

namespace Publishing

variable {c : Config} {carried : List Outcome}

/-- A loop that is to stop and has come to the end of a batch pauses or gives up what it carries. -/
theorem afterBatch_of_stop (c : Config) (result : Except StoreFailure BatchSummary) :
    (∃ milliseconds, (afterBatch c true result).progress = .waiting (.pausing milliseconds)) ∨
      (afterBatch c true result).progress = .waiting .abandoning := by
  rcases result with failure | summary
  · exact .inl ⟨_, rfl⟩
  · simp only [afterBatch]
    split
    · exact .inl ⟨_, rfl⟩
    · split
      · exact .inl ⟨_, rfl⟩
      · exact .inr rfl

/-- A loop that is to stop shows of its next state what its batch does, if that is nothing that a
loop shows when it pauses or gives up what it carries. -/
theorem look_batching {β : Type} {f : Publishing → β} {g : Batching → β} {b : β} {batch : Batching}
    (answer : (batch.request c).Answer) (same : ∀ batch, f (.batching batch) = g batch)
    (pausing : ∀ milliseconds, f (.pausing milliseconds) = b) (abandoning : f .abandoning = b) :
    ((batching batch).resume c true carried answer).2.progress.look f b =
      (batch.resume c true carried answer).2.progress.look g b := by
  refine Turn.look_andThen same fun result => ?_
  rcases afterBatch_of_stop c result with ⟨milliseconds, hnext⟩ | hnext
  · rw [hnext]
    exact pausing milliseconds
  · rw [hnext]
    exact abandoning

theorem turnsLeft_afterBatch (c : Config) (result : Except StoreFailure BatchSummary) (n : Nat) :
    (afterBatch c true result).progress.look (turnsLeft c n) 0 ≤ 3 := by
  rcases afterBatch_of_stop c result with ⟨milliseconds, hnext⟩ | hnext
  · rw [hnext]
    exact Nat.le_refl 3
  · rw [hnext]
    exact Nat.le_succ 2

/-- **Every turn of a publisher's loop that is to stop uses up one of those that are left.** -/
theorem turnsLeft_lt {s : Publishing} (carried : List Outcome) (answer : (s.request c).Answer) :
    (s.resume c true carried answer).2.progress.look
        (turnsLeft c (s.resume c true carried answer).1.length) 0 <
      s.turnsLeft c carried.length := by
  cases s with
  | starting => exact Nat.lt_succ_self 2
  | batching batch =>
    have hbatch := batch.turnsLeft_lt carried answer
    simp only [resume]
    generalize batch.resume c true carried answer = out at hbatch ⊢
    obtain ⟨carried', turn⟩ := out
    cases hp : turn.progress with
    | waiting batch' =>
      rw [Turn.andThen_of_waiting hp]
      simp only [hp] at hbatch
      exact hbatch
    | finished result =>
      rw [Turn.andThen_of_finished hp]
      simp only [hp] at hbatch
      exact Nat.lt_of_le_of_lt (turnsLeft_afterBatch c result _) hbatch
  | pausing milliseconds =>
    change Bool at answer
    cases answer <;> exact Nat.lt_succ_self 2
  | abandoning =>
    simp only [resume]
    split
    · exact Nat.zero_lt_succ 1
    · exact Nat.lt_succ_self 1
  | releasing ids =>
    change Except StoreFailure Unit at answer
    cases answer <;> exact Nat.zero_lt_succ 0

theorem turnsLeft_le (c : Config) (n : Nat) (s : Publishing) :
    s.turnsLeft c n ≤ (n + 2) * c.turnsToRecord + 7 := by
  cases s with
  | batching batch => exact batch.turnsLeft_le c n
  | starting | pausing | abandoning | releasing =>
    simp only [turnsLeft]
    omega

/-- Whether the loop is about to begin a batch. -/
def isOpening : Publishing → Bool
  | .batching batch => batch.isOpening
  | .starting | .pausing _ | .abandoning | .releasing _ => false

/-- A loop that is to stop does not begin another batch. -/
theorem not_opening {s : Publishing} (carried : List Outcome) (answer : (s.request c).Answer) :
    (s.resume c true carried answer).2.progress.look isOpening false = false := by
  cases s with
  | starting => rfl
  | batching batch =>
    exact (look_batching answer (fun _ => rfl) (fun _ => rfl) rfl).trans
      (Batching.not_opening carried answer)
  | pausing milliseconds =>
    change Bool at answer
    cases answer <;> rfl
  | abandoning =>
    simp only [resume]
    split <;> rfl
  | releasing ids =>
    change Except StoreFailure Unit at answer
    cases answer <;> rfl

/-- A bound on the turns that a publisher's loop can still take when it is to stop, if its publisher
carries so many outcomes by now and `n` when the loop comes to have them to itself. -/
def turnsLeftFrom (c : Config) (n carried : Nat) (s : Publishing) : Nat :=
  s.turnsLeft c (if s.isInside then carried else n)

/-- What is carried matters only to a loop that has it to itself, or is about to. -/
theorem turnsLeftFrom_eq (c : Config) (n carried : Nat) {s : Publishing}
    (same : s.isOpening = true → carried = n) :
    s.turnsLeftFrom c n carried = s.turnsLeft c carried := by
  cases s with
  | batching batch =>
    cases batch with
    | opening => rw [same rfl, turnsLeftFrom, ite_self]
    | _ => rfl
  | _ => rfl

/-- **Every turn of a publisher's loop that is to stop uses up one of those that are left**, whatever
others have changed before it has the carried outcomes to itself. -/
theorem turnsLeftFrom_lt {s : Publishing} {n : Nat} (carried : List Outcome)
    (answer : (s.request c).Answer)
    (same : s.isOpening = true → carried.length = n) :
    (s.resume c true carried answer).2.progress.look
        (turnsLeftFrom c n (s.resume c true carried answer).1.length) 0 <
      s.turnsLeftFrom c n carried.length := by
  have hlt := turnsLeft_lt carried answer
  have hopening := not_opening carried answer
  rw [turnsLeftFrom_eq c n carried.length same]
  cases hp : (s.resume c true carried answer).2.progress with
  | waiting next =>
    rw [hp] at hlt hopening
    refine Nat.lt_of_le_of_lt (Nat.le_of_eq (turnsLeftFrom_eq c n _ fun opening => ?_)) hlt
    cases opening.symm.trans hopening
  | finished =>
    rw [hp] at hlt
    exact hlt

end Publishing

namespace Handling

theorem turnsLeft_pos (c : Config) (work : Handling) : 0 < work.turnsLeft c := by
  cases work with
  | recording r rechecks record => exact Nat.add_pos_left (record.turnsLeft_pos c) _
  | rechecking r rechecks =>
    simp only [turnsLeft]
    omega

theorem turnsLeft_begin_lt (c : Config) (r : Receipt) : (begin r).turnsLeft c < c.turnsToHandle := by
  simp only [begin, turnsLeft, Recording.turnsLeft_begin, Config.turnsToHandle, Nat.sub_zero]
  rw [Nat.add_one_mul c.recheckAttempts]
  omega

theorem turnsLeft_le (c : Config) (work : Handling) : work.turnsLeft c ≤ c.turnsToHandle := by
  have hrechecks (rechecks : Nat) : (c.recheckAttempts - rechecks) * (4 * c.storeRetries + 3) ≤
      c.recheckAttempts * (4 * c.storeRetries + 3) :=
    Nat.mul_le_mul_right _ (Nat.sub_le ..)
  rw [Config.turnsToHandle, Nat.add_one_mul c.recheckAttempts]
  cases work with
  | recording r rechecks record =>
    have hrecord : record.turnsLeft c ≤ 4 * c.storeRetries + 3 := record.turnsLeft_le c
    have hless := hrechecks rechecks
    simp only [turnsLeft]
    omega
  | rechecking r rechecks =>
    have hless := hrechecks rechecks
    simp only [turnsLeft]
    omega

end Handling

namespace Consuming

variable {c : Config}

/-- **Every turn of a consumer's loop that is to stop uses up one of those that are left.** -/
theorem turnsLeft_lt {s : Consuming} (answer : (s.request c).Answer)
    (heeds : Rehearsal.Heeds true (s.request c) answer) :
    (s.resume c true answer).progress.look (turnsLeft c) 0 < s.turnsLeft c := by
  cases s with
  | starting stream => exact Nat.zero_lt_succ 0
  | listening stream =>
    change Heard at answer
    rcases answer with r | failure | _ | givenUp
    · exact Nat.succ_lt_succ (Handling.turnsLeft_begin_lt c r)
    · exact Nat.succ_lt_succ (Nat.zero_lt_of_lt (Handling.turnsLeft_begin_lt c default))
    · exact Nat.zero_lt_succ _
    · cases givenUp <;> exact Nat.zero_lt_succ _
  | handling stream work =>
    simp only [resume]
    cases hp : (work.resume c answer).progress with
    | waiting work' =>
      rw [Turn.andThen_of_waiting hp]
      exact Nat.succ_lt_succ (Handling.goes_of_resume hp).turnsLeft_lt
    | finished disposition =>
      rw [Turn.andThen_of_finished hp]
      have hpos := work.turnsLeft_pos c
      cases disposition with
      | storeFailed => exact Nat.succ_lt_succ hpos
      | _ => exact Nat.zero_lt_succ _
  | pausing stream r =>
    change answer = true at heeds
    subst heeds
    exact Nat.zero_lt_succ 0
  | reconnecting stream =>
    change answer = true at heeds
    subst heeds
    exact Nat.zero_lt_succ 0
  | subscribing stream =>
    change Except BrokerFailure StreamId at answer
    cases answer
    · exact Nat.lt_succ_self 1
    · exact Nat.zero_lt_succ 1

theorem turnsLeft_le (c : Config) (s : Consuming) : s.turnsLeft c ≤ c.turnsToHandle + 1 := by
  have hpos := Nat.zero_lt_of_lt (Handling.turnsLeft_begin_lt c default)
  cases s with
  | handling stream work => exact Nat.succ_le_succ (work.turnsLeft_le c)
  | _ =>
    simp only [turnsLeft]
    omega

end Consuming

/-! ## Messages that are still published -/

namespace Batching

/-- How many messages may still be handed to the broker when the loop is to stop. -/
def allowance : Batching → Nat
  | .opening | .recovering .. | .freeing .. | .fetching _ => 1
  | .publishing .. | .recording .. | .keeping .. | .releasing .. => 0

/-- How many messages the batch has just handed to the broker, and how many it still may. -/
def handed : Batching → Nat
  | .publishing .. => 1
  | s => s.allowance

variable {c : Config} {carried : List Outcome}

theorem handed_recoverNext (summary : BatchSummary) (carried : List Outcome) :
    (recoverNext summary carried).progress.look handed 0 = 1 := by
  cases carried <;> rfl

theorem handed_publishNext (summary : BatchSummary) (rest : List Message) :
    (publishNext true summary rest).progress.look handed 0 = 0 := by
  cases rest <;> rfl

/-- A batch that is to stop hands over the first of its messages only. -/
theorem handed_le {s : Batching} (carried : List Outcome) (answer : (s.request c).Answer) :
    (s.resume c true carried answer).2.progress.look handed 0 ≤ s.allowance := by
  cases s with
  | opening => exact Nat.le_of_eq (handed_recoverNext ..)
  | recovering summary outcome record =>
    simp only [resume]
    split
    · exact Nat.le_refl 1
    · exact Nat.zero_le 1
    · exact Nat.le_of_eq (handed_recoverNext ..)
    · exact Nat.le_refl 1
  | freeing summary outcome result =>
    change Except StoreFailure Unit at answer
    cases answer <;> exact Nat.le_of_eq (handed_recoverNext ..)
  | fetching summary =>
    change Except StoreFailure (List Message) at answer
    rcases answer with failure | ⟨_ | ⟨m, rest⟩⟩
    · exact Nat.zero_le 1
    · exact Nat.zero_le 1
    · exact Nat.le_refl 1
  | publishing summary m rest =>
    change Except BrokerFailure Unit at answer
    cases answer <;> exact Nat.le_refl 0
  | recording summary outcome rest record =>
    cases hp : (record.resume c answer).progress with
    | waiting record' =>
      rw [resume, Turn.andThen_of_waiting hp]
      exact Nat.le_refl 0
    | finished result =>
      rw [resume, Turn.andThen_of_finished hp]
      rcases result with failure | result
      · exact Nat.le_refl 0
      · exact Nat.le_of_eq (handed_publishNext ..)
  | keeping summary outcome rest => cases rest <;> exact Nat.le_refl 0
  | releasing summary rest =>
    change Except StoreFailure Unit at answer
    cases answer <;> exact Nat.le_refl 0

end Batching

namespace Publishing

variable {c : Config} {carried : List Outcome}

/-- How many messages may still be handed to the broker when the loop is to stop. -/
def allowance : Publishing → Nat
  | .batching batch => batch.allowance
  | .starting | .pausing _ | .abandoning | .releasing _ => 0

/-- How many messages the loop has just handed to the broker, and how many it still may. -/
def handed : Publishing → Nat
  | .batching batch => batch.handed
  | .starting | .pausing _ | .abandoning | .releasing _ => 0

/-- A publisher's loop that is to stop hands over as many messages as its batch. -/
theorem handed_le {s : Publishing} (carried : List Outcome) (answer : (s.request c).Answer) :
    (s.resume c true carried answer).2.progress.look handed 0 ≤ s.allowance := by
  cases s with
  | starting => exact Nat.le_refl 0
  | batching batch =>
    have hnext : ((batching batch).resume c true carried answer).2.progress.look handed 0 =
        (batch.resume c true carried answer).2.progress.look Batching.handed 0 :=
      look_batching answer (fun _ => rfl) (fun _ => rfl) rfl
    rw [hnext]
    exact batch.handed_le carried answer
  | pausing milliseconds =>
    change Bool at answer
    cases answer <;> exact Nat.le_refl 0
  | abandoning =>
    simp only [resume]
    split <;> exact Nat.le_refl 0
  | releasing ids =>
    change Except StoreFailure Unit at answer
    cases answer <;> exact Nat.le_refl 0

end Publishing

/-! ## What a batch has in hand -/

/-- Whether it is told that the outcome of a message is dropped. -/
def Notice.Drops (id : MessageId) : Notice → Prop
  | .claimedMessageGone other _ | .outcomeConflict other _ _ => other = id
  | _ => False

/-- A recording that has made its step and written the entry has come to its end with that. -/
theorem Recording.appended_of_recorded {c : Config} {rec : Recording}
    {answer : (rec.request c).Answer} {change : Transition}
    (h : (rec.resume c answer).progress = .finished (.ok (.recorded change))) :
    ∃ entry, (rec.request c).appended? answer = some entry ∧
      entry.messageId = rec.outcome.id := by
  cases rec with
  | updating outcome tries =>
    change Except StoreFailure (Transition × Stamp) at answer
    rcases answer with failure | ⟨change', stamp⟩
    · simp only [resume] at h
      split at h
      · cases h
      · cases failure <;> cases h
    · cases h
  | updatePause outcome tries => cases h
  | appending change' entry tries =>
    change Except StoreFailure Unit at answer
    rcases answer with failure | ⟨⟩
    · simp only [resume] at h
      split at h <;> cases h
    · exact ⟨entry, rfl, rfl⟩
  | appendPause change' entry tries => cases h

namespace Batching

/-- The message that is with the broker, or whose outcome is neither recorded nor carried yet. -/
def inHand? : Batching → Option MessageId
  | .publishing _ m _ => some m.id
  | .recording _ outcome _ _ | .keeping _ outcome _ => some outcome.id
  | .opening | .recovering .. | .freeing .. | .fetching _ | .releasing .. => none

/-- The messages of the batch that come after the one in hand. -/
def unpublished : Batching → List Message
  | .publishing _ _ rest | .recording _ _ rest _ | .keeping _ _ rest => rest
  | .opening | .recovering .. | .freeing .. | .fetching _ | .releasing .. => []

variable {c : Config} {carried : List Outcome} {s : Batching} {id : MessageId}

/-- **A message in hand is let go only when its outcome is recorded, dropped or carried.** -/
theorem finishes (carried : List Outcome) (answer : (s.request c).Answer) (aligned : s.Aligned)
    (hand : s.inHand? = some id) :
    (s.resume c true carried answer).2.progress.look inHand? none = some id ∨
      (∃ entry, (s.request c).appended? answer = some entry ∧ entry.messageId = id) ∨
      (∃ notice ∈ (s.resume c true carried answer).2.notices, notice.Drops id) ∨
      ∃ outcome : Outcome, outcome.id = id ∧
        (s.resume c true carried answer).1 = carried ++ [outcome] := by
  cases s with
  | opening | recovering | freeing | fetching | releasing => cases hand
  | publishing summary m rest =>
    cases hand
    change Except BrokerFailure Unit at answer
    cases answer <;> exact .inl rfl
  | recording summary outcome rest record =>
    cases hand
    cases hp : (record.resume c answer).progress with
    | waiting record' =>
      rw [resume, Turn.andThen_of_waiting hp]
      exact .inl rfl
    | finished result =>
      rcases result with failure | (change | _ | current)
      · rw [resume, Turn.andThen_of_finished hp]
        exact .inl rfl
      · obtain ⟨entry, hentry, habout⟩ := Recording.appended_of_recorded hp
        exact .inr (.inl ⟨entry, hentry, habout.trans aligned⟩)
      · rw [resume, Turn.andThen_of_finished hp]
        exact .inr (.inr (.inl ⟨.claimedMessageGone outcome.id outcome.target, by simp [settle], rfl⟩))
      · rw [resume, Turn.andThen_of_finished hp]
        exact .inr (.inr (.inl
          ⟨.outcomeConflict outcome.id current outcome.target, by simp [settle], rfl⟩))
  | keeping summary outcome rest =>
    cases hand
    exact .inr (.inr (.inr ⟨outcome, rfl, rfl⟩))

/-- **The rest of a batch is let go only by asking for its release, and that of all of it.** -/
theorem givesBack (carried : List Outcome) (answer : (s.request c).Answer)
    (more : s.unpublished ≠ []) :
    ∃ next, (s.resume c true carried answer).2.progress = .waiting next ∧
      (next.unpublished = s.unpublished ∨
        next.request c = .release (s.unpublished.map Message.id)) := by
  cases s with
  | opening | recovering | freeing | fetching | releasing => cases more rfl
  | publishing summary m rest =>
    change Except BrokerFailure Unit at answer
    cases answer <;> exact ⟨_, rfl, .inl rfl⟩
  | recording summary outcome rest record =>
    cases hp : (record.resume c answer).progress with
    | waiting record' =>
      rw [resume, Turn.andThen_of_waiting hp]
      exact ⟨_, rfl, .inl rfl⟩
    | finished result =>
      rw [resume, Turn.andThen_of_finished hp]
      rcases result with failure | result
      · exact ⟨_, rfl, .inl rfl⟩
      · cases rest with
        | nil => cases more rfl
        | cons m rest => exact ⟨_, rfl, .inr rfl⟩
  | keeping summary outcome rest =>
    cases rest with
    | nil => cases more rfl
    | cons m rest => exact ⟨_, rfl, .inr rfl⟩

end Batching

/-- Whatever a part of a turn tells is told. -/
theorem Turn.mem_notices_andThen {σ τ α β : Type} {turn : Turn σ α} {notice : Notice}
    (h : notice ∈ turn.notices) (wrap : σ → τ) (next : α → Turn τ β) :
    notice ∈ (turn.andThen wrap next).notices := by
  cases hp : turn.progress with
  | waiting state =>
    rw [andThen_of_waiting hp]
    exact h
  | finished outcome =>
    rw [andThen_of_finished hp]
    exact List.mem_append_left _ h

namespace Publishing

/-- The message that is with the broker, or whose outcome is neither recorded nor carried yet. -/
def inHand? : Publishing → Option MessageId
  | .batching batch => batch.inHand?
  | .starting | .pausing _ | .abandoning | .releasing _ => none

/-- The messages of the batch that come after the one in hand. -/
def unpublished : Publishing → List Message
  | .batching batch => batch.unpublished
  | .starting | .pausing _ | .abandoning | .releasing _ => []

variable {c : Config} {carried : List Outcome} {s : Publishing} {id : MessageId}

theorem finishes (carried : List Outcome) (answer : (s.request c).Answer) (aligned : s.Aligned)
    (hand : s.inHand? = some id) :
    (s.resume c true carried answer).2.progress.look inHand? none = some id ∨
      (∃ entry, (s.request c).appended? answer = some entry ∧ entry.messageId = id) ∨
      (∃ notice ∈ (s.resume c true carried answer).2.notices, notice.Drops id) ∨
      ∃ outcome : Outcome, outcome.id = id ∧
        (s.resume c true carried answer).1 = carried ++ [outcome] := by
  cases s with
  | starting | pausing | abandoning | releasing => cases hand
  | batching batch =>
    rcases Batching.finishes carried answer aligned hand with
      hstill | hwritten | ⟨notice, htold, hdrops⟩ | hcarried
    · exact .inl ((look_batching answer (fun _ => rfl) (fun _ => rfl) rfl).trans hstill)
    · exact .inr (.inl hwritten)
    · have hall : notice ∈ ((batching batch).resume c true carried answer).2.notices :=
        Turn.mem_notices_andThen htold batching (afterBatch c true)
      exact .inr (.inr (.inl ⟨notice, hall, hdrops⟩))
    · exact .inr (.inr (.inr hcarried))

theorem givesBack (carried : List Outcome) (answer : (s.request c).Answer)
    (more : s.unpublished ≠ []) :
    ∃ next, (s.resume c true carried answer).2.progress = .waiting next ∧
      (next.unpublished = s.unpublished ∨
        next.request c = .release (s.unpublished.map Message.id)) := by
  cases s with
  | starting | pausing | abandoning | releasing => cases more rfl
  | batching batch =>
    obtain ⟨next, hnext, hrest⟩ := Batching.givesBack carried answer more
    refine ⟨.batching next, ?_, hrest⟩
    simp only [resume]
    rw [Turn.andThen_of_waiting hnext]

end Publishing

/-! ## Entries that have yet to be written -/

/-- What can become of an entry that has yet to be written: it stays to be written, it is, or its
loss is told. -/
def Request.Accounts (entry : HistoryEntry) (r : Request) (answer : r.Answer)
    (next : Option HistoryEntry) (notices : List Notice) : Prop :=
  next = some entry ∨ r.appended? answer = some entry ∨
    ∃ change failure, .entryLost change failure ∈ notices

/-- What a part of a turn does about an entry the turn does. -/
theorem Request.Accounts.andThen {σ τ α β : Type} {entry : HistoryEntry} {r : Request}
    {answer : r.Answer} {turn : Turn σ α} {wrap : σ → τ} {next : α → Turn τ β}
    {due : σ → Option HistoryEntry} {due' : τ → Option HistoryEntry}
    (h : r.Accounts entry answer (turn.progress.look due none) turn.notices)
    (same : ∀ s, due' (wrap s) = due s) :
    r.Accounts entry answer ((turn.andThen wrap next).progress.look due' none)
      (turn.andThen wrap next).notices := by
  rcases h with hstill | hwritten | ⟨change, failure, htold⟩
  · obtain ⟨state, hstate, hdue⟩ := Progress.waiting_of_look hstill (Option.some_ne_none _).symm
    refine .inl ?_
    rw [Turn.andThen_of_waiting hstate]
    exact (same state).trans hdue
  · exact .inr (.inl hwritten)
  · exact .inr (.inr ⟨change, failure, Turn.mem_notices_andThen htold wrap next⟩)

section Entries

variable {c : Config} {stop : Bool} {carried : List Outcome} {entry : HistoryEntry}

/-- A recording that has made its step does not end without having tried to write the entry. -/
theorem Recording.accounts {rec : Recording} (answer : (rec.request c).Answer)
    (due : rec.due? = some entry) :
    (rec.request c).Accounts entry answer ((rec.resume c answer).progress.look due? none)
      (rec.resume c answer).notices := by
  cases rec with
  | updating | updatePause => cases due
  | appendPause change other tries =>
    cases due
    exact .inl rfl
  | appending change other tries =>
    cases due
    change Except StoreFailure Unit at answer
    rcases answer with failure | ⟨⟩
    · simp only [resume]
      split
      · exact .inl rfl
      · exact .inr (.inr ⟨change, failure, List.mem_cons_self ..⟩)
    · exact .inr (.inl rfl)

theorem Handling.accounts {work : Handling} (answer : (work.request c).Answer)
    (due : work.record?.bind Recording.due? = some entry) :
    (work.request c).Accounts entry answer
      ((work.resume c answer).progress.look (fun next => next.record?.bind Recording.due?) none)
      (work.resume c answer).notices := by
  cases work with
  | recording r rechecks record =>
    exact Request.Accounts.andThen (Recording.accounts answer due) fun _ => rfl
  | rechecking => cases due

theorem Batching.accounts {s : Batching} (answer : (s.request c).Answer)
    (due : s.record?.bind Recording.due? = some entry) :
    (s.request c).Accounts entry answer
      ((s.resume c stop carried answer).2.progress.look
        (fun next => next.record?.bind Recording.due?) none)
      (s.resume c stop carried answer).2.notices := by
  cases s with
  | opening | freeing | fetching | publishing | keeping | releasing => cases due
  | recording summary outcome rest record =>
    exact Request.Accounts.andThen (Recording.accounts answer due) fun _ => rfl
  | recovering summary outcome record =>
    have hrecord := Recording.accounts answer (due : record.due? = some entry)
    simp only [resume]
    split
    · next record' hp =>
      rw [hp] at hrecord
      exact hrecord
    · next failure hp =>
      rw [hp] at hrecord
      exact hrecord
    · next change hp =>
      rw [hp] at hrecord
      rcases hrecord with hnone | hwritten | ⟨change, failure, htold⟩
      · cases hnone
      · exact .inr (.inl hwritten)
      · exact .inr (.inr ⟨change, failure, List.mem_append_left _ htold⟩)
    · next result _ hp =>
      rw [hp] at hrecord
      exact hrecord

theorem Publishing.accounts {s : Publishing} (answer : (s.request c).Answer)
    (due : s.record?.bind Recording.due? = some entry) :
    (s.request c).Accounts entry answer
      ((s.resume c stop carried answer).2.progress.look
        (fun next => next.record?.bind Recording.due?) none)
      (s.resume c stop carried answer).2.notices := by
  cases s with
  | starting | pausing | abandoning | releasing => cases due
  | batching batch =>
    exact Request.Accounts.andThen (Batching.accounts answer due) fun _ => rfl

theorem Consuming.accounts {s : Consuming} (answer : (s.request c).Answer)
    (due : s.record?.bind Recording.due? = some entry) :
    (s.request c).Accounts entry answer
      ((s.resume c stop answer).progress.look
        (fun next => next.record?.bind Recording.due?) none)
      (s.resume c stop answer).notices := by
  cases s with
  | starting | listening | pausing | reconnecting | subscribing => cases due
  | handling stream work =>
    exact Request.Accounts.andThen (Handling.accounts answer due) fun _ => rfl

end Entries

/-! ## Receipts that are still taken, and how the loops end -/

/-- A consumer's loop that is to stop does not wait for another receipt. -/
theorem Consuming.not_listening {c : Config} {s next : Consuming} {answer : (s.request c).Answer}
    (h : (s.resume c true answer).progress = .waiting next) (stream : StreamId) :
    next ≠ .listening stream := by
  rintro rfl
  cases s with
  | starting stream => cases h
  | listening stream =>
    change Heard at answer
    rcases answer with r | failure | _ | givenUp
    · cases h
    · cases h
    · cases h
    · cases givenUp <;> cases h
  | handling stream work =>
    rcases Turn.waiting_cases h with ⟨work', -, hnext⟩ | ⟨disposition, -, hlast⟩
    · cases hnext
    · cases disposition <;> cases hlast
  | pausing stream r =>
    change Bool at answer
    cases answer <;> cases h
  | reconnecting stream =>
    change Bool at answer
    cases answer <;> cases h
  | subscribing stream =>
    change Except BrokerFailure StreamId at answer
    cases answer <;> cases h

/-- A publisher's loop takes the carried outcomes away before it gives up the claims on their
messages. -/
theorem Publishing.abandons {c : Config} {stop : Bool} {carried : List Outcome}
    {s : Publishing} {ids : List MessageId} {answer : (s.request c).Answer}
    (h : (s.resume c stop carried answer).2.progress = .waiting (.releasing ids)) :
    (s.resume c stop carried answer).1 = [] := by
  cases s with
  | starting => cases stop <;> cases h
  | batching batch =>
    rcases Turn.waiting_cases h with ⟨batch', -, hnext⟩ | ⟨result, -, hlast⟩
    · cases hnext
    · obtain ⟨between, hwaits, hbetween⟩ := afterBatch_waits c stop result
      cases hwaits.symm.trans hlast
      cases hbetween
  | pausing milliseconds =>
    change Bool at answer
    cases answer <;> cases stop <;> cases h
  | abandoning =>
    simp only [resume] at h ⊢
    split <;> rfl
  | releasing ids =>
    change Except StoreFailure Unit at answer
    cases answer <;> cases h

/-- A publisher's loop ends once it has taken the carried outcomes away. -/
theorem Publishing.leaves {c : Config} {stop : Bool} {carried : List Outcome}
    {s : Publishing} {answer : (s.request c).Answer}
    (h : (s.resume c stop carried answer).2.progress = .finished ()) :
    (s.resume c stop carried answer).1 = [] ∨
      (∃ ids, s = .releasing ids) ∧ (s.resume c stop carried answer).1 = carried := by
  cases s with
  | starting => cases stop <;> cases h
  | batching batch =>
    obtain ⟨result, -, hlast⟩ := Turn.finished_cases h
    obtain ⟨between, hwaits, -⟩ := afterBatch_waits c stop result
    cases hwaits.symm.trans hlast
  | pausing milliseconds =>
    change Bool at answer
    cases answer <;> cases stop <;> cases h
  | abandoning =>
    simp only [resume] at h ⊢
    split <;> exact .inl rfl
  | releasing ids =>
    change Except StoreFailure Unit at answer
    cases answer <;> exact .inr ⟨⟨ids, rfl⟩, rfl⟩

end Outbox
