import Outbox.Proofs.Interplay.Ledger
import Outbox.Proofs.Interplay.Stint
/-!
# `Proofs.Interplay.Hearing` — receipts that are handled while nothing fails

While the store and the history do what they are asked, and no message is pending that a receipt is
about, a receipt is handled in two turns at most. The store is asked to move the status of the
message, and with its answer the receipt is *judged*: the message is unknown, or its life has ended
before, or the step is made. In the last case the history is told, and then the receipt is handled as
well. This module says what the turns do, and that every call can take its turn.
-/

namespace Outbox

/-- Where the handling of a receipt is. -/
inductive Stage
  /-- The store is asked to move the status of the message. -/
  | asking (r : Receipt)
  /-- The step is made, and the history is told. -/
  | telling (r : Receipt) (entry : HistoryEntry)
  deriving DecidableEq

namespace Stage

/-- The receipt that is handled. -/
def receipt : Stage → Receipt
  | .asking r | .telling r _ => r

/-- The receipt that the store is asked about. -/
def asked? : Stage → Option Receipt
  | .asking r => some r
  | .telling .. => none

end Stage

/-- The stage of a handling that has not met with a failure and has not looked again. -/
def Handling.stage? : Handling → Option Stage
  | .recording r _ (.updating outcome _) => if outcome = r.outcome then some (.asking r) else none
  | .recording r _ (.appending change entry _) =>
    if change.new = r.target then some (.telling r entry) else none
  | .recording _ _ (.updatePause ..) | .recording _ _ (.appendPause ..) | .rechecking .. => none

/-- Whether the store or the history has done what it was asked. -/
def Request.isServed : (r : Request) → r.Answer → Bool
  | .update _ _, answer =>
    match (answer : Except StoreFailure (Transition × Stamp)) with
    | .error (.unavailable _) => false
    | .error _ | .ok _ => true
  | .append _, answer =>
    match (answer : Except StoreFailure Unit) with
    | .error _ => false
    | .ok () => true
  | _, _ => true

namespace Interplay

/-- The stage of a call that handles a receipt. -/
def Work.stage? : Work → Option Stage
  | .handling work => work.stage?
  | .recording _ | .consuming _ | .batching .. | .publishing .. => none

/-- The receipt that a call asks the store about. -/
def Work.asked? (w : Work) : Option Receipt :=
  w.stage?.bind Stage.asked?

/-- The receipt that a call handles. -/
def Work.received? (w : Work) : Option Receipt :=
  w.stage?.map Stage.receipt

/-- The stage of a task that handles a receipt. -/
def System.stageOf (s : System) (t : TaskId) : Option Stage :=
  s.look Work.stage? none t

theorem look_asked (s : System) (t : TaskId) :
    s.look Work.asked? none t = (s.stageOf t).bind Stage.asked? := by
  rw [System.stageOf, System.look, System.look]
  cases s.calls.get? t <;> rfl

theorem look_received (s : System) (t : TaskId) :
    s.look Work.received? none t = (s.stageOf t).map Stage.receipt := by
  rw [System.stageOf, System.look, System.look]
  cases s.calls.get? t <;> rfl

/-! ## What a step does with the receipts -/

/-- The receipt whose handling has begun. -/
def Event.begun? : Event → Option Receipt
  | .start _ _ (.handle r) => some r
  | .start .. | .outside _ | .turn .. => none

/-- The receipt about which the store has answered. -/
def Event.judged? : Event → Option Receipt
  | .turn _ call _ _ => call.work.asked?
  | .outside _ | .start .. => none

/-- The receipt whose handling has come to its end, and what became of it. -/
def Event.handled? : Event → Option (Receipt × Disposition)
  | .turn _ call _ (some (.handled d)) => call.work.received?.map fun r => (r, d)
  | .turn .. | .outside _ | .start .. => none

/-- Whether a step is a turn of a call. -/
def Event.isTurn : Event → Bool
  | .turn .. => true
  | .outside _ | .start .. => false

/-- Whether a step is part of handling receipts while nothing fails: a handling begins, a call is
answered by a store or a history that does what it is asked, or time passes. -/
def Event.isHearing : Event → Bool
  | .start _ _ (.handle _) => true
  | .turn _ call answer _ => call.request.isServed answer
  | .outside (.wait _) => true
  | .start .. | .outside _ => false

/-- What becomes of a receipt that cannot be recorded, given the message that it is about. -/
inductive Refuses : Option Message → Disposition → Prop
  /-- The store knows no such message. -/
  | unknown : Refuses none .unknownMessage
  /-- The life of the message has ended before. -/
  | repeats {m : Message} (terminal : m.status.isTerminal = true) :
      Refuses (some m) (.duplicate m.status)

/-- What a turn does with the receipt that is handled: which one is judged, and what has become of
one that has been handled. -/
inductive Hears (s s' : System) (t : TaskId) : Option Receipt → Option (Receipt × Disposition) → Prop
  /-- The receipt cannot be recorded. -/
  | refuses {r : Receipt} {d : Disposition} (stage : s.stageOf t = some (.asking r))
      (ends : s'.calls.get? t = none) (verdict : Refuses (s.store.messages.get? r.messageId) d)
      (store : s'.store = s.store) (history : s'.history = s.history) :
      Hears s s' t (some r) (some (r, d))
  /-- The message makes the step that the receipt reports. -/
  | moves {r : Receipt} {m : Message} {now time : Instant} {entryId : EntryId}
      (stage : s.stageOf t = some (.asking r))
      (next : s'.stageOf t =
        some (.telling r (.make entryId r.messageId r.target r.detail time)))
      (found : s.store.messages.get? r.messageId = some m) (enqueued : m.status = .enqueued)
      (messages : s'.store.messages =
        s.store.messages.put r.messageId { m with status := r.target, updatedAt := now })
      (writes : s'.store.writes = s.store.writes + 1) (failures : s'.store.failures = s.store.failures)
      (updateFailures : s'.store.updateFailures = s.store.updateFailures)
      (history : s'.history = s.history) : Hears s s' t (some r) none
  /-- The step is added to the history. -/
  | tells {r : Receipt} {entry : HistoryEntry} (stage : s.stageOf t = some (.telling r entry))
      (ends : s'.calls.get? t = none) (store : s'.store = s.store)
      (history : s'.history = s.history.append entry) :
      Hears s s' t none (some (r, .applied r.target))

section Turns

variable {s s' mid : System} {t : TaskId} {call : Call} {answer : call.request.Answer} {stop : Bool}
  {result : Option Result} {stage : Stage}

/-- Where a call is that handles a receipt. -/
theorem stage_cases {w : Work} (h : w.stage? = some stage) :
    (∃ r n k, stage = .asking r ∧ w = .handling (.recording r n (.updating r.outcome k))) ∨
    ∃ r n change entry k, stage = .telling r entry ∧ change.new = r.target ∧
      w = .handling (.recording r n (.appending change entry k)) := by
  cases w with
  | handling work =>
    cases work with
    | recording r n rec =>
      cases rec with
      | updating outcome k =>
        simp only [Work.stage?, Handling.stage?] at h
        split at h
        · next houtcome =>
          cases h
          subst houtcome
          exact .inl ⟨r, n, k, rfl, rfl⟩
        · cases h
      | appending change entry k =>
        simp only [Work.stage?, Handling.stage?] at h
        split at h
        · next hnew =>
          cases h
          exact .inr ⟨r, n, change, entry, k, rfl, hnew, rfl⟩
        · cases h
      | updatePause | appendPause => cases h
    | rechecking => cases h
  | recording | consuming | batching | publishing => cases h

/-- A store that is not made to fail refuses an update for a reason, or makes the step. -/
theorem update_faultless {s s' : Store} {id : MessageId} {status : Status} {now : Instant}
    {answer : Except StoreFailure Transition} (hf : s.failures = 0) (hu : s.updateFailures = 0)
    (h : s.update id status now = (answer, s')) :
    (s.messages.get? id = none ∧ answer = .error (.notFound id) ∧ s' = s) ∨
    ∃ m, s.messages.get? id = some m ∧
      ((m.status.canBecome status = false ∧ answer = .error (.conflict id m.status status) ∧
        s' = s) ∨
      (m.status.canBecome status = true ∧ answer = .ok ⟨id, m.status, status⟩ ∧
        s'.messages = s.messages.put id { m with status, updatedAt := now } ∧
        s'.writes = s.writes + 1 ∧ s'.failures = s.failures ∧
        s'.updateFailures = s.updateFailures)) := by
  rw [Store.update, Store.attempt, if_neg (by omega), if_neg (by omega)] at h
  split at h
  · next hnone =>
    cases h
    exact .inl ⟨hnone, rfl, rfl⟩
  · next m hfound =>
    right
    refine ⟨m, hfound, ?_⟩
    split at h
    · next hlegal =>
      cases h
      exact .inr ⟨hlegal, rfl, rfl, rfl, rfl, rfl⟩
    · next hillegal =>
      cases h
      exact .inl ⟨Bool.eq_false_iff.mpr hillegal, rfl, rfl⟩

/-- A receipt can be recorded of an enqueued message, and of no other. -/
theorem canBecome_target (status : Status) (r : Receipt) :
    status.canBecome r.target = true ↔ status = .enqueued := by
  cases h : r.success <;> cases status <;> simp [Receipt.target, h, Status.canBecome]

/-- A message of which a receipt cannot be recorded, and that is not pending, has come to the end of
its life. -/
theorem isTerminal_of_illegal {status : Status} {r : Receipt}
    (h : status.canBecome r.target = false) (hpending : status ≠ .pending) :
    status.isTerminal = true := by
  have henqueued : status ≠ .enqueued :=
    fun heq => Bool.eq_false_iff.mp h ((canBecome_target status r).mpr heq)
  cases status with
  | pending => exact absurd rfl hpending
  | enqueued => exact absurd rfl henqueued
  | notEnqueued | delivered | deliveredFailed => rfl

section Progress

variable {c : Config} {r : Receipt} {n k : Nat}

theorem progress_unknown (id : MessageId) :
    ((Handling.recording r n (.updating r.outcome k)).resume c
      (Except.error (.notFound id))).progress = .finished .unknownMessage := rfl

theorem progress_repeated {id : MessageId} {current status : Status}
    (h : current.isTerminal = true) :
    ((Handling.recording r n (.updating r.outcome k)).resume c
      (Except.error (.conflict id current status))).progress = .finished (.duplicate current) := by
  show (Handling.conflicted c r n current).progress = _
  rw [Handling.conflicted, if_pos h]
  rfl

theorem progress_moved (change : Transition) (stamp : Stamp) :
    ((Handling.recording r n (.updating r.outcome k)).resume c
      (Except.ok (change, stamp))).progress = .waiting (.recording r n (.appending change
        (.make stamp.entryId r.messageId change.new r.detail stamp.time) 0)) := rfl

theorem progress_told (change : Transition) (entry : HistoryEntry) :
    ((Handling.recording r n (.appending change entry k)).resume c
      (Except.ok ())).progress = .finished (.applied change.new) := rfl

end Progress

/-- The stage of a call that is about to take its turn. -/
theorem Turned.stageOf_before {c : Config} {since : Nat} {work : Handling}
    {answer : (Call.request ⟨c, .handling work, since⟩).Answer}
    (h : Turned s t ⟨c, .handling work, since⟩ answer stop result mid s')
    (hstage : work.stage? = some stage) : s.stageOf t = some stage :=
  (h.look_before ..).trans hstage

/-- What is left of a call whose handling has come to its end. -/
theorem Turned.ends_handling {c : Config} {since : Nat} {work : Handling}
    {answer : (Call.request ⟨c, .handling work, since⟩).Answer} {d : Disposition}
    (h : Turned s t ⟨c, .handling work, since⟩ answer stop result mid s')
    (hstage : work.stage? = some stage) (hend : (work.resume c answer).progress = .finished d) :
    Event.handled? (.turn t ⟨c, .handling work, since⟩ answer result) = some (stage.receipt, d) ∧
      s'.calls.get? t = none := by
  have hprogress : (s.turnOf ⟨c, .handling work, since⟩ stop answer).2.progress =
      .finished (.handled d) := by
    simp only [System.turnOf, Work.resume]
    rw [Turn.andThen_of_finished hend]
    rfl
  refine ⟨?_, ?_⟩
  · rw [h.result, hprogress, Progress.outcome?, Event.handled?, Work.received?, Work.stage?, hstage]
    rfl
  · rw [h.calls, if_pos rfl, hprogress]
    rfl

/-- The stage of a call whose handling goes on. -/
theorem Turned.goes_on_handling {c : Config} {since : Nat} {work next : Handling}
    {answer : (Call.request ⟨c, .handling work, since⟩).Answer}
    (h : Turned s t ⟨c, .handling work, since⟩ answer stop result mid s')
    (hnext : (work.resume c answer).progress = .waiting next) :
    result = none ∧ s'.stageOf t = next.stage? := by
  have hprogress : (s.turnOf ⟨c, .handling work, since⟩ stop answer).2.progress =
      .waiting (.handling next) := by
    simp only [System.turnOf, Work.resume]
    rw [Turn.andThen_of_waiting hnext]
  refine ⟨?_, ?_⟩
  · rw [h.result, hprogress]
    rfl
  · rw [System.stageOf, h.look, if_pos rfl, hprogress]
    rfl

section Stages

variable {c : Config} {r : Receipt} {n k since : Nat}

theorem stage?_asking :
    (Handling.recording r n (.updating r.outcome k)).stage? = some (.asking r) :=
  if_pos rfl

theorem stage?_telling {change : Transition} {entry : HistoryEntry} (hnew : change.new = r.target) :
    (Handling.recording r n (.appending change entry k)).stage? = some (.telling r entry) :=
  if_pos hnew

/-- The store does not make the step, and this ends the handling. -/
theorem Turned.refuses {d : Disposition}
    {answer : (Call.request ⟨c, .handling (.recording r n (.updating r.outcome k)), since⟩).Answer}
    (h : Turned s t ⟨c, .handling (.recording r n (.updating r.outcome k)), since⟩ answer stop result
      mid s')
    (hend : ((Handling.recording r n (.updating r.outcome k)).resume c answer).progress =
      .finished d)
    (verdict : Refuses (s.store.messages.get? r.messageId) d) (hstore : mid.store = s.store)
    (hhistory : mid.history = s.history) :
    Hears s s' t (some r) (Event.handled? (.turn t
      ⟨c, .handling (.recording r n (.updating r.outcome k)), since⟩ answer result)) := by
  obtain ⟨hhandled, hends⟩ := h.ends_handling stage?_asking hend
  rw [hhandled]
  exact .refuses (h.stageOf_before stage?_asking) hends verdict (h.store.trans hstore)
    (h.history.trans hhistory)

/-- The history takes the entry, and this ends the handling. -/
theorem Turned.tells {change : Transition} {entry : HistoryEntry}
    {answer :
      (Call.request ⟨c, .handling (.recording r n (.appending change entry k)), since⟩).Answer}
    (h : Turned s t ⟨c, .handling (.recording r n (.appending change entry k)), since⟩ answer stop
      result mid s')
    (hend : ((Handling.recording r n (.appending change entry k)).resume c answer).progress =
      .finished (.applied change.new))
    (hnew : change.new = r.target) (hstore : mid.store = s.store)
    (hhistory : mid.history = s.history.append entry) :
    Hears s s' t none (Event.handled? (.turn t
      ⟨c, .handling (.recording r n (.appending change entry k)), since⟩ answer result)) := by
  obtain ⟨hhandled, hends⟩ := h.ends_handling (stage?_telling hnew) hend
  rw [hhandled, hnew]
  exact .tells (h.stageOf_before (stage?_telling hnew)) hends (h.store.trans hstore)
    (h.history.trans hhistory)

/-- What the turn of a call does that asks the store to move a message which is not pending. -/
theorem Turned.hears_asking
    {answer : (Call.request ⟨c, .handling (.recording r n (.updating r.outcome k)), since⟩).Answer}
    (h : Turned s t ⟨c, .handling (.recording r n (.updating r.outcome k)), since⟩ answer stop result
      mid s')
    (hserved : (Request.update r.messageId r.target).isServed answer = true)
    (hf : s.store.failures = 0) (hu : s.store.updateFailures = 0)
    (hpending : s.store.status? r.messageId ≠ some .pending) :
    Hears s s' t (some r) (Event.handled? (.turn t
      ⟨c, .handling (.recording r n (.updating r.outcome k)), since⟩ answer result)) := by
  obtain ⟨fate, hanswer⟩ := h.answered
  change s.onStore fate (System.stampedUpdate r.messageId r.target) = _ at hanswer
  rcases onStore_cases hanswer with ⟨reason, rfl, rfl⟩ | ⟨clock, stamp, store, hop, rfl⟩
  · cases hserved
  have hsaid := congrArg Prod.fst hop
  have hstore := congrArg Prod.snd hop
  simp only [System.stampedUpdate] at hsaid hstore
  have hupdate : s.store.update r.messageId r.target clock =
      ((s.store.update r.messageId r.target clock).1, store) := by
    rw [← hstore]
  rcases update_faultless hf hu hupdate with
    ⟨hnone, hrefused, hsame⟩ | ⟨m, hfound, ⟨hillegal, hrefused, hsame⟩ |
      ⟨hlegal, hdone, hmessages, hwrites, hfailures, hupdateFailures⟩⟩
  · rw [hrefused] at hsaid
    obtain rfl := hsaid
    exact h.refuses (progress_unknown r.messageId) (hnone ▸ .unknown) hsame rfl
  · rw [hrefused] at hsaid
    obtain rfl := hsaid
    have hterminal : m.status.isTerminal = true := by
      refine isTerminal_of_illegal hillegal fun hm => hpending ?_
      rw [Store.status?, hfound, Option.map_some, hm]
    exact h.refuses (progress_repeated hterminal) (hfound ▸ .repeats hterminal) hsame rfl
  · rw [hdone] at hsaid
    obtain rfl := hsaid
    obtain ⟨rfl, hnext⟩ := h.goes_on_handling
      (progress_moved ⟨r.messageId, m.status, r.target⟩ stamp)
    have hafter : s'.store = store := h.store
    rw [← hafter] at hmessages hwrites hfailures hupdateFailures
    exact .moves (h.stageOf_before stage?_asking) (hnext.trans (stage?_telling rfl))
      hfound ((canBecome_target _ r).mp hlegal) hmessages hwrites hfailures hupdateFailures
      h.history

/-- What the turn of a call does that tells the history of the step. -/
theorem Turned.hears_telling {change : Transition} {entry : HistoryEntry}
    {answer :
      (Call.request ⟨c, .handling (.recording r n (.appending change entry k)), since⟩).Answer}
    (h : Turned s t ⟨c, .handling (.recording r n (.appending change entry k)), since⟩ answer stop
      result mid s')
    (hserved : (Request.append entry).isServed answer = true) (hnew : change.new = r.target) :
    Hears s s' t none (Event.handled? (.turn t
      ⟨c, .handling (.recording r n (.appending change entry k)), since⟩ answer result)) := by
  obtain ⟨fate, hanswer⟩ := h.answered
  rcases answer_append hanswer with ⟨rfl, rfl⟩ | ⟨reason, rfl, rfl⟩
  · exact h.tells (progress_told change entry) hnew rfl rfl
  · cases hserved

end Stages

/-- What the turn of a call does that handles a receipt, if nothing fails and the message is not
pending. -/
theorem Turned.hears (h : Turned s t call answer stop result mid s')
    (hserved : call.request.isServed answer = true) (hstage : call.work.stage? = some stage)
    (hf : s.store.failures = 0) (hu : s.store.updateFailures = 0)
    (hpending : ∀ r, stage = .asking r → s.store.status? r.messageId ≠ some .pending) :
    Hears s s' t (Event.judged? (.turn t call answer result))
      (Event.handled? (.turn t call answer result)) := by
  obtain ⟨config, work, since⟩ := call
  rw [Event.judged?, Work.asked?, hstage]
  rcases stage_cases hstage with ⟨r, n, k, rfl, rfl⟩ | ⟨r, n, change, entry, k, rfl, hnew, rfl⟩
  · exact h.hears_asking hserved hf hu (hpending r rfl)
  · exact h.hears_telling hserved hnew

/-- What a turn does to the places where receipts are: one that is judged is no longer asked about,
one that has been handled has left its call, and the calls that go on handle receipts. -/
theorem Hears.places {judged? : Option Receipt} {result? : Option (Receipt × Disposition)}
    (h : Hears s s' t judged? result?) :
    ((s.stageOf t).bind Stage.asked?).toList =
      judged?.toList ++ ((s'.stageOf t).bind Stage.asked?).toList ∧
    ((s.stageOf t).map Stage.receipt).toList =
      result?.toList.map Prod.fst ++ ((s'.stageOf t).map Stage.receipt).toList ∧
    (s'.stageOf t = none → s'.calls.get? t = none) ∧
    1 ≤ judged?.toList.length + result?.toList.length := by
  cases h with
  | refuses stage ends =>
    have hends : s'.stageOf t = none := System.look_of_absent ends ..
    rw [stage, hends]
    exact ⟨rfl, rfl, fun _ => ends, Nat.le_add_right 1 1⟩
  | moves stage next =>
    rw [stage, next]
    exact ⟨rfl, rfl, nofun, Nat.le_refl 1⟩
  | tells stage ends =>
    have hends : s'.stageOf t = none := System.look_of_absent ends ..
    rw [stage, hends]
    exact ⟨rfl, rfl, fun _ => ends, Nat.le_refl 1⟩

/-- A turn leaves the faults to come as they are. -/
theorem Hears.faults {judged? : Option Receipt} {result? : Option (Receipt × Disposition)}
    (h : Hears s s' t judged? result?) :
    s'.store.failures = s.store.failures ∧ s'.store.updateFailures = s.store.updateFailures := by
  cases h with
  | refuses _ _ _ store | tells _ _ store => rw [store]; exact ⟨rfl, rfl⟩
  | moves _ _ _ _ _ _ failures updateFailures => exact ⟨failures, updateFailures⟩

theorem isServed_update {s : Store} (hf : s.failures = 0) (hu : s.updateFailures = 0)
    (id : MessageId) (status : Status) (clock : Instant) (stamp : Stamp) :
    (Request.update id status).isServed (System.stampedUpdate id status clock stamp s).1 = true := by
  obtain ⟨answer, s', h⟩ : ∃ answer s', s.update id status clock = (answer, s') := ⟨_, _, rfl⟩
  rw [System.stampedUpdate, h]
  rcases update_faultless hf hu h with ⟨-, rfl, -⟩ | ⟨m, -, ⟨-, rfl, -⟩ | ⟨-, rfl, -⟩⟩
  · rfl
  · rfl
  · rfl

/-- Every call that handles a receipt can take its turn, if nothing is made to fail. -/
theorem can_be_heard (hfound : s.calls.get? t = some call) (hstage : call.work.stage? = some stage)
    (hf : s.store.failures = 0) (hu : s.store.updateFailures = 0) :
    ∃ e s', Step s e s' ∧ e.isTurnOf t = true ∧ e.isHearing = true := by
  obtain ⟨config, work, since⟩ := call
  have turn {answer : (work.request config).Answer} {mid : System}
      (hanswer : s.answer? t ⟨config, work, since⟩ (.served default default) (work.request config) =
        some (answer, mid)) (hserved : (work.request config).isServed answer = true) :
      ∃ e s', Step s e s' ∧ e.isTurnOf t = true ∧ e.isHearing = true := by
    obtain ⟨result, s', hstep, -⟩ := exists_turn hfound false hanswer
    exact ⟨_, s', hstep, beq_self_eq_true t, hserved⟩
  rcases stage_cases hstage with ⟨r, n, k, -, rfl⟩ | ⟨r, n, change, entry, k, -, -, rfl⟩
  · exact turn rfl (isServed_update hf hu r.messageId r.target default default)
  · exact turn rfl rfl

end Turns

end Interplay

end Outbox
