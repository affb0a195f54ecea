import Outbox.Proofs.Interplay.Turn
/-!
# `Proofs.Interplay.Record` — how statuses and history entries are written

Every status is moved, and every history entry written, by a recording, whoever carries it out: a
publisher, a consumer, or a caller of its own. Between the move and the entry the recording holds
the entry in its hands. This module says what one turn of a recording does, finds the recording in
the work of any call, and sums both up in what a step of the interplay does to the statuses, the
history and the entries in hand.
-/

namespace Outbox

/-! ## What an answer says -/

namespace Request

/-- The entry that has been added to the history. -/
def appended? : (r : Request) → r.Answer → Option HistoryEntry
  | .append entry, answer =>
    match (answer : Except StoreFailure Unit) with
    | .ok () => some entry
    | .error _ => none
  | _, _ => none

/-- Whether an entry could not be added to the history. -/
def failsAppend : (r : Request) → r.Answer → Bool
  | .append _, answer =>
    match (answer : Except StoreFailure Unit) with
    | .ok () => false
    | .error _ => true
  | _, _ => false

/-- The entry that could not be added to the history. -/
def refused? : (r : Request) → r.Answer → Option HistoryEntry
  | .append entry, answer =>
    match (answer : Except StoreFailure Unit) with
    | .ok () => none
    | .error _ => some entry
  | _, _ => none

/-- The entry for the step that has been made to record an outcome. -/
def made? (outcome : Outcome) : (r : Request) → r.Answer → Option HistoryEntry
  | .update _ _, answer =>
    match (answer : Except StoreFailure (Transition × Stamp)) with
    | .ok (_, stamp) =>
      some (.make stamp.entryId outcome.id outcome.target outcome.detail stamp.time)
    | .error _ => none
  | _, _ => none

theorem failsAppend_of_refused {r : Request} {answer : r.Answer} {entry : HistoryEntry}
    (h : r.refused? answer = some entry) : r.failsAppend answer = true := by
  cases r with
  | append other =>
    change Except StoreFailure Unit at answer
    cases answer with
    | error failure => rfl
    | ok => cases h
  | _ => cases h

/-- Whether a status or an entry is to be written. -/
def isWrite : Request → Bool
  | .update _ _ | .append _ => true
  | _ => false

end Request

/-! ## Recordings -/

namespace Recording

/-- The entry that a recording has yet to write. -/
def due? : Recording → Option HistoryEntry
  | .updating _ _ | .updatePause _ _ => none
  | .appending _ entry _ | .appendPause _ entry _ => some entry

/-- The entry that a recording has yet to write, and how often that has been tried again. -/
def effort? : Recording → Option (HistoryEntry × Nat)
  | .updating _ _ | .updatePause _ _ => none
  | .appending _ entry tries | .appendPause _ entry tries => some (entry, tries)

theorem due?_eq_effort? (rec : Recording) : rec.due? = rec.effort?.map Prod.fst := by
  cases rec <;> rfl

/-- What is recorded. -/
def outcome : Recording → Outcome
  | .updating outcome _ | .updatePause outcome _ => outcome
  | .appending _ entry _ | .appendPause _ entry _ => ⟨entry.messageId, entry.status, entry.detail⟩

/-- The entry that a recording has yet to write is for the step that it has made. -/
def Agrees : Recording → Prop
  | .updating _ _ | .updatePause _ _ => True
  | .appending change entry _ | .appendPause change entry _ =>
    change.id = entry.messageId ∧ change.new = entry.status

@[simp]
theorem outcome_begin (outcome : Outcome) : (begin outcome).outcome = outcome := rfl

@[simp]
theorem due?_begin (outcome : Outcome) : (begin outcome).due? = none := rfl

@[simp]
theorem agrees_begin (outcome : Outcome) : (begin outcome).Agrees := trivial

end Recording

namespace Interplay

/-- What a turn of a recording does; `mid` is the state in which it was answered. -/
inductive RecordTurn (s mid : System) (rec : Recording) {r : Request} (answer : r.Answer) :
    Progress Recording (Except StoreFailure RecordResult) → Prop
  /-- A write has failed and will be tried again, or the wait before that is over. -/
  | waits {rec' : Recording} (outcome : rec'.outcome = rec.outcome)
      (due : rec'.due? = rec.due?) (agrees : rec.Agrees → rec'.Agrees)
      (store : s.store.Same mid.store) (history : mid.history = s.history)
      (appended : r.appended? answer = none) : RecordTurn s mid rec answer (.waiting rec')
  /-- The status has moved; the entry is to be written next. -/
  | moves {old : Status} {stamp : Stamp} (due : rec.due? = none)
      (store : s.store.Moved rec.outcome.id old rec.outcome.target mid.store)
      (history : mid.history = s.history) (appended : r.appended? answer = none) :
      RecordTurn s mid rec answer (.waiting (.appending ⟨rec.outcome.id, old, rec.outcome.target⟩
        (.make stamp.entryId rec.outcome.id rec.outcome.target rec.outcome.detail stamp.time) 0))
  /-- The entry has been written. -/
  | appends {change : Transition} {entry : HistoryEntry} {tries : Nat}
      (state : rec = .appending change entry tries) (store : s.store.Same mid.store)
      (history : mid.history = s.history.append entry)
      (appended : r.appended? answer = some entry) :
      RecordTurn s mid rec answer (.finished (.ok (.recorded change)))
  /-- The store knows no such message. -/
  | unknown (due : rec.due? = none) (status : s.store.status? rec.outcome.id = none)
      (store : s.store.Same mid.store) (history : mid.history = s.history)
      (appended : r.appended? answer = none) :
      RecordTurn s mid rec answer (.finished (.ok .notFound))
  /-- The step is not legal. -/
  | refused {current : Status} (due : rec.due? = none)
      (status : s.store.status? rec.outcome.id = some current)
      (illegal : ¬ Status.Step current rec.outcome.target) (store : s.store.Same mid.store)
      (history : mid.history = s.history) (appended : r.appended? answer = none) :
      RecordTurn s mid rec answer (.finished (.ok (.conflict current)))
  /-- A write has failed for the last time. -/
  | fails {failure : StoreFailure} (due : rec.due? = none ∨ r.failsAppend answer = true)
      (store : s.store.Same mid.store) (history : mid.history = s.history)
      (appended : r.appended? answer = none) :
      RecordTurn s mid rec answer (.finished (.error failure))

section RecordTurn

variable {s mid : System} {t : TaskId} {call : Call} {fate : Fate} {c : Config}

/-- **One turn of a recording.** -/
theorem recordTurn {rec : Recording} {answer : (rec.request c).Answer} (hs : s.store.Sound)
    (h : s.answer? t call fate (rec.request c) = some (answer, mid)) :
    RecordTurn s mid rec answer (rec.resume c answer).progress := by
  cases rec with
  | updating outcome tries =>
    obtain ⟨store, rfl, ⟨reason, rfl, hsame⟩ | ⟨rfl, hstatus, hsame⟩ |
      ⟨current, rfl, hstatus, hillegal, hsame⟩ | ⟨old, stamp, rfl, hmoved⟩⟩ := answer_update hs h
    · simp only [Recording.resume]
      split
      · exact .waits rfl rfl id hsame rfl rfl
      · exact .fails (.inl rfl) hsame rfl rfl
    · exact .unknown rfl hstatus hsame rfl rfl
    · exact .refused rfl hstatus hillegal hsame rfl rfl
    · exact .moves rfl hmoved rfl rfl
  | updatePause outcome tries =>
    obtain ⟨rfl, -⟩ := answer_sleep h
    exact .waits rfl rfl id (.refl _) rfl rfl
  | appending change entry tries =>
    rcases answer_append h with ⟨rfl, rfl⟩ | ⟨reason, rfl, rfl⟩
    · exact .appends rfl (.refl _) rfl rfl
    · simp only [Recording.resume]
      split
      · exact .waits rfl rfl id (.refl _) rfl rfl
      · exact .fails (.inr rfl) (.refl _) rfl rfl
  | appendPause change entry tries =>
    obtain ⟨rfl, -⟩ := answer_sleep h
    exact .waits rfl rfl id (.refl _) rfl rfl

end RecordTurn

/-! ## The recordings of the calls -/

end Interplay

/-- The recording of a receipt. -/
def Handling.record? : Handling → Option Recording
  | .recording _ _ record => some record
  | .rechecking _ _ => none

/-- The recording of a batch. -/
def Batching.record? : Batching → Option Recording
  | .recovering _ _ record | .recording _ _ _ record => some record
  | .opening | .freeing .. | .fetching _ | .publishing .. | .keeping .. | .releasing .. => none

/-- The recording of the consumer's loop. -/
def Consuming.record? : Consuming → Option Recording
  | .handling _ work => work.record?
  | .starting _ | .listening _ | .pausing .. | .reconnecting _ | .subscribing _ => none

/-- The recording of the publisher's loop. -/
def Publishing.record? : Publishing → Option Recording
  | .batching batch => batch.record?
  | .starting | .pausing _ | .abandoning | .releasing _ => none

namespace Interplay

/-- The recording that a call is at. -/
def Work.record? : Work → Option Recording
  | .recording record => some record
  | .handling work => work.record?
  | .consuming work => work.record?
  | .batching _ batch => batch.record?
  | .publishing _ work => work.record?

/-- No recording, or one that has just begun. -/
def Fresh (record : Option Recording) : Prop :=
  ∀ rec, record = some rec → ∃ outcome, rec = .begin outcome

theorem fresh_none : Fresh none := by
  intro rec h
  cases h

theorem fresh_begin (outcome : Outcome) : Fresh (some (.begin outcome)) := by
  intro rec h
  cases h
  exact ⟨outcome, rfl⟩

/-- How the recording of a call goes on: from the one before an answer to the one after it. -/
inductive Records (c : Config) :
    (r : Request) → r.Answer → Option Recording → Option Recording → Prop
  /-- The answer is to something else; a recording may begin. -/
  | elsewhere {r : Request} {answer : r.Answer} {next : Option Recording}
      (write : r.isWrite = false) (fresh : Fresh next) : Records c r answer none next
  /-- The recording goes on. -/
  | on {rec rec' : Recording} {answer : (rec.request c).Answer}
      (progress : (rec.resume c answer).progress = .waiting rec') :
      Records c (rec.request c) answer (some rec) (some rec')
  /-- The recording has come to its end; another may begin. -/
  | ends {rec : Recording} {answer : (rec.request c).Answer}
      {result : Except StoreFailure RecordResult} {next : Option Recording}
      (progress : (rec.resume c answer).progress = .finished result) (fresh : Fresh next) :
      Records c (rec.request c) answer (some rec) next

section Records

variable {c : Config} {stop : Bool} {carried : List Outcome}

theorem handling_records (work : Handling) (answer : (work.request c).Answer) :
    Records c (work.request c) answer work.record?
      ((work.resume c answer).progress.look Handling.record? none) := by
  cases work with
  | recording r rechecks rec =>
    cases hp : (rec.resume c answer).progress with
    | waiting rec' =>
      rw [Handling.resume, Turn.andThen_of_waiting hp]
      exact .on hp
    | finished result =>
      rw [Handling.resume, Turn.andThen_of_finished hp]
      refine .ends hp ?_
      rcases result with failure | (change | _ | current)
      · exact fresh_none
      · exact fresh_none
      · exact fresh_none
      · simp only [Handling.conflicted]
        split
        · exact fresh_none
        · split <;> exact fresh_none
  | rechecking r rechecks => exact .elsewhere rfl (fresh_begin _)

theorem fresh_recoverNext (summary : BatchSummary) (carried : List Outcome) :
    Fresh ((Batching.recoverNext summary carried).progress.look Batching.record? none) := by
  cases carried with
  | nil => exact fresh_none
  | cons outcome later => exact fresh_begin outcome

theorem fresh_giveBack (summary : BatchSummary) (rest : List Message) :
    Fresh ((Batching.giveBack summary rest).progress.look Batching.record? none) := by
  cases rest <;> exact fresh_none

theorem fresh_publishNext (stop : Bool) (summary : BatchSummary) (rest : List Message) :
    Fresh ((Batching.publishNext stop summary rest).progress.look Batching.record? none) := by
  cases rest with
  | nil => exact fresh_none
  | cons m rest =>
    rw [Batching.publishNext]
    split <;> exact fresh_none

theorem batching_records (batch : Batching) (answer : (batch.request c).Answer) :
    Records c (batch.request c) answer batch.record?
      ((batch.resume c stop carried answer).2.progress.look Batching.record? none) := by
  cases batch with
  | opening => exact .elsewhere rfl (fresh_recoverNext _ _)
  | recovering summary outcome rec =>
    simp only [Batching.resume]
    cases hp : (rec.resume c answer).progress with
    | waiting rec' => exact .on hp
    | finished result =>
      refine .ends hp ?_
      rcases result with failure | (change | _ | current)
      · exact fresh_none
      · exact fresh_recoverNext _ _
      · exact fresh_none
      · exact fresh_none
  | freeing summary outcome result =>
    refine .elsewhere rfl ?_
    change Except StoreFailure Unit at answer
    rcases answer with failure | ⟨⟩
    · exact fresh_recoverNext _ _
    · exact fresh_recoverNext _ _
  | fetching summary =>
    refine .elsewhere rfl ?_
    change Except StoreFailure (List Message) at answer
    rcases answer with failure | batch
    · exact fresh_none
    · exact fresh_publishNext _ _ _
  | publishing summary m rest =>
    refine .elsewhere rfl ?_
    change Except BrokerFailure Unit at answer
    rcases answer with failure | ⟨⟩
    · exact fresh_begin _
    · exact fresh_begin _
  | recording summary outcome rest rec =>
    simp only [Batching.resume]
    cases hp : (rec.resume c answer).progress with
    | waiting rec' =>
      rw [Turn.andThen_of_waiting hp]
      exact .on hp
    | finished result =>
      rw [Turn.andThen_of_finished hp]
      refine .ends hp ?_
      rcases result with failure | result
      · exact fresh_none
      · exact fresh_publishNext _ _ _
  | keeping summary outcome rest => exact .elsewhere rfl (fresh_giveBack _ _)
  | releasing summary rest =>
    refine .elsewhere rfl ?_
    change Except StoreFailure Unit at answer
    rcases answer with failure | ⟨⟩
    · exact fresh_none
    · exact fresh_none

theorem consuming_goOn (stop : Bool) (stream : StreamId) :
    (Consuming.goOn stop stream).progress.look Consuming.record? none = none := by
  cases stop <;> rfl

theorem consuming_records (work : Consuming) (answer : (work.request c).Answer) :
    Records c (work.request c) answer work.record?
      ((work.resume c stop answer).progress.look Consuming.record? none) := by
  cases work with
  | starting stream =>
    refine .elsewhere rfl ?_
    rw [Consuming.resume, Turn.progress_after, consuming_goOn]
    exact fresh_none
  | listening stream =>
    refine .elsewhere rfl ?_
    change Heard at answer
    rcases answer with r | failure | _ | (_ | _)
    · exact fresh_begin _
    · exact fresh_none
    · exact fresh_none
    · cases stop <;> exact fresh_none
    · exact fresh_none
  | handling stream work =>
    rw [Consuming.resume, Turn.look_andThen fun _ => rfl]
    · exact handling_records work answer
    · intro disposition
      cases disposition
      case storeFailed => rfl
      all_goals exact consuming_goOn stop stream
  | pausing stream r =>
    refine .elsewhere rfl ?_
    change Bool at answer
    cases answer
    · exact fresh_begin _
    · exact fresh_none
  | reconnecting stream =>
    refine .elsewhere rfl ?_
    change Bool at answer
    cases answer
    · exact fresh_none
    · exact fresh_none
  | subscribing stream =>
    refine .elsewhere rfl ?_
    change Except BrokerFailure StreamId at answer
    rcases answer with failure | fresh
    · exact fresh_none
    · cases stop <;> exact fresh_none

theorem record?_afterBatch (stop : Bool) (result : Except StoreFailure BatchSummary) :
    (Publishing.afterBatch c stop result).progress.look Publishing.record? none = none := by
  obtain ⟨next, hwaits, hbetween⟩ := Publishing.afterBatch_waits c stop result
  rw [hwaits]
  cases hbetween <;> rfl

theorem publishing_records (work : Publishing) (answer : (work.request c).Answer) :
    Records c (work.request c) answer work.record?
      ((work.resume c stop carried answer).2.progress.look Publishing.record? none) := by
  cases work with
  | starting =>
    refine .elsewhere rfl ?_
    cases stop <;> exact fresh_none
  | batching batch =>
    rw [Publishing.resume, Turn.look_andThen (fun _ => rfl) (record?_afterBatch stop)]
    exact batching_records batch answer
  | pausing milliseconds =>
    refine .elsewhere rfl ?_
    change Bool at answer
    cases answer
    · cases stop <;> exact fresh_none
    · exact fresh_none
  | abandoning =>
    refine .elsewhere rfl ?_
    simp only [Publishing.resume]
    split <;> exact fresh_none
  | releasing ids =>
    refine .elsewhere rfl ?_
    change Except StoreFailure Unit at answer
    rcases answer with failure | ⟨⟩
    · exact fresh_none
    · exact fresh_none

/-- **The recording of a call goes on by its own turns.** -/
theorem work_records (work : Work) (answer : (work.request c).Answer) :
    Records c (work.request c) answer work.record?
      ((work.resume c stop carried answer).2.progress.look Work.record? none) := by
  cases work with
  | recording rec =>
    cases hp : (rec.resume c answer).progress with
    | waiting rec' =>
      rw [Work.resume, Turn.andThen_of_waiting hp]
      exact .on hp
    | finished result =>
      rw [Work.resume, Turn.andThen_of_finished hp]
      exact .ends hp fresh_none
  | handling work =>
    rw [Work.resume, Turn.look_andThen (fun _ => rfl) fun _ => rfl]
    exact handling_records work answer
  | consuming work =>
    rw [Work.resume, Turn.look_andThen (fun _ => rfl) fun _ => rfl]
    exact consuming_records work answer
  | batching p batch =>
    rw [Work.resume, Turn.look_andThen (fun _ => rfl) fun _ => rfl]
    exact batching_records batch answer
  | publishing p work =>
    rw [Work.resume, Turn.look_andThen (fun _ => rfl) fun _ => rfl]
    exact publishing_records work answer

end Records

/-! ## What a step writes -/

/-- The entry that a step has added to the history. -/
def Event.appended? : Event → Option HistoryEntry
  | .turn _ call answer _ => call.request.appended? answer
  | .outside _ | .start .. => none

/-- Whether a step was an entry that could not be added to the history. -/
def Event.failsAppend : Event → Bool
  | .turn _ call answer _ => call.request.failsAppend answer
  | .outside _ | .start .. => false

/-- The entry that a step could not add to the history. -/
def Event.refused? : Event → Option HistoryEntry
  | .turn _ call answer _ => call.request.refused? answer
  | .outside _ | .start .. => none

/-- The outcome that a call records whose turn it is. -/
def Event.outcome? : Event → Option Outcome
  | .turn _ call _ _ => call.work.record?.map Recording.outcome
  | .outside _ | .start .. => none

/-- The entry for the step of a message that a call has made. -/
def Event.made? : Event → Option HistoryEntry
  | .turn _ call answer _ =>
    (call.work.record?.map Recording.outcome).bind fun outcome => call.request.made? outcome answer
  | .outside _ | .start .. => none

/-- How often a call tries again whose turn it is. -/
def Event.retries : Event → Nat
  | .turn _ call _ _ => call.config.storeRetries
  | .outside _ | .start .. => 0

/-- The entry that a call has yet to write. -/
def Work.due? (w : Work) : Option HistoryEntry :=
  w.record?.bind Recording.due?

/-- The entry that a call has yet to write, and how often that has been tried again. -/
def Work.effort? (w : Work) : Option (HistoryEntry × Nat) :=
  w.record?.bind Recording.effort?

/-- The entry that a task has yet to write. -/
def System.dueOf (s : System) (t : TaskId) : Option HistoryEntry :=
  s.look Work.due? none t

/-- The entry that a task has yet to write, and how often that has been tried again. -/
def System.effortOf (s : System) (t : TaskId) : Option (HistoryEntry × Nat) :=
  s.look Work.effort? none t

theorem Work.due?_eq_effort? (w : Work) : w.due? = w.effort?.map Prod.fst := by
  rw [Work.due?, Work.effort?]
  cases w.record? with
  | none => rfl
  | some rec => exact rec.due?_eq_effort?

theorem System.dueOf_eq_effortOf (s : System) (t : TaskId) :
    s.dueOf t = (s.effortOf t).map Prod.fst := by
  rw [System.dueOf, System.effortOf, System.look, System.look]
  cases s.calls.get? t with
  | none => rfl
  | some call => exact call.work.due?_eq_effort?

/-- No status has changed, but there may be a new message. -/
def Quiet (s s' : Store) : Prop :=
  ∀ id, s'.status? id = s.status? id ∨ (s.status? id = none ∧ s'.status? id = some .pending)

theorem quiet_of_same {s s' : Store} (h : s.Same s') : Quiet s s' :=
  fun id => .inl (h.status? id)

/-- What a step writes: the entry for a step of a message that was made, an entry that was added to
the history, and one that could not be added, by a task that tries again up to `retries` times. The
last two are the entry that the task has yet to write before and after, each with how often that has
been tried again. -/
inductive Booked (retries : Nat) (s s' : System) :
    (made appended refused : Option HistoryEntry) → (before after : Option (HistoryEntry × Nat)) →
    Prop
  | nothing {effort : Option (HistoryEntry × Nat)} (quiet : Quiet s.store s'.store)
      (writes : s'.store.writes = s.store.writes) (history : s'.history = s.history) :
      Booked retries s s' none none none effort effort
  /-- A status has moved, and the entry for it is to be written. -/
  | made {old : Status} {entry : HistoryEntry}
      (moved : s.store.Moved entry.messageId old entry.status s'.store)
      (history : s'.history = s.history) :
      Booked retries s s' (some entry) none none none (some (entry, 0))
  /-- The entry has been written. -/
  | appended {entry : HistoryEntry} {tries : Nat} (quiet : Quiet s.store s'.store)
      (writes : s'.store.writes = s.store.writes) (history : s'.history = s.history.append entry) :
      Booked retries s s' none (some entry) none (some (entry, tries)) none
  /-- The entry could not be written, which will be tried again. -/
  | refused {entry : HistoryEntry} {tries : Nat} (again : tries < retries)
      (quiet : Quiet s.store s'.store) (writes : s'.store.writes = s.store.writes)
      (history : s'.history = s.history) :
      Booked retries s s' none none (some entry) (some (entry, tries)) (some (entry, tries + 1))
  /-- The entry could not be written for the last time, and is given up. -/
  | givenUp {entry : HistoryEntry} {tries : Nat} (last : retries ≤ tries)
      (quiet : Quiet s.store s'.store) (writes : s'.store.writes = s.store.writes)
      (history : s'.history = s.history) :
      Booked retries s s' none none (some entry) (some (entry, tries)) none

/-- What a call makes of the answer writes nothing more. -/
theorem Booked.settled {retries : Nat} {s mid s' : System}
    {made appended refused : Option HistoryEntry} {before after : Option (HistoryEntry × Nat)}
    (h : Booked retries s mid made appended refused before after)
    (hstore : s'.store = mid.store) (hhistory : s'.history = mid.history) :
    Booked retries s s' made appended refused before after := by
  cases h with
  | nothing hquiet hwrites hmid =>
    exact .nothing (hstore ▸ hquiet) (hstore ▸ hwrites) (hhistory.trans hmid)
  | made hmoved hmid => exact .made (hstore ▸ hmoved) (hhistory.trans hmid)
  | appended hquiet hwrites hmid =>
    exact .appended (hstore ▸ hquiet) (hstore ▸ hwrites) (hhistory.trans hmid)
  | refused hagain hquiet hwrites hmid =>
    exact .refused hagain (hstore ▸ hquiet) (hstore ▸ hwrites) (hhistory.trans hmid)
  | givenUp hlast hquiet hwrites hmid =>
    exact .givenUp hlast (hstore ▸ hquiet) (hstore ▸ hwrites) (hhistory.trans hmid)

/-- What a step writes, and the entry that a task has yet to write before and after it. -/
inductive Written (s s' : System) (e : Event) :
    Option HistoryEntry → Option HistoryEntry → Prop
  /-- Nothing has been written. -/
  | nothing {entry : Option HistoryEntry} (quiet : Quiet s.store s'.store)
      (history : s'.history = s.history) (appended : e.appended? = none) : Written s s' e entry entry
  /-- A status has moved, and the task has yet to write the entry for it. -/
  | status {old : Status} {entry : HistoryEntry}
      (moved : s.store.Moved entry.messageId old entry.status s'.store)
      (history : s'.history = s.history) (appended : e.appended? = none) :
      Written s s' e none (some entry)
  /-- The task has written its entry. -/
  | entry {entry : HistoryEntry} (quiet : Quiet s.store s'.store)
      (history : s'.history = s.history.append entry) (appended : e.appended? = some entry) :
      Written s s' e (some entry) none
  /-- The task has given up the entry. -/
  | lost {entry : HistoryEntry} (quiet : Quiet s.store s'.store)
      (history : s'.history = s.history) (appended : e.appended? = none)
      (failed : e.failsAppend = true) : Written s s' e (some entry) none

section Written

variable {s mid s' : System} {t : TaskId} {call : Call} {fate : Fate} {c : Config}

/-- An answer to something that is no write moves no status and adds no entry. -/
theorem booked_elsewhere {r : Request} {answer : r.Answer} {retries : Nat}
    {effort : Option (HistoryEntry × Nat)} (hs : s.store.Sound)
    (hr : r.isWrite = false) (h : s.answer? t call fate r = some (answer, mid)) :
    Booked retries s mid none (r.appended? answer) (r.refused? answer) effort effort := by
  have unchanged : Quiet s.store s.store := quiet_of_same (.refl _)
  cases r with
  | proceed =>
    rw [answer_proceed h]
    exact .nothing unchanged rfl rfl
  | enter =>
    rw [(answer_enter h).1]
    exact .nothing unchanged rfl rfl
  | fetch =>
    obtain ⟨store, rfl, ⟨_, -, hsame⟩ | ⟨_, -, hfetched⟩⟩ := answer_fetch hs h
    · exact .nothing (quiet_of_same hsame) hsame.writes rfl
    · exact .nothing (fun id => .inl (hfetched.status? id)) hfetched.writes rfl
  | update | append => cases hr
  | release =>
    obtain ⟨store, rfl, ⟨_, -, hsame⟩ | ⟨-, hreleased⟩⟩ := answer_release h
    · exact .nothing (quiet_of_same hsame) hsame.writes rfl
    · exact .nothing (fun id => .inl (hreleased.status? id)) hreleased.writes rfl
  | publish =>
    obtain ⟨broker, rfl, -⟩ := answer_publish h
    exact .nothing unchanged rfl rfl
  | subscribe =>
    obtain ⟨broker, rfl, -⟩ := answer_subscribe h
    exact .nothing unchanged rfl rfl
  | sleep =>
    rw [(answer_sleep h).1]
    exact .nothing unchanged rfl rfl
  | pause =>
    rw [answer_pause h]
    exact .nothing unchanged rfl rfl
  | receive =>
    obtain ⟨broker, rfl, -⟩ := answer_receive h
    exact .nothing unchanged rfl rfl
  | ready | take | listen | launch | halt | join => cases h

/-- What one turn of a recording writes. -/
theorem booked_recording {rec : Recording} {answer : (rec.request c).Answer} (hs : s.store.Sound)
    (h : s.answer? t call fate (rec.request c) = some (answer, mid)) :
    Booked c.storeRetries s mid ((rec.request c).made? rec.outcome answer)
      ((rec.request c).appended? answer) ((rec.request c).refused? answer) rec.effort?
      ((rec.resume c answer).progress.look Recording.effort? none) := by
  cases rec with
  | updating outcome tries =>
    obtain ⟨store, rfl, ⟨reason, rfl, hsame⟩ | ⟨rfl, -, hsame⟩ | ⟨current, rfl, -, -, hsame⟩ |
      ⟨old, stamp, rfl, hmoved⟩⟩ := answer_update hs h
    · simp only [Recording.resume]
      split <;> exact .nothing (quiet_of_same hsame) hsame.writes rfl
    · exact .nothing (quiet_of_same hsame) hsame.writes rfl
    · exact .nothing (quiet_of_same hsame) hsame.writes rfl
    · exact .made hmoved rfl
  | updatePause outcome tries =>
    obtain ⟨rfl, -⟩ := answer_sleep h
    exact .nothing (quiet_of_same (.refl _)) rfl rfl
  | appending change entry tries =>
    have hquiet : Quiet s.store s.store := quiet_of_same (.refl _)
    rcases answer_append h with ⟨rfl, rfl⟩ | ⟨reason, rfl, rfl⟩
    · exact .appended hquiet rfl rfl
    · simp only [Recording.resume]
      split
      · next hagain => exact .refused (of_decide_eq_true hagain).2 hquiet rfl rfl
      · next hlast =>
        refine .givenUp (Nat.le_of_not_lt fun hlt => hlast ?_) hquiet rfl rfl
        exact decide_eq_true ⟨rfl, hlt⟩
  | appendPause change entry tries =>
    obtain ⟨rfl, -⟩ := answer_sleep h
    exact .nothing (quiet_of_same (.refl _)) rfl rfl

theorem effort?_of_fresh {next : Option Recording} (h : Fresh next) :
    next.bind Recording.effort? = none := by
  cases next with
  | none => rfl
  | some rec =>
    obtain ⟨outcome, rfl⟩ := h rec rfl
    rfl

/-- What an answer writes, and the entry that the call has yet to write. -/
theorem booked_of_records {r : Request} {answer : r.Answer} {before after : Option Recording}
    (hs : s.store.Sound) (hr : Records c r answer before after)
    (h : s.answer? t call fate r = some (answer, mid)) :
    Booked c.storeRetries s mid
      ((before.map Recording.outcome).bind fun outcome => r.made? outcome answer)
      (r.appended? answer) (r.refused? answer)
      (before.bind Recording.effort?) (after.bind Recording.effort?) := by
  cases hr with
  | elsewhere hwrite hfresh =>
    rw [effort?_of_fresh hfresh]
    exact booked_elsewhere hs hwrite h
  | @on rec rec' _ hp =>
    have hbooked := booked_recording hs h
    rw [hp] at hbooked
    exact hbooked
  | @ends rec _ result _ hp hfresh =>
    have hbooked := booked_recording hs h
    rw [hp] at hbooked
    rw [effort?_of_fresh hfresh]
    exact hbooked

/-- **What a step writes.** At most one call takes its turn, and writes a status or an entry. -/
theorem Step.booked {e : Event} (hs : s.store.Sound) (h : Step s e s') :
    ∃ t, (∀ u, u ≠ t → s'.calls.get? u = s.calls.get? u) ∧
      Booked e.retries s s' e.made? e.appended? e.refused? (s.effortOf t) (s'.effortOf t) := by
  rcases Step.cases h with ⟨o, rfl, hallowed, rfl⟩ | ⟨t, c, job, rfl, hstart⟩ |
    ⟨t, call, answer, stop, result, mid, rfl, hturn⟩
  · obtain ⟨hhistory, -, hcalls, hstore⟩ := outside_cases hallowed
    -- nobody writes, so any task will do
    refine ⟨0, fun u _ => by rw [hcalls], ?_⟩
    rw [show (s.apply o).effortOf 0 = s.effortOf 0 from System.look_congr (by rw [hcalls]) ..]
    rcases hstore with hsame | ⟨m, hinserted⟩
    · exact .nothing (quiet_of_same hsame) hsame.writes hhistory
    · refine .nothing (fun id => ?_) hinserted.writes hhistory
      rw [hinserted.status?]
      split
      · next hid => exact .inr ⟨hid ▸ hinserted.fresh, rfl⟩
      · exact .inl rfl
  · -- no job begins with an entry that is to be written
    have hbefore : s.effortOf t = none := System.look_of_absent hstart.absent ..
    have hafter : s'.effortOf t = none := by
      rw [System.effortOf, hstart.look, if_pos rfl]
      cases job <;> rfl
    refine ⟨t, fun u hu => ?_, ?_⟩
    · rw [hstart.state, Table.get?_put, if_neg (Ne.symm hu)]
    · rw [hbefore, hafter, hstart.state]
      exact .nothing (quiet_of_same (.refl _)) rfl rfl
  · obtain ⟨fate, hanswer⟩ := hturn.answered
    refine ⟨t, fun u hu => ?_, ?_⟩
    · rw [hturn.calls, if_neg (Ne.symm hu)]
    · have hbefore : s.effortOf t = call.work.record?.bind Recording.effort? :=
        hturn.look_before ..
      have hafter : s'.effortOf t = ((s.turnOf call stop answer).2.progress.look
          Work.record? none).bind Recording.effort? := by
        rw [System.effortOf, hturn.look, if_pos rfl]
        cases (s.turnOf call stop answer).2.progress <;> rfl
      rw [hbefore, hafter]
      refine Booked.settled ?_ hturn.store hturn.history
      exact booked_of_records hs (work_records call.work answer) hanswer

/-- What a step writes, if it does not matter how often that has been tried. -/
theorem Step.written {e : Event} (hs : s.store.Sound) (h : Step s e s') :
    ∃ t, (∀ u, u ≠ t → s'.dueOf u = s.dueOf u) ∧ Written s s' e (s.dueOf t) (s'.dueOf t) := by
  obtain ⟨t, hothers, hbooked⟩ := h.booked hs
  refine ⟨t, fun u hu => System.look_congr (hothers u hu) .., ?_⟩
  rw [System.dueOf_eq_effortOf, System.dueOf_eq_effortOf]
  generalize s.effortOf t = before at hbooked
  generalize s'.effortOf t = after at hbooked
  generalize e.made? = made at hbooked
  generalize happended : e.appended? = appended at hbooked
  generalize hrefused : e.refused? = refused at hbooked
  cases hbooked with
  | nothing hquiet _ hhistory | refused _ hquiet _ hhistory =>
    exact .nothing hquiet hhistory happended
  | made hmoved hhistory => exact .status hmoved hhistory happended
  | appended hquiet _ hhistory => exact .entry hquiet hhistory happended
  | givenUp _ hquiet _ hhistory =>
    refine .lost hquiet hhistory happended ?_
    cases e with
    | turn => exact Request.failsAppend_of_refused hrefused
    | outside | start => cases hrefused

end Written

/-! ## Messages that have made a step -/

/-- A message that is no longer pending. -/
def Settled (s : Store) (id : MessageId) : Prop :=
  ∃ status, s.status? id = some status ∧ status ≠ .pending

section Settled

variable {s s' : System} {e : Event} {id : MessageId} {trace : List Moment}

theorem Settled.not_pending {s : Store} (h : Settled s id) : s.status? id ≠ some .pending := by
  obtain ⟨status, hstatus, hne⟩ := h
  rw [hstatus, Ne, Option.some.injEq]
  exact hne

theorem Settled.of_quiet {s s' : Store} (h : Settled s id) (hquiet : Quiet s s') :
    Settled s' id := by
  obtain ⟨status, hstatus, hne⟩ := h
  rcases hquiet id with hsame | ⟨hnone, -⟩
  · exact ⟨status, hsame.trans hstatus, hne⟩
  · rw [hstatus] at hnone
    cases hnone

theorem settled_of_moved {s s' : Store} {old new : Status} (h : s.Moved id old new s') :
    Settled s' id := by
  refine ⟨new, ?_, ?_⟩
  · rw [h.status?, if_pos rfl]
  · rintro rfl
    cases h.legal

theorem Settled.of_moved {s s' : Store} {other : MessageId} {old new : Status} (h : Settled s id)
    (hmoved : s.Moved other old new s') : Settled s' id := by
  by_cases hid : other = id
  · subst hid
    exact settled_of_moved hmoved
  · obtain ⟨status, hstatus, hne⟩ := h
    refine ⟨status, ?_, hne⟩
    rw [hmoved.status?, if_neg hid, hstatus]

/-- A message that has made a step is never pending again. -/
theorem Step.settled (hs : s.store.Sound) (h : Step s e s') (hid : Settled s.store id) :
    Settled s'.store id := by
  obtain ⟨t, -, hwritten⟩ := h.written hs
  generalize s.dueOf t = before at hwritten
  generalize s'.dueOf t = after at hwritten
  cases hwritten with
  | nothing hquiet | entry hquiet | lost hquiet => exact hid.of_quiet hquiet
  | status hmoved => exact hid.of_moved hmoved

/-- The message of an entry that is to be written has made a step. -/
theorem Run.due_settled (run : Run .initial trace s) {t : TaskId} {entry : HistoryEntry}
    (hdue : s.dueOf t = some entry) : Settled s.store entry.messageId := by
  induction run generalizing t entry with
  | nil => cases hdue
  | @snoc trace s s' e run h ih =>
    obtain ⟨u, hothers, hwritten⟩ := h.written run.sound
    by_cases htu : t = u
    · -- the task had the entry before, or has just made the step
      subst htu
      rw [hdue] at hwritten
      generalize hbefore : s.dueOf t = before at hwritten
      cases hwritten with
      | nothing hquiet => exact (ih hbefore).of_quiet hquiet
      | status hmoved => exact settled_of_moved hmoved
    · rw [hothers t htu] at hdue
      exact h.settled run.sound (ih hdue)

/-- A message whose life has ended keeps its status. -/
theorem Step.terminal (hs : s.store.Sound) (h : Step s e s') {status : Status}
    (hstatus : s.store.status? id = some status) (hterminal : status.isTerminal = true) :
    s'.store.status? id = some status := by
  have hquiet (h : Quiet s.store s'.store) : s'.store.status? id = some status := by
    rcases h id with hsame | ⟨hnone, -⟩
    · exact hsame.trans hstatus
    · rw [hstatus] at hnone
      cases hnone
  obtain ⟨t, -, hwritten⟩ := h.written hs
  generalize s.dueOf t = before at hwritten
  generalize s'.dueOf t = after at hwritten
  cases hwritten with
  | nothing h | entry h | lost h => exact hquiet h
  | @status old entry hmoved =>
    rw [hmoved.status?]
    split
    · next hid =>
      -- no step leads on from the end of a life
      have hwas := hmoved.was
      rw [hid, hstatus] at hwas
      have hlegal := hmoved.legal
      rw [← Option.some.inj hwas] at hlegal
      generalize entry.status = new at hlegal
      cases hlegal <;> cases hterminal
    · exact hstatus

theorem Run.terminal {s₀ : System} (run : Run s₀ trace s) (hs : s₀.store.Sound) {status : Status}
    (hstatus : s₀.store.status? id = some status) (hterminal : status.isTerminal = true) :
    s.store.status? id = some status := by
  have h := run.invariant (I := fun _ s => s.store.Sound ∧ s.store.status? id = some status)
    ⟨hs, hstatus⟩ fun _ ⟨hs, hstatus⟩ h => ⟨h.sound hs, h.terminal hs hstatus hterminal⟩
  exact h.2

/-- The message of an entry that is to be written has the status of the entry, if its life has ended
with it. -/
theorem Run.due_terminal (run : Run .initial trace s) {t : TaskId} {entry : HistoryEntry}
    (hdue : s.dueOf t = some entry) (hterminal : entry.status.isTerminal = true) :
    s.store.status? entry.messageId = some entry.status := by
  induction run generalizing t entry with
  | nil => cases hdue
  | @snoc trace s s' e run h ih =>
    obtain ⟨u, hothers, hwritten⟩ := h.written run.sound
    by_cases htu : t = u
    · subst htu
      rw [hdue] at hwritten
      generalize hbefore : s.dueOf t = before at hwritten
      cases hwritten with
      | nothing => exact h.terminal run.sound (ih hbefore hterminal) hterminal
      | status hmoved => rw [hmoved.status?, if_pos rfl]
    · rw [hothers t htu] at hdue
      exact h.terminal run.sound (ih hdue hterminal) hterminal

end Settled

end Interplay

end Outbox
