import Outbox.Proofs.Interplay.Ledger
/-!
# `Proofs.HistoryAccounts` — what the history is worth

As long as the history refuses no entry more often in a row than a call tries again, nothing is given
up, and the history accounts for every step: what the store has written is the entries and what some
call has yet to write, no step has two entries, and every entry tells what the call that made the
step was told.

When an entry is given up the step stays, for it was made before. Whoever tries to record it again is
told that the step is not legal any more, and takes that for an answer: the outcome is no longer
carried over, and the receipt counts as a duplicate. So the entry is missing for good, and those that
were given up are the only ones that are.
-/

namespace Outbox

/-- What a recording came to by an answer to its request. -/
def Recording.result? (c : Config) : Recording → (r : Request) → r.Answer →
    Option (Except StoreFailure RecordResult)
  | .updating outcome tries, .update _ _, answer =>
    ((Recording.updating outcome tries).resume c answer).progress.outcome?
  | .appending change entry tries, .append _, answer =>
    ((Recording.appending change entry tries).resume c answer).progress.outcome?
  | _, _, _ => none

namespace Interplay

/-- What the recording came to whose turn it was. -/
def Event.recordResult? : Event → Option (Except StoreFailure RecordResult)
  | .turn _ call answer _ =>
    call.work.record?.bind fun rec => rec.result? call.config call.request answer
  | .outside _ | .start .. => none

/-- The step that an entry is for is made, by a call that records what the entry tells. -/
structure Moment.Makes (moment : Moment) (entry : HistoryEntry) : Prop where
  made : moment.event.made? = some entry
  told : moment.event.outcome? = some ⟨entry.messageId, entry.status, entry.detail⟩
  level : entry.level = entry.status.level
  legal : ∃ old, moment.before.store.status? entry.messageId = some old ∧
    Status.Step old entry.status

section Entries

variable {c : Config} {s s' : System} {e : Event} {trace : List Moment} {entry : HistoryEntry}
  {r : Request} {answer : r.Answer}

/-- An entry that is made tells the outcome that is recorded. -/
theorem told_of_made {outcome : Outcome} (h : r.made? outcome answer = some entry) :
    outcome = ⟨entry.messageId, entry.status, entry.detail⟩ ∧ entry.level = entry.status.level := by
  cases r with
  | update id status =>
    change Except StoreFailure (Transition × Stamp) at answer
    cases answer with
    | ok done =>
      cases h
      exact ⟨rfl, rfl⟩
    | error => cases h
  | _ => cases h

/-- An entry that is made is for a legal step. -/
theorem Step.makes (hs : s.store.Sound) (h : Step s e s') (hmade : e.made? = some entry) :
    Moment.Makes ⟨s, e⟩ entry := by
  obtain ⟨houtcome, hlevel⟩ : e.outcome? = some ⟨entry.messageId, entry.status, entry.detail⟩ ∧
      entry.level = entry.status.level := by
    cases e with
    | turn t call answer result =>
      obtain ⟨outcome, houtcome, hmade⟩ := Option.bind_eq_some_iff.mp hmade
      obtain ⟨rfl, hlevel⟩ := told_of_made hmade
      exact ⟨houtcome, hlevel⟩
    | outside | start => cases hmade
  obtain ⟨t, -, hbooked⟩ := h.booked hs
  obtain ⟨old, hmoved⟩ := hbooked.moved_of_made hmade
  exact ⟨hmade, houtcome, hlevel, old, hmoved.was, hmoved.legal⟩

theorem Run.makes (run : Run .initial trace s) {moment : Moment} (hmem : moment ∈ trace)
    (hmade : moment.event.made? = some entry) : moment.Makes entry := by
  induction run with
  | nil => cases hmem
  | snoc run h ih =>
    rcases List.mem_append.mp hmem with hmem | hmem
    · exact ih hmem
    · obtain rfl := List.mem_singleton.mp hmem
      exact h.makes run.sound hmade

/-- The history is what was added to it. -/
theorem Run.history (run : Run .initial trace s) :
    s.history.entries = trace.filterMap fun moment => moment.event.appended? := by
  refine run.invariant (I := fun trace s =>
    s.history.entries = trace.filterMap fun moment => moment.event.appended?) rfl ?_
  intro trace s e s' run ih h
  obtain ⟨t, -, hbooked⟩ := h.booked run.sound
  rw [List.filterMap_append, ← ih, hbooked.entries_eq]
  cases happended : e.appended? <;> simp [happended]

/-- To add its entry is the last that a recording does. -/
theorem recorded_of_records {before after : Option Recording} (hr : Records c r answer before after)
    (h : r.appended? answer = some entry) :
    ∃ change, (before.bind fun rec => rec.result? c r answer) = some (.ok (.recorded change)) := by
  have hlast {rec : Recording} {answer : (rec.request c).Answer}
      (h : (rec.request c).appended? answer = some entry) :
      ∃ change, rec.result? c (rec.request c) answer = some (.ok (.recorded change)) := by
    cases rec with
    | appending change other tries =>
      change Except StoreFailure Unit at answer
      cases answer with
      | ok => exact ⟨change, rfl⟩
      | error => cases h
    | updating | updatePause | appendPause => cases h
  cases hr with
  | elsewhere hwrite =>
    cases r with
    | append => cases hwrite
    | _ => cases h
  | on | ends => exact hlast h

theorem Event.recorded_of_appended (h : e.appended? = some entry) :
    ∃ change, e.recordResult? = some (.ok (.recorded change)) := by
  cases e with
  | turn t call answer result =>
    -- whether the loop is to stop makes no difference to what the recording comes to
    have hrecords := @work_records call.config false [] call.work answer
    exact recorded_of_records hrecords h
  | outside | start => cases h

end Entries

/-- **The history accounts for every step.** As long as the history refuses no entry more often in a
row than a call tries again: the steps that the store has written are as many as the entries and the
calls that have yet to write theirs; no message has two entries with one status; every entry is for a
step that some call has made, and tells what that call was told; and only a call that came to
`recorded` has added one. -/
theorem history_accounts {trace : List Moment} {s : System} (run : Run .initial trace s)
    (hkept : givenUp trace = []) :
    s.store.writes = s.history.size + s.calls.values.countP (fun call => call.work.due?.isSome) ∧
    (∀ id, (s.recorded id).Nodup) ∧
    (∀ entry ∈ s.history.entries, ∃ moment ∈ trace, moment.Makes entry) ∧
    (s.history.entries = trace.filterMap fun moment => moment.event.appended?) ∧
    ∀ moment ∈ trace, moment.event.appended?.isSome →
      ∃ change, moment.event.recordResult? = some (.ok (.recorded change)) := by
  have hs := run.ledger
  have hmade : (madeIn trace).Perm (s.history.entries ++ s.due) := by
    have h := hs.made
    rwa [hkept, List.append_nil] at h
  refine ⟨?_, ?_, ?_, run.history, ?_⟩
  · rw [hs.writes, hmade.length_eq, List.length_append, System.due,
      List.length_filterMap_eq_countP]
    rfl
  · intro id
    have h := (hs.passed_perm id).nodup_iff.mp (nodup_passed s id)
    exact (List.nodup_append.mp (List.nodup_append.mp h).1).1
  · intro entry hentry
    obtain ⟨moment, hmem, h⟩ :=
      List.mem_filterMap.mp (hmade.mem_iff.mpr (List.mem_append_left _ hentry))
    exact ⟨moment, hmem, run.makes hmem h⟩
  · intro moment hmem happended
    obtain ⟨entry, hentry⟩ := Option.isSome_iff_exists.mp happended
    exact moment.event.recorded_of_appended hentry

/-- Two calls record what became of one message, and one of them is told that its step is not legal.
The other cannot write its entry at once, but when it tries again. A third call has made a step of
another message, and has yet to write its entry. -/
def recordingMoves : List Move :=
  [.outside (.insert (.ofNat 1) default .epoch),
    .outside (.insert (.ofNat 2) default .epoch),
    .start 0 .default (.record ⟨.ofNat 1, .notEnqueued, some "refused"⟩),
    .start 1 .default (.record ⟨.ofNat 1, .enqueued, none⟩),
    .turn 0 (.served .epoch default) false,
    .turn 1 (.served .epoch default) false,
    .turn 0 (.storeDown "out of reach") false,
    .outside (.wait Config.default.errorBackoff),
    .turn 0 (.served .epoch default) false,
    .turn 0 (.served .epoch default) false,
    .start 2 .default (.record ⟨.ofNat 2, .enqueued, none⟩),
    .turn 2 (.served .epoch default) false]

theorem history_accounts_recordingMoves : ∃ trace s, Run .initial trace s ∧ givenUp trace = [] ∧
    s.store.writes = 2 ∧ s.history.size = 1 ∧
    s.store.writes = s.history.size + s.calls.values.countP (fun call => call.work.due?.isSome) ∧
    ∀ entry ∈ s.history.entries, entry.detail = some "refused" ∧
      ∃ moment ∈ trace, moment.Makes entry := by
  obtain ⟨trace, s, run, hkept, hwrites, hsize, hdetail⟩ :=
    exists_run recordingMoves (s := .initial) (P := fun trace s =>
      givenUp trace = [] ∧ s.store.writes = 2 ∧ s.history.size = 1 ∧
        ∀ entry ∈ s.history.entries, entry.detail = some "refused") (by decide)
  obtain ⟨hcount, -, hmakes, -⟩ := history_accounts run hkept
  refine ⟨trace, s, run, hkept, hwrites, hsize, hcount, fun entry hentry => ?_⟩
  exact ⟨hdetail entry hentry, hmakes entry hentry⟩

/-! ## Entries that were given up -/

/-- **Every step has its entry, unless it was given up.** When no call has an entry to write, a
message has one entry for every step that it has made, but for those whose entries were given up, and
no other entries. -/
theorem entry_of_each_step {trace : List Moment} {s : System} (run : Run .initial trace s)
    (hidle : ∀ t, s.dueOf t = none) (id : MessageId) (status : Status) :
    (s.recorded id).count status =
      if status ∈ s.passed id ∧ status ∉ statusesOf id (givenUp trace) then 1 else 0 := by
  have hdue : s.due = [] := by
    refine List.eq_nil_iff_forall_not_mem.mpr fun entry hentry => ?_
    obtain ⟨t, ht⟩ := (mem_due run.nodup_calls).mp hentry
    cases (hidle t).symm.trans ht
  have hperm := run.ledger.passed_perm id
  rw [hdue] at hperm
  have hcount := hperm.count_eq status
  have honce := List.nodup_iff_count_le_one.mp (nodup_passed s id) status
  have hnil : statusesOf id [] = [] := rfl
  rw [hnil, List.append_nil, List.count_append] at hcount
  -- a step has its entry in one of the two places
  split
  · next h =>
    have hpassed := List.count_pos_iff.mpr h.1
    have hlost := List.count_eq_zero.mpr h.2
    omega
  · next h =>
    rcases not_and_or.mp h with hpassed | hlost
    · have hzero := List.count_eq_zero.mpr hpassed
      omega
    · have hpositive := List.count_pos_iff.mpr (not_not.mp hlost)
      omega

/-- A publisher cannot write the entry for the first message of a batch, and does not try again. In
its next batch it tries to record the outcome once more, and is told that the step is not legal; then
it publishes the other message. -/
def forgettingMoves : List Move :=
  let config := { Config.default with storeRetries := 0 }
  [.outside (.insert (.ofNat 1) default .epoch),
    .outside (.insert (.ofNat 2) default .epoch),
    .start 0 config (.batch 0),
    .turn 0 (.served .epoch default) false,
    .turn 0 (.served .epoch default) false,
    .turn 0 (.served .epoch default) false,
    .turn 0 (.served .epoch default) false,
    .turn 0 (.storeDown "out of reach") false,
    .turn 0 (.served .epoch default) false,
    .turn 0 (.served .epoch default) false,
    .start 1 config (.batch 0),
    .turn 1 (.served .epoch default) false,
    .turn 1 (.served .epoch default) false,
    .turn 1 (.served .epoch default) false,
    .turn 1 (.served .epoch default) false,
    .turn 1 (.served .epoch default) false,
    .turn 1 (.served .epoch default) false,
    .turn 1 (.served .epoch default) false]

theorem entry_of_each_step_forgettingMoves : ∃ trace s, Run .initial trace s ∧
    (∀ t, s.dueOf t = none) ∧ s.passed (.ofNat 1) = [.enqueued] ∧
    statusesOf (.ofNat 1) (givenUp trace) = [.enqueued] ∧ s.passed (.ofNat 2) = [.enqueued] ∧
    (s.recorded (.ofNat 1)).count .enqueued = 0 ∧ (s.recorded (.ofNat 2)).count .enqueued = 1 := by
  obtain ⟨trace, s, run, hcalls, hfirst, hlost, hsecond, hkept⟩ :=
    exists_run forgettingMoves (s := .initial) (P := fun trace s =>
      s.calls.entries = [] ∧ s.passed (.ofNat 1) = [.enqueued] ∧
        statusesOf (.ofNat 1) (givenUp trace) = [.enqueued] ∧ s.passed (.ofNat 2) = [.enqueued] ∧
        statusesOf (.ofNat 2) (givenUp trace) = []) (by decide)
  have hidle (t : TaskId) : s.dueOf t = none := by
    refine System.look_of_absent ?_ ..
    rw [Table.get?, hcalls]
    rfl
  refine ⟨trace, s, run, hidle, hfirst, hlost, hsecond, ?_, ?_⟩
  · rw [entry_of_each_step run hidle, hfirst, hlost]
    rfl
  · rw [entry_of_each_step run hidle, hsecond, hkept]
    rfl

/-- Whether nothing is stopped, and nobody but publishers does anything to the messages. -/
def Move.isOfBatches : Move → Bool
  | .start _ _ (.batch _) => true
  | .start .. => false
  | .turn _ (.signalled _) _ => false
  | .turn _ _ stop => !stop
  | .outside _ => true

/-- Not every step has its entry once all batches have come to their ends and no publisher carries
anything. -/
theorem not_forall_steps_recorded : ¬ ∀ {moves : List Move} {trace : List Moment} {s : System},
    System.initial.play? moves = some (trace, s) → (∀ move ∈ moves, move.isOfBatches = true) →
    s.calls.entries = [] → (∀ p, s.carriedOf p = []) →
    ∀ id, ∀ status ∈ s.passed id, (s.recorded id).count status = 1 := by
  intro h
  obtain ⟨⟨trace, s⟩, hplay, hP⟩ := (Option.any_eq_true (fun (p : List Moment × System) => decide
    (p.2.calls.entries = [] ∧ (∀ carried ∈ p.2.carried.values, carried = []) ∧
      p.2.passed (.ofNat 1) = [.enqueued] ∧ p.2.recorded (.ofNat 1) = []))
    (System.initial.play? forgettingMoves)).mp (by decide)
  obtain ⟨hcalls, hcarried, hpassed, hrecorded⟩ := of_decide_eq_true hP
  have hnone (p : PublisherId) : s.carriedOf p = [] := by
    rw [System.carriedOf, Table.getD]
    cases hp : s.carried.get? p with
    | none => rfl
    | some carried => exact hcarried _ (List.mem_map_of_mem (Table.mem_entries_of_get? hp))
  have hone := h hplay (by decide) hcalls hnone (.ofNat 1) .enqueued (by simp [hpassed])
  rw [hrecorded] at hone
  cases hone

end Interplay

end Outbox
