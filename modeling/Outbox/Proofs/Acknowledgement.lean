import Outbox.Proofs.Interplay.Stint
import Outbox.Proofs.WireAgreement
/-!
# `Proofs.Acknowledgement` — receipts that come before the status

The far side of the broker may report on a message before its publisher has written that the message
was enqueued. The receipt is then looked at again, for as long as the *recheck window* lasts, and is
dropped after that. Meanwhile the publisher tries its write again, for as long as the *retry window*
lasts. This module shows that a receipt for a message that the broker has accepted is dropped in no
other case; so if no write is given up, and time passes only while the calls sleep, no receipt is
dropped under settings that make the recheck window longer than the retry window.
-/

namespace Outbox

/-- How often the present write of a recording has been tried again. -/
def Recording.tries : Recording → Nat
  | .updating _ tries | .updatePause _ tries | .appending _ _ tries | .appendPause _ _ tries => tries

/-- Whether a status or an entry could not be written since the store or the history was out of
reach. -/
def Request.failsWrite : (r : Request) → r.Answer → Bool
  | .update _ _, answer =>
    match (answer : Except StoreFailure (Transition × Stamp)) with
    | .ok _ => false
    | .error failure => failure.kind = .infrastructure
  | r, answer => r.failsAppend answer

namespace Config

/-- How long a write can be tried again. -/
def retryWindow (c : Config) : Nat :=
  c.storeRetries * c.errorBackoff

/-- How long a receipt can be looked at again. -/
def recheckWindow (c : Config) : Nat :=
  c.recheckAttempts * c.recheckDelay

end Config

namespace Interplay

/-! ## What the statement speaks of -/

/-- Whether a call can stay where it is until a given time: it is not at the write of a status, and
does not oversleep. -/
def Call.lasts (time : Nat) (call : Call) : Bool :=
  match call.request with
  | .update _ _ => false
  | .sleep milliseconds => time ≤ call.since + milliseconds
  | _ => true

/-- Whether a step begins calls under the given settings only, gives up no write, and lets time pass
only while every call can stay where it is. -/
def Moment.isPunctual (c : Config) (moment : Moment) : Bool :=
  match moment.event with
  | .outside (.wait milliseconds) =>
    moment.before.calls.keys.all fun t =>
      (moment.before.calls.get? t).all (Call.lasts (moment.before.now + milliseconds))
  | .outside _ => true
  | .start _ config _ => config = c
  | .turn _ call answer _ =>
    !(call.request.failsWrite answer && call.work.record?.any fun rec => c.storeRetries ≤ rec.tries)

/-- A run under the given settings in which no write is given up, and in which nothing but sleep
takes time. -/
def Punctual (c : Config) (trace : List Moment) : Prop :=
  ∀ moment ∈ trace, moment.isPunctual c = true

instance (c : Config) (trace : List Moment) : Decidable (Punctual c trace) :=
  inferInstanceAs (Decidable (∀ _ ∈ trace, _))

/-- The life of the message of a receipt has ended for good, with the step that the receipt reports
or with one that another receipt reported before. -/
def Concluded (s : System) (r : Receipt) (d : Disposition) : Prop :=
  ∃ status, (status = .delivered ∨ status = .deliveredFailed) ∧
    (d = .applied status ∧ status = r.target ∨ d = .duplicate status) ∧
    ∀ {later s'}, Run s later s' → s'.store.status? r.messageId = some status

end Interplay

/-! ## The retry window -/

namespace Recording

/-- A recording that has not moved the status yet is within its retry window, which began at a given
moment. -/
def InTime (c : Config) (sent now since : Nat) : Recording → Prop
  | .updating _ tries =>
    now = since ∧ now ≤ sent + tries * c.errorBackoff ∧ tries ≤ c.storeRetries
  | .updatePause _ tries =>
    now ≤ since + c.errorBackoff ∧ since + c.errorBackoff ≤ sent + tries * c.errorBackoff ∧
      tries ≤ c.storeRetries
  | .appending .. | .appendPause .. => False

variable {c : Config} {rec : Recording} {sent now since : Nat}

theorem inTime_begin (c : Config) (outcome : Outcome) (now : Nat) :
    (begin outcome).InTime c now now now := by
  refine ⟨rfl, ?_, Nat.zero_le _⟩
  exact Nat.le_add_right _ _

/-- The retry window is not over. -/
theorem InTime.now_le (h : rec.InTime c sent now since) : now ≤ sent + c.retryWindow := by
  have hwindow {tries : Nat} (htries : tries ≤ c.storeRetries) :
      tries * c.errorBackoff ≤ c.retryWindow := Nat.mul_le_mul_right _ htries
  cases rec with
  | updating outcome tries =>
    obtain ⟨-, hnow, htries⟩ := h
    have hle := hwindow htries
    omega
  | updatePause outcome tries =>
    obtain ⟨hnow, hsince, htries⟩ := h
    have hle := hwindow htries
    omega
  | appending | appendPause => cases h

end Recording

namespace Interplay

section Window

variable {s mid s' : System} {t : TaskId} {call : Call} {fate : Fate} {c : Config} {rec : Recording}
  {sent : Nat}

/-- What a call waits for that is at a recording. -/
theorem request_of_record {w : Work} (h : w.record? = some rec) : w.request c = rec.request c := by
  have handling {work : Handling} (h : work.record? = some rec) :
      work.request c = rec.request c := by
    cases work <;> cases h
    rfl
  have batching {batch : Batching} (h : batch.record? = some rec) :
      batch.request c = rec.request c := by
    cases batch <;> cases h <;> rfl
  cases w with
  | recording => cases h; rfl
  | handling work => exact handling h
  | consuming work =>
    cases work with
    | handling stream work => exact handling h
    | _ => cases h
  | batching p batch => exact batching h
  | publishing p work =>
    cases work with
    | batching batch => exact batching h
    | _ => cases h

/-- Time passes while a call can stay where it is. -/
theorem inTime_of_lasts (hrec : call.work.record? = some rec)
    (h : rec.InTime call.config sent s.now call.since) {milliseconds : Nat}
    (hlasts : Call.lasts (s.now + milliseconds) call = true) :
    rec.InTime call.config sent (s.now + milliseconds) call.since := by
  rw [Call.lasts, Call.request, request_of_record hrec] at hlasts
  cases rec with
  | updating => cases hlasts
  | updatePause outcome tries => exact ⟨of_decide_eq_true hlasts, h.2⟩
  | appending | appendPause => cases h

/-- A recording that cannot fail for good, and after whose turn the message is still pending, has
tried in vain to move the status, and goes on within its retry window. -/
theorem inTime_of_turn {answer : (rec.request c).Answer} (hs : s.store.Sound)
    (h : s.answer? t call fate (rec.request c) = some (answer, mid))
    (hin : rec.InTime c sent s.now call.since) (htarget : rec.outcome.target = .enqueued)
    (hpending : mid.store.status? rec.outcome.id = some .pending)
    (hagain : (rec.request c).failsWrite answer = true → rec.tries < c.storeRetries) :
    ∃ rec', (rec.resume c answer).progress = .waiting rec' ∧ rec'.outcome = rec.outcome ∧
      rec'.InTime c sent s.now s.now := by
  cases rec with
  | updating outcome tries =>
    obtain ⟨store, rfl, ⟨reason, rfl, hsame⟩ | ⟨rfl, hstatus, hsame⟩ |
      ⟨current, rfl, hstatus, hillegal, hsame⟩ | ⟨old, stamp, rfl, hmoved⟩⟩ := answer_update hs h
    all_goals change store.status? outcome.id = some .pending at hpending
    · have hlt : tries < c.storeRetries := hagain rfl
      have htriesAgain : Recording.triesAgain c (.unavailable reason) tries = true :=
        decide_eq_true ⟨rfl, hlt⟩
      refine ⟨.updatePause outcome (tries + 1), ?_, rfl, ?_⟩
      · simp only [Recording.resume]
        rw [if_pos htriesAgain]
        rfl
      · obtain ⟨-, hnow, -⟩ := hin
        refine ⟨Nat.le_add_right _ _, ?_, hlt⟩
        rw [Nat.add_one_mul]
        omega
    · rw [hsame.status?, hstatus] at hpending
      cases hpending
    · -- the step of a pending message is legal
      rw [hsame.status?, hstatus] at hpending
      have hlegal : Status.Step current outcome.target := by
        rw [Option.some.inj hpending, show outcome.target = .enqueued from htarget]
        exact .enqueue
      exact absurd hlegal hillegal
    · rw [hmoved.status?, if_pos rfl, show outcome.target = .enqueued from htarget] at hpending
      cases hpending
  | updatePause outcome tries =>
    obtain ⟨hnow, hsince, htries⟩ := hin
    refine ⟨.updating outcome tries, rfl, rfl, rfl, ?_, htries⟩
    omega
  | appending | appendPause => cases hin

/-- A call is recording that a message was enqueued, within the retry window that began at a given
moment. -/
def System.IsWriting (s : System) (c : Config) (id : MessageId) (sent : Nat) : Prop :=
  ∃ t call rec, s.calls.get? t = some call ∧ call.work.record? = some rec ∧
    rec.outcome.id = id ∧ rec.outcome.target = .enqueued ∧ rec.InTime c sent s.now call.since

/-- A call whose message the broker accepts begins to record this. -/
theorem begins_of_accepted (stop : Bool) (carried : List Outcome) {w : Work} {id : MessageId}
    {answer : (w.request c).Answer} (h : (w.request c).accepted? answer = some id) :
    ∃ next outcome, (w.resume c stop carried answer).2.progress = .waiting next ∧
      next.record? = some (.begin outcome) ∧ outcome.id = id ∧ outcome.target = .enqueued := by
  have batching {batch : Batching} {answer : (batch.request c).Answer}
      (h : (batch.request c).accepted? answer = some id) : ∃ next outcome,
      (batch.resume c stop carried answer).2.progress = .waiting next ∧
        next.record? = some (.begin outcome) ∧ outcome.id = id ∧ outcome.target = .enqueued := by
    cases batch with
    | publishing summary m rest =>
      change Except BrokerFailure Unit at answer
      rcases answer with failure | ⟨⟩
      · cases h
      · cases h
        exact ⟨_, _, rfl, rfl, rfl, rfl⟩
    | recovering summary outcome rec | recording summary outcome rest rec =>
      cases (accepted?_record rec answer).symm.trans h
    | _ => cases h
  cases w with
  | recording rec => cases (accepted?_record rec answer).symm.trans h
  | handling work => cases (accepted?_handling work answer).1.symm.trans h
  | consuming work => cases (accepted?_consuming work answer).1.symm.trans h
  | batching p batch =>
    obtain ⟨next, outcome, hnext, hrec, hid, htarget⟩ := batching h
    refine ⟨.batching p next, outcome, ?_, hrec, hid, htarget⟩
    simp only [Work.resume]
    rw [Turn.andThen_of_waiting hnext]
  | publishing p work =>
    cases work with
    | batching batch =>
      obtain ⟨next, outcome, hnext, hrec, hid, htarget⟩ := batching h
      refine ⟨.publishing p (.batching next), outcome, ?_, hrec, hid, htarget⟩
      have hinner : ((batch.resume c stop carried answer).2.andThen .batching
          (Publishing.afterBatch c stop)).progress = .waiting (.batching next) := by
        rw [Turn.andThen_of_waiting hnext]
      simp only [Work.resume, Publishing.resume]
      rw [Turn.andThen_of_waiting hinner]
    | _ => cases h

/-- What a recording that is within its retry window leaves behind, if its message is still pending.
-/
theorem inTime_of_records {q : Request} {answer : q.Answer} {after : Option Recording}
    (hs : s.store.Sound) (hrecords : Records c q answer (some rec) after)
    (h : s.answer? t call fate q = some (answer, mid)) (hin : rec.InTime c sent s.now call.since)
    (htarget : rec.outcome.target = .enqueued)
    (hpending : mid.store.status? rec.outcome.id = some .pending)
    (hagain : q.failsWrite answer = true → rec.tries < c.storeRetries) :
    ∃ rec', after = some rec' ∧ rec'.outcome = rec.outcome ∧ rec'.InTime c sent s.now s.now := by
  cases hrecords with
  | on hnext =>
    obtain ⟨rec', hwaiting, houtcome, hlater⟩ := inTime_of_turn hs h hin htarget hpending hagain
    cases hnext.symm.trans hwaiting
    exact ⟨_, rfl, houtcome, hlater⟩
  | ends hend =>
    obtain ⟨rec', hwaiting, -⟩ := inTime_of_turn hs h hin htarget hpending hagain
    cases hend.symm.trans hwaiting

end Window

section Runs

variable {s s' : System} {e : Event} {c : Config} {trace : List Moment} {id : MessageId} {sent : Nat}

/-- In a punctual run all calls are under its settings. -/
theorem Run.config (run : Run .initial trace s) (punctual : Punctual c trace) {t : TaskId}
    {call : Call} (found : s.calls.get? t = some call) : call.config = c := by
  refine run.of_calls (P := fun call => call.config = c) ?_ (fun hbefore _ => hbefore) found
  intro moment hmem t config job hevent
  have hpunctual := punctual moment hmem
  rw [Moment.isPunctual, hevent] at hpunctual
  exact of_decide_eq_true hpunctual

/-- A message that is known and not pending is not pending after a step. -/
theorem pending_before (hs : s.store.Sound) (h : Step s e s')
    (hknown : (s.store.status? id).isSome) (hpending : s'.store.status? id = some .pending) :
    s.store.status? id = some .pending := by
  obtain ⟨status, hstatus⟩ := Option.isSome_iff_exists.mp hknown
  by_contra hne
  have hsettled : Settled s.store id := ⟨status, hstatus, fun heq => hne (heq ▸ hstatus)⟩
  exact (h.settled hs hsettled).not_pending hpending

/-- **A punctual step keeps to the retry window.** -/
theorem System.IsWriting.step (hw : s.IsWriting c id sent) (hs : s.store.Sound) (h : Step s e s')
    (hconfig : ∀ {t call}, s.calls.get? t = some call → call.config = c)
    (hpunctual : Moment.isPunctual c ⟨s, e⟩ = true)
    (hpending : s'.store.status? id = some .pending) : s'.IsWriting c id sent := by
  obtain ⟨t, call, rec, hfound, hrec, rfl, htarget, hin⟩ := hw
  obtain rfl := hconfig hfound
  rcases Step.cases h with ⟨o, rfl, hallowed, rfl⟩ | ⟨u, c, job, rfl, hstart⟩ |
    ⟨u, other, answer, stop, result, mid, rfl, hturn⟩
  · obtain ⟨-, -, hcalls, -⟩ := outside_cases hallowed
    refine ⟨t, call, rec, hcalls ▸ hfound, hrec, rfl, htarget, ?_⟩
    cases o
    case wait milliseconds =>
      have hlasts := List.all_eq_true.mp hpunctual _ (Table.mem_keys_of_get? hfound)
      rw [hfound] at hlasts
      exact inTime_of_lasts hrec hin hlasts
    all_goals exact hin
  · have hne : u ≠ t := by
      rintro rfl
      rw [hstart.absent] at hfound
      cases hfound
    rw [hstart.state]
    refine ⟨t, call, rec, ?_, hrec, rfl, htarget, hin⟩
    rw [Table.get?_put, if_neg hne]
    exact hfound
  · by_cases hut : u = t
    · subst hut
      cases hfound.symm.trans hturn.found
      obtain ⟨fate, hanswer⟩ := hturn.answered
      -- the recording of the call cannot end here, since the message would not be pending
      have hrecords : Records call.config call.request answer call.work.record?
          ((s.turnOf call stop answer).2.progress.look Work.record? none) :=
        work_records call.work answer
      have hagain : call.request.failsWrite answer = true → rec.tries < call.config.storeRetries := by
        intro hfails
        simpa [Moment.isPunctual, hfails, hrec] using hpunctual
      rw [hrec] at hrecords
      rw [hturn.store] at hpending
      obtain ⟨rec', hafter, houtcome, hlater⟩ :=
        inTime_of_records hs hrecords hanswer hin htarget hpending hagain
      cases hnext : (s.turnOf call stop answer).2.progress with
      | finished outcome =>
        rw [hnext] at hafter
        cases hafter
      | waiting next =>
        rw [hnext] at hafter
        refine ⟨u, ⟨call.config, next, s.now⟩, rec', ?_, hafter, ?_, ?_, ?_⟩
        · rw [hturn.calls, if_pos rfl, hnext]
          rfl
        · rw [houtcome]
        · rw [houtcome]
          exact htarget
        · rw [hturn.now]
          exact hlater
    · refine ⟨t, call, rec, ?_, hrec, rfl, htarget, ?_⟩
      · rw [hturn.calls, if_neg hut]
        exact hfound
      · rw [hturn.now]
        exact hin

theorem acceptances_pos : 0 < acceptances trace id ↔
    ∃ moment ∈ trace, moment.event.accepted? = some id := by
  simp [acceptances, List.countP_pos_iff]

/-- A message that the broker has accepted is known to the store, and was not refused. -/
theorem Run.status_of_accepted (run : Run .initial trace s) (orderly : Orderly trace)
    (haccepted : 0 < acceptances trace id) :
    ∃ status, s.store.status? id = some status ∧ status ≠ .notEnqueued := by
  have hstatus := (run.agreed orderly).status id
  cases hknown : s.store.status? id with
  | none =>
    rw [hknown] at hstatus
    have hzero : acceptances trace id = 0 := hstatus
    omega
  | some status =>
    refine ⟨status, rfl, ?_⟩
    rintro rfl
    rw [hknown] at hstatus
    have hzero : acceptances trace id = 0 := hstatus
    omega

/-- **The retry window.** In a punctual run a message that the broker has accepted stays pending
only while a call is within its retry window, which began when the broker accepted the message. -/
theorem Run.isWriting (run : Run .initial trace s) (orderly : Orderly trace)
    (punctual : Punctual c trace) {moment : Moment} (hmem : moment ∈ trace)
    (haccepted : moment.event.accepted? = some id)
    (hpending : s.store.status? id = some .pending) : s.IsWriting c id moment.before.now := by
  induction run with
  | nil => cases hmem
  | @snoc trace s s' e run h ih =>
    obtain ⟨horderly, -⟩ := forall_mem_snoc.mp orderly
    obtain ⟨hpunctual, hnow⟩ := forall_mem_snoc.mp punctual
    rcases List.mem_append.mp hmem with hmem | hmem
    · -- a message that was accepted before is known, so it was pending before this step
      obtain ⟨status, hstatus, -⟩ :=
        run.status_of_accepted horderly (acceptances_pos.mpr ⟨moment, hmem, haccepted⟩)
      have hbefore := pending_before run.sound h (hstatus ▸ rfl) hpending
      exact (ih horderly hpunctual hmem hbefore).step run.sound h (run.config hpunctual)
        hnow hpending
    · obtain rfl := List.mem_singleton.mp hmem
      rcases Step.cases h with ⟨o, rfl, -, -⟩ | ⟨u, c, job, rfl, -⟩ |
        ⟨t, call, answer, stop, result, mid, rfl, hturn⟩
      · cases haccepted
      · cases haccepted
      · obtain ⟨next, outcome, hnext, hrec, hid, htarget⟩ :=
          begins_of_accepted stop (s.carriedFor call.work) haccepted
        refine ⟨t, ⟨call.config, next, s.now⟩, _, ?_, hrec, hid, htarget, ?_⟩
        · rw [hturn.calls, if_pos rfl, System.turnOf, hnext]
          rfl
        · rw [hturn.now]
          exact Recording.inTime_begin c outcome s.now

end Runs

/-! ## What becomes of a receipt -/

section Dispositions

variable {s₀ s s' : System} {e : Event} {before trace : List Moment} {t : TaskId} {call : Call}
  {r : Receipt} {d : Disposition}

theorem fits_of_handling {w : Work} {carried : List Outcome} {work : Handling}
    (hfits : w.Fits carried) (h : w.handling? = some work) : work.Fits := by
  obtain rfl | ⟨stream, rfl⟩ := handling_cases h
  · exact hfits
  · exact hfits

theorem record_of_handling {w : Work} {work : Handling} (h : w.handling? = some work) :
    w.record? = work.record? := by
  obtain rfl | ⟨stream, rfl⟩ := handling_cases h
  · rfl
  · rfl

/-- When the step that a receipt reports has been written, the life of its message has ended with
it. -/
theorem Run.status_of_applied (run : Run .initial trace s) (found : s.calls.get? t = some call)
    {change : Transition} {entry : HistoryEntry} {k tries : Nat}
    (hwork : call.work.handling? = some (.recording r k (.appending change entry tries))) :
    change.new = r.target ∧ s.store.status? r.messageId = some r.target := by
  obtain ⟨houtcome, -, hnew⟩ := fits_of_handling (run.fitting.fits found) hwork
  have hid : entry.messageId = r.messageId := congrArg Outcome.id houtcome
  have htarget : entry.status = r.target := congrArg Outcome.target houtcome
  have hdue : s.dueOf t = some entry := by
    rw [System.dueOf, System.look_of_found found, Work.due?, record_of_handling hwork]
    rfl
  have hterminal : entry.status.isTerminal = true := by
    rw [htarget]
    rcases target_of_receipt r with h | h
    · rw [show r.target = .delivered from h]
      rfl
    · rw [show r.target = .deliveredFailed from h]
      rfl
  have hstatus := run.due_terminal hdue hterminal
  rw [hid, htarget] at hstatus
  exact ⟨hnew.trans htarget, hstatus⟩

/-- What a receipt comes to whose message the broker has accepted: the life of the message ends with
it or has ended, or the message is still pending after all rechecks. -/
theorem Run.ends_of_accepted (run : Run .initial trace s) (orderly : Orderly trace)
    (accepted : 0 < acceptances trace r.messageId) (found : s.calls.get? t = some call)
    {k : Nat} {rec : Recording} (hwork : call.work.handling? = some (.recording r k rec))
    (hends : Ends s.store call.config k rec d) (written : d ≠ .storeFailed) :
    (∃ status, (status = .delivered ∨ status = .deliveredFailed) ∧
      (d = .applied status ∧ status = r.target ∨ d = .duplicate status) ∧
      s.store.status? r.messageId = some status) ∨
    (d = .dropped .pending ∧ s.store.status? r.messageId = some .pending ∧
      call.config.recheckAttempts ≤ k) := by
  have houtcome : rec.outcome = r.outcome :=
    (fits_of_handling (run.fitting.fits found) hwork).1
  have hid : rec.outcome.id = r.messageId := congrArg Outcome.id houtcome
  have htarget : rec.outcome.target = r.target := congrArg Outcome.target houtcome
  obtain ⟨status, hstatus, hne⟩ := run.status_of_accepted orderly accepted
  cases hends with
  | applies hstate =>
    subst hstate
    obtain ⟨hnew, hlast⟩ := run.status_of_applied found hwork
    rw [hnew]
    exact .inl ⟨r.target, target_of_receipt r, .inl ⟨rfl, rfl⟩, hlast⟩
  | @repeats current hcurrent hterminal =>
    rw [hid, hstatus] at hcurrent
    obtain rfl := Option.some.inj hcurrent
    refine .inl ⟨status, ?_, .inr rfl, hstatus⟩
    cases status with
    | delivered => exact .inl rfl
    | deliveredFailed => exact .inr rfl
    | notEnqueued => exact absurd rfl hne
    | pending | enqueued => cases hterminal
  | unknown hnone =>
    rw [hid, hstatus] at hnone
    cases hnone
  | @drops current hcurrent hillegal halive hlate =>
    rw [hid, hstatus] at hcurrent
    obtain rfl := Option.some.inj hcurrent
    cases status with
    | pending => exact .inr ⟨rfl, hstatus, hlate rfl⟩
    | enqueued =>
      -- from here the step that the receipt reports is legal
      rw [htarget] at hillegal
      rcases target_of_receipt r with h | h
      · rw [show r.target = .delivered from h] at hillegal
        exact absurd .deliver hillegal
      · rw [show r.target = .deliveredFailed from h] at hillegal
        exact absurd .fail hillegal
    | notEnqueued | delivered | deliveredFailed => cases halive
  | fails => exact absurd rfl written

/-- What a task comes to that has taken a receipt for a message that the broker has accepted: the
life of the message has ended, or the message is still pending after the whole recheck window. -/
theorem Run.comes_to (first : Run .initial before s₀) (found : s₀.calls.get? t = some call)
    (took : call.work.handling? = some (.begin r)) (accepted : 0 < acceptances before r.messageId)
    (run : Run s₀ trace s) (busy : ∀ moment ∈ trace, moment.event.disposition? t = none)
    (orderly : Orderly (before ++ trace)) (h : Step s e s') (hend : e.disposition? t = some d)
    (written : d ≠ .storeFailed) :
    (∃ status, (status = .delivered ∨ status = .deliveredFailed) ∧
      (d = .applied status ∧ status = r.target ∨ d = .duplicate status) ∧
      s'.store.status? r.messageId = some status) ∨
    (d = .dropped .pending ∧ s.store.status? r.messageId = some .pending ∧
      s₀.now + call.config.recheckWindow ≤ s.now) := by
  have hrun := first.append run
  obtain ⟨now, work, hfound, hengaged⟩ := run.engaged first.sound found took busy
  obtain ⟨last, r', k, rec, hlast, hwork, hends, hsame⟩ := h.ends hrun.sound hend
  cases hfound.symm.trans hlast
  cases hengaged.handling.symm.trans hwork
  obtain ⟨hconfig, _, rfl, _, _, htime⟩ := hengaged
  have haccepted : 0 < acceptances (before ++ trace) r'.messageId := by
    rw [acceptances, List.countP_append]
    exact Nat.add_pos_left accepted _
  rcases hrun.ends_of_accepted orderly haccepted hfound hwork hends written with
    ⟨status, hterminal, hd, hstatus⟩ | ⟨hd, hpending, hlate⟩
  · exact .inl ⟨status, hterminal, hd, hsame.status? _ ▸ hstatus⟩
  · refine .inr ⟨hd, hpending, ?_⟩
    rw [hconfig] at hlate
    refine Nat.le_trans (Nat.add_le_add_left ?_ _) htime
    exact Nat.mul_le_mul_right _ hlate

/-- In a punctual run a message that the broker has accepted is pending for no longer than the retry
window. -/
theorem Run.now_le_of_pending {c : Config} {id : MessageId} (first : Run .initial before s₀)
    (accepted : 0 < acceptances before id) (run : Run s₀ trace s)
    (orderly : Orderly (before ++ trace)) (punctual : Punctual c (before ++ trace))
    (pending : s.store.status? id = some .pending) : s.now ≤ s₀.now + c.retryWindow := by
  obtain ⟨moment, hmem, hmoment⟩ := acceptances_pos.mp accepted
  obtain ⟨_, _, _, _, _, _, _, hin⟩ :=
    (first.append run).isWriting orderly punctual (List.mem_append_left _ hmem) hmoment pending
  have hretry := hin.now_le
  have hsent := first.now_le.2 moment hmem
  omega

/-- **No receipt is lost that need not be.** Take any run of publishers and consumers in which no
publisher gives up an outcome, and any task that takes a receipt for a message that the broker has
accepted. The task comes to a disposition: it takes a limited number of turns, and can always take
the next one. Unless the store fails it for good, the receipt ends the life of its message, or is a
repetition of one that did; or it is dropped with the message still pending, after the whole recheck
window, while exactly one publisher knows that the message was enqueued. In a punctual run the
latter happens only if the recheck window is no longer than the retry window. -/
theorem disposition_of_accepted (first : Run .initial before s₀)
    (found : s₀.calls.get? t = some call) (took : call.work.handling? = some (.begin r))
    (accepted : 0 < acceptances before r.messageId) (run : Run s₀ trace s)
    (busy : ∀ moment ∈ trace, moment.event.disposition? t = none)
    (orderly : Orderly (before ++ trace)) :
    turnsOf t trace < call.config.turnsToHandle ∧
    (∃ milliseconds e s', Step (s.apply (.wait milliseconds)) e s' ∧ e.isTurnOf t = true) ∧
    ∀ {e s' d}, Step s e s' → e.disposition? t = some d → d ≠ .storeFailed →
      Concluded s' r d ∨
      (d = .dropped .pending ∧ s.store.status? r.messageId = some .pending ∧
        (∃! p, s.HoldsEnqueued p r.messageId) ∧ s₀.now + call.config.recheckWindow ≤ s.now ∧
        (Punctual call.config (before ++ trace) →
          call.config.recheckWindow ≤ call.config.retryWindow)) := by
  have hrun := first.append run
  refine ⟨?_, ?_, fun {e s' d} h hend written => ?_⟩
  · obtain ⟨now, work, hfound, hengaged⟩ := run.engaged first.sound found took busy
    have hturns := hengaged.turns
    omega
  · obtain ⟨now, work, hfound, hengaged⟩ := run.engaged first.sound found took busy
    exact can_turn hfound hengaged.handling
  · rcases first.comes_to found took accepted run busy orderly h hend written with
      ⟨status, hterminal, hd, hstatus⟩ | ⟨hd, hpending, hwindow⟩
    · left
      refine ⟨status, hterminal, hd, fun later => ?_⟩
      refine later.terminal (h.sound hrun.sound) hstatus ?_
      rcases hterminal with rfl | rfl <;> rfl
    · right
      have hone : acceptances (before ++ trace) r.messageId = 1 := by
        have hle := (hrun.agreed orderly).status r.messageId
        rw [hpending] at hle
        refine Nat.le_antisymm hle ?_
        rw [acceptances, List.countP_append]
        exact Nat.add_pos_left accepted _
      refine ⟨hd, hpending, (hrun.known_to_one orderly hpending hone).2, hwindow, ?_⟩
      intro punctual
      have hretry := first.now_le_of_pending accepted run orderly punctual hpending
      omega

end Dispositions

/-- A task stays at its receipt during the second part of a run of publishers and consumers that is
punctual, and its next turn comes to the given disposition. -/
def ComesTo (c : Config) (t : TaskId) (d : Disposition) (before trace : List Moment) (s : System) :
    Prop :=
  (∀ moment ∈ trace, moment.event.disposition? t = none) ∧ Orderly (before ++ trace) ∧
    Punctual c (before ++ trace) ∧
    (s.perform? (.turn t (.served .epoch default) false)).any
      (fun (e, _) => decide (e.disposition? t = some d)) = true

instance (c : Config) (t : TaskId) (d : Disposition) (before trace : List Moment) (s : System) :
    Decidable (ComesTo c t d before trace s) :=
  inferInstanceAs (Decidable (_ ∧ _))

/-- A message is published, but the first write of its status fails; then its receipt is taken. -/
def earlyMoves (c : Config) : List Move :=
  [.outside (.insert (.ofNat 1) default .epoch),
    .start 0 c (.batch 0),
    .turn 0 (.served .epoch default) false,
    .turn 0 (.served .epoch default) false,
    .turn 0 (.served .epoch default) false,
    .turn 0 (.storeDown "out of reach") false,
    .start 1 c (.handle (.delivered (.ofNat 1)))]

/-- The receipt is looked at, then the status is written, then the receipt is looked at again. -/
def recheckedMoves : List Move :=
  [.turn 1 (.served .epoch default) false,
    .outside (.wait 50),
    .turn 0 (.served .epoch default) false,
    .turn 0 (.served .epoch default) false,
    .outside (.wait 50),
    .turn 1 (.served .epoch default) false,
    .turn 1 (.served .epoch default) false]

/-- The receipt is looked at as often as it may be, before the status is written. -/
def outrunMoves : List Move :=
  [.turn 1 (.served .epoch default) false,
    .outside (.wait 100),
    .turn 1 (.served .epoch default) false,
    .turn 1 (.served .epoch default) false,
    .outside (.wait 100),
    .turn 1 (.served .epoch default) false,
    .turn 1 (.served .epoch default) false,
    .outside (.wait 100),
    .turn 1 (.served .epoch default) false]

theorem disposition_of_accepted_recheckedMoves : ∃ before s₀ call trace s,
    Run .initial before s₀ ∧ s₀.calls.get? 1 = some call ∧
    call.work.handling? = some (.begin (.delivered (.ofNat 1))) ∧
    0 < acceptances before (.ofNat 1) ∧ Run s₀ trace s ∧
    (∀ moment ∈ trace, moment.event.disposition? 1 = none) ∧ Orderly (before ++ trace) ∧
    Punctual call.config (before ++ trace) ∧
    call.config.retryWindow < call.config.recheckWindow ∧
    ∃ e s', Step s e s' ∧ Concluded s' (.delivered (.ofNat 1)) (.applied .delivered) := by
  let c : Config := { Config.default with errorBackoff := 50 }
  let call : Call := ⟨c, .handling (.begin (.delivered (.ofNat 1))), 0⟩
  obtain ⟨before, s₀, first, found, accepted, hlater⟩ := exists_run (earlyMoves c) (s := .initial)
    (P := fun before s₀ => s₀.calls.get? 1 = some call ∧ 0 < acceptances before (.ofNat 1) ∧
      (s₀.play? recheckedMoves).any
        (fun p => decide (ComesTo c 1 (.applied .delivered) before p.1 p.2)) = true)
    (by decide)
  obtain ⟨trace, s, run, busy, orderly, punctual, hlast⟩ := exists_run recheckedMoves
    (P := ComesTo c 1 (.applied .delivered) before) hlater
  obtain ⟨e, s', h, hend⟩ :=
    exists_step _ (P := fun e _ => e.disposition? 1 = some (.applied .delivered)) hlast
  refine ⟨before, s₀, call, trace, s, first, found, rfl, accepted, run, busy, orderly, punctual,
    by decide, e, s', h, ?_⟩
  have hmain := disposition_of_accepted (r := .delivered (.ofNat 1)) first found rfl accepted run
    busy orderly
  rcases hmain.2.2 h hend (by decide) with hconcluded | ⟨hdropped, -⟩
  · exact hconcluded
  · cases hdropped

/-- Not every receipt for a message that the broker has accepted comes to be applied or to be a
repetition, though no write is given up. -/
theorem not_forall_receipts_applied : ¬ ∀ {c : Config} {before trace : List Moment}
    {s₀ s s' : System} {e : Event} {t : TaskId} {call : Call} {r : Receipt} {d : Disposition},
    c.Usable → Run .initial before s₀ → s₀.calls.get? t = some call →
      call.work.handling? = some (.begin r) → 0 < acceptances before r.messageId →
      Run s₀ trace s → (∀ moment ∈ trace, moment.event.disposition? t = none) →
      Orderly (before ++ trace) → Punctual c (before ++ trace) → Step s e s' →
      e.disposition? t = some d → ∃ status, d = .applied status ∨ d = .duplicate status := by
  intro h
  let call : Call := ⟨.default, .handling (.begin (.delivered (.ofNat 1))), 0⟩
  obtain ⟨before, s₀, first, found, accepted, hlater⟩ :=
    exists_run (earlyMoves .default) (s := .initial)
    (P := fun before s₀ => s₀.calls.get? 1 = some call ∧ 0 < acceptances before (.ofNat 1) ∧
      (s₀.play? outrunMoves).any
        (fun p => decide (ComesTo .default 1 (.dropped .pending) before p.1 p.2)) = true)
    (by decide)
  obtain ⟨trace, s, run, busy, orderly, punctual, hlast⟩ := exists_run outrunMoves
    (P := ComesTo .default 1 (.dropped .pending) before) hlater
  obtain ⟨e, s', hstep, hend⟩ :=
    exists_step _ (P := fun e _ => e.disposition? 1 = some (.dropped .pending)) hlast
  obtain ⟨status, hd | hd⟩ := h (r := .delivered (.ofNat 1)) (by decide) first found rfl accepted
    run busy orderly punctual hstep hend
  · cases hd
  · cases hd

end Interplay

end Outbox
