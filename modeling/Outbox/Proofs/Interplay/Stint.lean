import Outbox.Proofs.Interplay.Record
/-!
# `Proofs.Interplay.Stint` — the handling of a receipt from its beginning to its end

A task takes a receipt and handles it in turns of its own, while others take theirs in between. This
module follows one such handling. It is about the same receipt all the while; it has looked at the
message again only after the waits for that, so that the clock tells how often it can have done so;
and it can take a limited number of turns only, none of which it has to wait for in vain.
-/

namespace Outbox

namespace Recording

/-- A bound on the turns that a recording can still take. -/
def turnsLeft (c : Config) : Recording → Nat
  | .updating _ tries => 2 * (c.storeRetries - tries) + 2 * c.storeRetries + 2
  | .updatePause _ tries => 2 * (c.storeRetries - tries) + 2 * c.storeRetries + 3
  | .appending _ _ tries => 2 * (c.storeRetries - tries) + 1
  | .appendPause _ _ tries => 2 * (c.storeRetries - tries) + 2

theorem turnsLeft_begin (c : Config) (outcome : Outcome) :
    (begin outcome).turnsLeft c = 4 * c.storeRetries + 2 := by
  show 2 * (c.storeRetries - 0) + 2 * c.storeRetries + 2 = _
  omega

theorem turnsLeft_pos (c : Config) (rec : Recording) : 0 < rec.turnsLeft c := by
  cases rec <;> simp only [turnsLeft] <;> omega

theorem tries_lt {c : Config} {failure : StoreFailure} {tries : Nat}
    (h : triesAgain c failure tries = true) : tries < c.storeRetries :=
  (of_decide_eq_true h).2

/-- Every turn of a recording uses up one of those that it can take. -/
theorem turnsLeft_lt {c : Config} {rec rec' : Recording} {answer : (rec.request c).Answer}
    (h : (rec.resume c answer).progress = .waiting rec') : rec'.turnsLeft c < rec.turnsLeft c := by
  cases rec with
  | updating outcome tries =>
    change Except StoreFailure (Transition × Stamp) at answer
    rcases answer with failure | ⟨change, stamp⟩
    · simp only [resume] at h
      split at h
      · next hagain =>
        have hlt := tries_lt hagain
        cases h
        simp only [turnsLeft]
        omega
      · cases h
    · cases h
      simp only [turnsLeft]
      omega
  | updatePause outcome tries =>
    cases h
    exact Nat.lt_succ_self _
  | appending change entry tries =>
    change Except StoreFailure Unit at answer
    rcases answer with failure | ⟨⟩
    · simp only [resume] at h
      split at h
      · next hagain =>
        have hlt := tries_lt hagain
        cases h
        simp only [turnsLeft]
        omega
      · cases h
    · cases h
  | appendPause change entry tries =>
    cases h
    exact Nat.lt_succ_self _

end Recording

/-- A bound on the turns that the handling of a receipt can take. -/
def Config.turnsToHandle (c : Config) : Nat :=
  (c.recheckAttempts + 1) * (4 * c.storeRetries + 3)

namespace Handling

/-- How often the message has been looked at again, or is about to be. -/
def rechecks : Handling → Nat
  | .recording _ rechecks _ | .rechecking _ rechecks => rechecks

/-- A bound on the turns that the handling can still take. -/
def turnsLeft (c : Config) : Handling → Nat
  | .recording _ rechecks record =>
    record.turnsLeft c + (c.recheckAttempts - rechecks) * (4 * c.storeRetries + 3)
  | .rechecking _ rechecks =>
    4 * c.storeRetries + 3 + (c.recheckAttempts - rechecks) * (4 * c.storeRetries + 3)

/-- How the handling goes on when it does not come to its end. -/
inductive Goes (c : Config) : Handling → Handling → Prop
  /-- The recording goes on. -/
  | records {r : Receipt} {rechecks : Nat} {rec rec' : Recording}
      (fewer : rec'.turnsLeft c < rec.turnsLeft c) :
      Goes c (.recording r rechecks rec) (.recording r rechecks rec')
  /-- The message is still pending, and will be looked at again. -/
  | waits {r : Receipt} {rechecks : Nat} {rec : Recording} (more : rechecks < c.recheckAttempts) :
      Goes c (.recording r rechecks rec) (.rechecking r (rechecks + 1))
  /-- The message is looked at again. -/
  | looks {r : Receipt} {rechecks : Nat} :
      Goes c (.rechecking r rechecks) (.recording r rechecks (.begin r.outcome))

section Goes

variable {c : Config} {work next : Handling}

theorem goes_of_resume {answer : (work.request c).Answer}
    (h : (work.resume c answer).progress = .waiting next) : Goes c work next := by
  cases work with
  | recording r rechecks rec =>
    rcases Turn.waiting_cases h with ⟨rec', hrec, rfl⟩ | ⟨result, -, hlast⟩
    · exact .records (Recording.turnsLeft_lt hrec)
    · rcases result with failure | (change | _ | current)
      · cases hlast
      · cases hlast
      · cases hlast
      · simp only [conflicted] at hlast
        split at hlast
        · cases hlast
        · split at hlast
          · next hmore =>
            cases hlast
            exact .waits hmore.2
          · cases hlast
  | rechecking r rechecks =>
    cases h
    exact .looks

theorem Goes.receipt (h : Goes c work next) : next.receipt = work.receipt := by
  cases h <;> rfl

theorem Goes.rechecks_le (h : Goes c work next) (hle : work.rechecks ≤ c.recheckAttempts) :
    next.rechecks ≤ c.recheckAttempts := by
  cases h with
  | records | looks => exact hle
  | waits hmore => exact hmore

/-- Every turn of the handling uses up one of those that it can take. -/
theorem Goes.turnsLeft_lt (h : Goes c work next) : next.turnsLeft c < work.turnsLeft c := by
  cases h with
  | records hfewer => exact Nat.add_lt_add_right hfewer _
  | @waits r rechecks rec hmore =>
    have hpos := Recording.turnsLeft_pos c rec
    have hone : c.recheckAttempts - rechecks = c.recheckAttempts - (rechecks + 1) + 1 := by omega
    simp only [turnsLeft]
    -- one recheck pays for the sleep and for a whole recording
    rw [hone, Nat.add_one_mul (c.recheckAttempts - (rechecks + 1))]
    omega
  | looks =>
    simp only [turnsLeft, Recording.turnsLeft_begin]
    omega

end Goes

end Handling

/-! ## The handlings of the calls -/

/-- The handling that the consumer's loop is at. -/
def Consuming.handling? : Consuming → Option Handling
  | .handling _ work => some work
  | .starting _ | .listening _ | .pausing .. | .reconnecting _ | .subscribing _ => none

/-- What became of the receipt that the consumer's loop is at. -/
def Consuming.disposition? (c : Config) :
    (work : Consuming) → (work.request c).Answer → Option Disposition
  | .handling _ work, answer => (work.resume c answer).progress.outcome?
  | .starting _, _ | .listening _, _ | .pausing .., _ | .reconnecting _, _ | .subscribing _, _ => none

namespace Interplay

/-- The handling that a call is at. -/
def Work.handling? : Work → Option Handling
  | .handling work => some work
  | .consuming work => work.handling?
  | .recording _ | .batching .. | .publishing .. => none

/-- A call is at a handling by itself, or in the consumer's loop. -/
theorem handling_cases {w : Work} {work : Handling} (h : w.handling? = some work) :
    w = .handling work ∨ ∃ stream, w = .consuming (.handling stream work) := by
  cases w with
  | handling =>
    cases h
    exact .inl rfl
  | consuming w =>
    cases w with
    | handling stream =>
      cases h
      exact .inr ⟨stream, rfl⟩
    | _ => cases h
  | recording | batching | publishing => cases h

/-- What became of the receipt that a call is at. -/
def Work.disposition? (c : Config) : (work : Work) → (work.request c).Answer → Option Disposition
  | .handling work, answer => (work.resume c answer).progress.outcome?
  | .consuming work, answer => work.disposition? c answer
  | .recording _, _ | .batching .., _ | .publishing .., _ => none

/-- What became of the receipt that a task is at. -/
def Event.disposition? (t : TaskId) : Event → Option Disposition
  | .turn u call answer _ => if u = t then call.work.disposition? call.config answer else none
  | .outside _ | .start .. => none

/-- Whether a step is a turn of a task. -/
def Event.isTurnOf (t : TaskId) : Event → Bool
  | .turn u .. => u == t
  | .outside _ | .start .. => false

/-- How many turns a task has taken. -/
def turnsOf (t : TaskId) (trace : List Moment) : Nat :=
  trace.countP fun moment => moment.event.isTurnOf t

/-- How the handling of a call goes on: from the one before an answer to the one after it, and what
became of the receipt. -/
inductive Handles (c : Config) :
    (r : Request) → r.Answer → Option Handling → Option Handling → Option Disposition → Prop
  /-- The answer is to something else. -/
  | elsewhere {r : Request} {answer : r.Answer} {next : Option Handling} :
      Handles c r answer none next none
  /-- The handling goes on. -/
  | on {work next : Handling} {answer : (work.request c).Answer}
      (progress : (work.resume c answer).progress = .waiting next) :
      Handles c (work.request c) answer (some work) (some next) none
  /-- The handling has come to its end. -/
  | ends {work : Handling} {answer : (work.request c).Answer} {disposition : Disposition}
      (progress : (work.resume c answer).progress = .finished disposition) :
      Handles c (work.request c) answer (some work) none (some disposition)

section Handles

variable {c : Config}

theorem handling_handles (work : Handling) (answer : (work.request c).Answer) :
    Handles c (work.request c) answer (some work)
      ((work.resume c answer).progress.look some none)
      (work.resume c answer).progress.outcome? := by
  cases hp : (work.resume c answer).progress with
  | waiting next => exact .on hp
  | finished disposition => exact .ends hp

theorem consuming_handles (stop : Bool) (work : Consuming) (answer : (work.request c).Answer) :
    Handles c (work.request c) answer work.handling?
      ((work.resume c stop answer).progress.look Consuming.handling? none)
      (work.disposition? c answer) := by
  cases work with
  | handling stream work =>
    rw [Consuming.resume, Turn.look_andThen fun _ => rfl]
    · exact handling_handles work answer
    · intro disposition
      cases disposition
      case storeFailed => rfl
      all_goals cases stop <;> rfl
  | _ => exact .elsewhere

/-- **The handling of a call goes on by its own turns.** -/
theorem work_handles (stop : Bool) (carried : List Outcome) (work : Work)
    (answer : (work.request c).Answer) :
    Handles c (work.request c) answer work.handling?
      ((work.resume c stop carried answer).2.progress.look Work.handling? none)
      (work.disposition? c answer) := by
  cases work with
  | handling work =>
    rw [Work.resume, Turn.look_andThen (fun _ => rfl) fun _ => rfl]
    exact handling_handles work answer
  | consuming work =>
    rw [Work.resume, Turn.look_andThen (fun _ => rfl) fun _ => rfl]
    exact consuming_handles stop work answer
  | recording | batching | publishing => exact .elsewhere

end Handles

/-! ## A stint -/

/-- A task is at a receipt that it took at a given moment, and has taken a number of turns since. -/
structure Engaged (c : Config) (r : Receipt) (taken turns : Nat) (s : System) (call : Call)
    (work : Handling) : Prop where
  config : call.config = c
  handling : call.work.handling? = some work
  receipt : work.receipt = r
  attempts : work.rechecks ≤ c.recheckAttempts
  turns : turns + work.turnsLeft c < c.turnsToHandle
  /-- While the task sleeps, what counts is when it fell asleep. -/
  time : taken + work.rechecks * c.recheckDelay ≤
    match work with
    | .recording .. => s.now
    | .rechecking .. => call.since + c.recheckDelay

section Stint

variable {s₀ s s' : System} {e : Event} {trace : List Moment} {t : TaskId} {call : Call}
  {r : Receipt} {work : Handling} {c : Config} {taken turns : Nat}

theorem turnsOf_snoc (trace : List Moment) (moment : Moment) (t : TaskId) :
    turnsOf t (trace ++ [moment]) =
      turnsOf t trace + if moment.event.isTurnOf t then 1 else 0 := by
  simp [turnsOf, List.countP_append, List.countP_cons]

/-- A task that has just taken a receipt. -/
theorem engaged_begin (hwork : call.work.handling? = some (.begin r)) :
    Engaged call.config r s.now 0 s call (.begin r) := by
  refine ⟨rfl, hwork, rfl, Nat.zero_le _, ?_, ?_⟩
  · show 0 + ((Recording.begin r.outcome).turnsLeft call.config +
      (call.config.recheckAttempts - 0) * (4 * call.config.storeRetries + 3)) < _
    rw [Recording.turnsLeft_begin, Config.turnsToHandle, Nat.sub_zero,
      Nat.add_one_mul call.config.recheckAttempts]
    omega
  · show s.now + 0 * call.config.recheckDelay ≤ s.now
    omega

/-- Others have taken their turns, or time has passed. -/
theorem Engaged.of_others (h : Engaged c r taken turns s call work) (hnow : s.now ≤ s'.now) :
    Engaged c r taken turns s' call work := by
  refine ⟨h.config, h.handling, h.receipt, h.attempts, h.turns, ?_⟩
  have htime := h.time
  cases work with
  | recording => exact Nat.le_trans htime hnow
  | rechecking => exact htime

/-- A handling that does not come to its end goes on, and if the task slept, its sleep is over. -/
theorem goes_of_handles {q : Request} {answer : q.Answer} {after : Option Handling} {fate : Fate}
    {mid : System} (h : Handles c q answer (some work) after none)
    (hanswer : s.answer? t call fate q = some (answer, mid)) :
    ∃ next, after = some next ∧ work.Goes c next ∧
      ∀ {r k}, work = .rechecking r k → call.since + c.recheckDelay ≤ s.now := by
  cases h with
  | on hnext =>
    refine ⟨_, rfl, Handling.goes_of_resume hnext, ?_⟩
    rintro r k rfl
    exact (answer_sleep hanswer).2

/-- The task has taken a turn and is still at the receipt. -/
theorem Engaged.of_turn (h : Engaged c r taken turns s call work) {fate : Fate} {mid : System}
    {answer : call.request.Answer} {stop : Bool} {carried : List Outcome} {later : Work}
    (hanswer : s.answer? t call fate call.request = some (answer, mid)) (hnow : s'.now = s.now)
    (hlater : (call.work.resume call.config stop carried answer).2.progress = .waiting later)
    (hnone : call.work.disposition? call.config answer = none) :
    ∃ next, Engaged c r taken (turns + 1) s' ⟨call.config, later, s.now⟩ next := by
  obtain ⟨rfl, hwork, hreceipt, hattempts, hturns, htime⟩ := h
  have hhandles := work_handles stop carried call.work answer
  rw [hwork, hlater, hnone] at hhandles
  obtain ⟨next, hnext, hgoes, hslept⟩ := goes_of_handles hhandles hanswer
  refine ⟨next, rfl, hnext, hgoes.receipt.trans hreceipt, hgoes.rechecks_le hattempts, ?_, ?_⟩
  · have hlt := hgoes.turnsLeft_lt
    omega
  · rw [hnow]
    -- what counts is the time before the turn, and once asleep when the sleep will be over
    cases hgoes with
    | records => exact htime
    | @waits r rechecks rec =>
      show taken + (rechecks + 1) * call.config.recheckDelay ≤ s.now + call.config.recheckDelay
      have hbefore : taken + rechecks * call.config.recheckDelay ≤ s.now := htime
      rw [Nat.add_one_mul]
      omega
    | looks => exact Nat.le_trans htime (hslept rfl)

/-- **A task stays at its receipt.** As long as no disposition is reached, the task is at the
receipt that it took, has taken fewer turns than there are, and has looked again as often as the
time that has passed allows. -/
theorem Run.engaged (run : Run s₀ trace s) (hs : s₀.store.Sound) (found : s₀.calls.get? t = some call)
    (took : call.work.handling? = some (.begin r))
    (busy : ∀ moment ∈ trace, moment.event.disposition? t = none) :
    ∃ now work, s.calls.get? t = some now ∧
      Engaged call.config r s₀.now (turnsOf t trace) s now work := by
  induction run with
  | nil => exact ⟨call, _, found, engaged_begin took⟩
  | @snoc trace s s' e run h ih =>
    obtain ⟨hbusy, hnone⟩ := forall_mem_snoc.mp busy
    obtain ⟨now, work, hfound, hengaged⟩ := ih hbusy
    have hsound : s.store.Sound :=
      run.invariant (I := fun _ s => s.store.Sound) hs fun _ hs h => h.sound hs
    rw [turnsOf_snoc]
    rcases Step.cases h with ⟨o, rfl, hallowed, rfl⟩ | ⟨u, c, job, rfl, hstart⟩ |
      ⟨u, other, answer, stop, result, mid, rfl, hturn⟩
    · obtain ⟨-, -, hcalls, -⟩ := outside_cases hallowed
      refine ⟨now, work, hcalls ▸ hfound, hengaged.of_others ?_⟩
      cases o
      case wait milliseconds => exact Nat.le_add_right _ _
      all_goals exact Nat.le_refl _
    · have hne : u ≠ t := by
        rintro rfl
        rw [hstart.absent] at hfound
        cases hfound
      rw [hstart.state]
      refine ⟨now, work, ?_, hengaged.of_others (Nat.le_refl _)⟩
      rw [Table.get?_put, if_neg hne]
      exact hfound
    · by_cases hut : u = t
      · subst hut
        cases hfound.symm.trans hturn.found
        obtain ⟨fate, hanswer⟩ := hturn.answered
        have hmine : now.work.disposition? now.config answer = none := by
          simpa [Event.disposition?] using hnone
        have hcount : Event.isTurnOf u (.turn u now answer result) = true := beq_self_eq_true u
        rw [if_pos hcount, hturn.calls, if_pos rfl]
        cases hlater : (s.turnOf now stop answer).2.progress with
        | waiting later =>
          obtain ⟨next, hnext⟩ := hengaged.of_turn hanswer hturn.now hlater hmine
          exact ⟨_, next, rfl, hnext⟩
        | finished outcome =>
          -- a task that has come to its end has come to a disposition
          have hhandles := work_handles stop (s.carriedFor now.work) now.work answer
          rw [hengaged.handling, hmine] at hhandles
          obtain ⟨next, hnext, -⟩ := goes_of_handles hhandles hanswer
          rw [System.turnOf] at hlater
          rw [hlater] at hnext
          cases hnext
      · have hcount : Event.isTurnOf t (.turn u other answer result) = false := beq_eq_false_iff_ne.mpr hut
        refine ⟨now, work, ?_, ?_⟩
        · rw [hturn.calls, if_neg hut]
          exact hfound
        · rw [hcount]
          exact hengaged.of_others (Nat.le_of_eq hturn.now.symm)

/-- Whatever a handling waits for is answered, if need be after a while. -/
theorem handling_answered (s : System) (t : TaskId) (call : Call) (c : Config) (work : Handling) :
    ∃ milliseconds fate answer mid,
      (s.apply (.wait milliseconds)).answer? t call fate (work.request c) = some (answer, mid) := by
  have sleeps (duration : Nat) : ∃ milliseconds fate answer mid,
      (s.apply (.wait milliseconds)).answer? t call fate (.sleep duration) = some (answer, mid) := by
    refine ⟨call.since + duration, .served default default, (), _, if_pos ?_⟩
    exact Nat.le_add_left _ _
  cases work with
  | recording r k rec =>
    cases rec with
    | updating | appending => exact ⟨0, .served default default, _, _, rfl⟩
    | updatePause | appendPause => exact sleeps c.errorBackoff
  | rechecking => exact sleeps c.recheckDelay

/-- A task that is at a receipt can take its next turn, if need be after a while. -/
theorem can_turn (found : s.calls.get? t = some call)
    (hwork : call.work.handling? = some work) :
    ∃ milliseconds e s', Step (s.apply (.wait milliseconds)) e s' ∧ e.isTurnOf t = true := by
  have hrequest : call.request = work.request call.config := by
    obtain ⟨config, w, since⟩ := call
    rcases handling_cases hwork with h | ⟨stream, h⟩ <;> rw [Call.request, h] <;> rfl
  have hanswered := handling_answered s t call call.config work
  rw [← hrequest] at hanswered
  obtain ⟨milliseconds, fate, answer, mid, h⟩ := hanswered
  obtain ⟨result, s', hstep, -⟩ :=
    exists_turn (s := s.apply (.wait milliseconds)) found false h
  exact ⟨milliseconds, _, s', hstep, beq_self_eq_true t⟩

end Stint

/-! ## How a stint ends -/

/-- What becomes of a receipt, by what the store says of its message and where the handling is. -/
inductive Ends (s : Store) (c : Config) (rechecks : Nat) (rec : Recording) : Disposition → Prop
  /-- The status was moved before, and now the entry has been written. -/
  | applies {change : Transition} {entry : HistoryEntry} {tries : Nat}
      (state : rec = .appending change entry tries) : Ends s c rechecks rec (.applied change.new)
  | repeats {current : Status} (status : s.status? rec.outcome.id = some current)
      (terminal : current.isTerminal = true) : Ends s c rechecks rec (.duplicate current)
  | unknown (status : s.status? rec.outcome.id = none) : Ends s c rechecks rec .unknownMessage
  /-- The message has been looked at as often as it may be. -/
  | drops {current : Status} (status : s.status? rec.outcome.id = some current)
      (illegal : ¬ Status.Step current rec.outcome.target) (alive : current.isTerminal = false)
      (late : current = .pending → c.recheckAttempts ≤ rechecks) :
      Ends s c rechecks rec (.dropped current)
  | fails : Ends s c rechecks rec .storeFailed

section Ends

variable {s mid : System} {t : TaskId} {call : Call} {fate : Fate} {c : Config} {work : Handling}
  {d : Disposition}

/-- A handling comes to its end with its recording. -/
theorem ends_of_finished {answer : (work.request c).Answer} (hs : s.store.Sound)
    (h : s.answer? t call fate (work.request c) = some (answer, mid))
    (hend : (work.resume c answer).progress = .finished d) :
    ∃ r k rec, work = .recording r k rec ∧ Ends s.store c k rec d ∧ s.store.Same mid.store := by
  cases work with
  | recording r k rec =>
    refine ⟨r, k, rec, rfl, ?_⟩
    obtain ⟨result, hresult, hlast⟩ := Turn.finished_cases hend
    have hturn := recordTurn hs h
    rw [hresult] at hturn
    cases hturn with
    | fails _ hsame =>
      cases hlast
      exact ⟨.fails, hsame⟩
    | appends hstate hsame =>
      cases hlast
      exact ⟨.applies hstate, hsame⟩
    | unknown _ hstatus hsame =>
      cases hlast
      exact ⟨.unknown hstatus, hsame⟩
    | refused _ hstatus hillegal hsame =>
      -- the handling is at its end, so it does not look again
      refine ⟨?_, hsame⟩
      simp only [Handling.conflicted] at hlast
      split at hlast
      · next hterminal =>
        cases hlast
        exact .repeats hstatus hterminal
      · next halive =>
        split at hlast
        · cases hlast
        · next hmore =>
          cases hlast
          refine .drops hstatus hillegal (Bool.eq_false_iff.mpr halive) fun hpending => ?_
          exact Nat.le_of_not_lt fun hlt => hmore ⟨hpending, hlt⟩
  | rechecking => cases hend

theorem ends_of_handles {q : Request} {answer : q.Answer} {before after : Option Handling}
    (hs : s.store.Sound) (h : Handles c q answer before after (some d))
    (hanswer : s.answer? t call fate q = some (answer, mid)) :
    ∃ r k rec, before = some (.recording r k rec) ∧ Ends s.store c k rec d ∧
      s.store.Same mid.store := by
  cases h with
  | ends hend =>
    obtain ⟨r, k, rec, rfl, hends, hsame⟩ := ends_of_finished hs hanswer hend
    exact ⟨r, k, rec, rfl, hends, hsame⟩

end Ends

/-- **How a stint ends.** -/
theorem Step.ends {s s' : System} {e : Event} {t : TaskId} {d : Disposition} (hs : s.store.Sound)
    (h : Step s e s') (hend : e.disposition? t = some d) :
    ∃ call r k rec, s.calls.get? t = some call ∧
      call.work.handling? = some (.recording r k rec) ∧ Ends s.store call.config k rec d ∧
      s.store.Same s'.store := by
  rcases Step.cases h with ⟨o, rfl, -, -⟩ | ⟨u, c, job, rfl, -⟩ |
    ⟨u, call, answer, stop, result, mid, rfl, hturn⟩
  · cases hend
  · cases hend
  · simp only [Event.disposition?] at hend
    split at hend
    · next hut =>
      subst hut
      obtain ⟨fate, hanswer⟩ := hturn.answered
      have hhandles := work_handles stop [] call.work answer
      rw [hend] at hhandles
      obtain ⟨r, k, rec, hwork, hends, hsame⟩ := ends_of_handles hs hhandles hanswer
      rw [← hturn.store] at hsame
      exact ⟨call, r, k, rec, hturn.found, hwork, hends, hsame⟩
    · cases hend

end Interplay

end Outbox
