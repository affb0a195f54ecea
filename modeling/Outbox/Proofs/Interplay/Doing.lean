import Outbox.Proofs.Interplay.Deed
/-!
# `Proofs.Interplay.Doing` — what a step does with the messages that the publishers hold

A turn of a call of a publisher is a deed as long as what the call records fits to what it is to
record, and the carried outcome that it records is still the first of those that its publisher
carries. Both hold in every state of a run, since at most one call of a publisher has the carried
outcomes to itself, and no other call changes them meanwhile. So every step of a run is a deed of
one call, or leaves the messages that the publishers hold where they are.
-/

namespace Outbox.Interplay

/-! ## Steps as deeds -/

/-- The message that the broker took in a step. -/
def Event.accepted? : Event → Option MessageId
  | .turn _ call answer _ => call.request.accepted? answer
  | .outside _ | .start .. => none

/-- The messages whose claims were to end in a step, but could not be ended. -/
def Event.unreleased : Event → List MessageId
  | .turn _ call answer _ => call.request.unreleased answer
  | .outside _ | .start .. => []

/-- The publisher whose carried outcomes a call has to itself. -/
def Work.inside? (w : Work) : Option PublisherId :=
  if w.isInside then w.publisher? else none

/-- The publisher that a task works for. -/
def System.publisherOf (s : System) (t : TaskId) : Option PublisherId :=
  s.look Work.publisher? none t

/-- What a task has in hand. -/
def System.handOf (s : System) (t : TaskId) : Hand :=
  s.look Work.hand .empty t

/-- The publisher whose carried outcomes a task has to itself. -/
def System.insideOf (s : System) (t : TaskId) : Option PublisherId :=
  s.look Work.inside? none t

/-- What the calls and the publishers need for their turns to be deeds. -/
structure Fitting (s : System) : Prop where
  /-- What a call records is what it is to record. -/
  fits : ∀ {t call}, s.calls.get? t = some call → call.work.Fits (s.carriedFor call.work)
  /-- What is carried are outcomes of publishing. -/
  publishing : ∀ {p outcome}, outcome ∈ s.carriedOf p → outcome.IsOfPublishing
  /-- No two calls have the carried outcomes of one publisher to themselves. -/
  alone : ∀ {t u p}, s.insideOf t = some p → s.insideOf u = some p → t = u

/-- What a step does with the messages that the publishers hold. -/
inductive Doing (s s' : System) (e : Event) : Prop
  /-- Nobody does anything with them. -/
  | aside (hands : ∀ t, s'.handOf t = s.handOf t) (carried : ∀ p, s'.carriedOf p = s.carriedOf p)
      (store : s.store.Same s'.store ∨ ∃ m, s.store.Inserted m s'.store)
      (accepted : e.accepted? = none) (unreleased : e.unreleased = [])
  /-- A call that works for no publisher moves the status of a message. -/
  | records {t : TaskId} {call : Call} {rec : Recording} {old : Status}
      (found : s.calls.get? t = some call) (publisher : call.work.publisher? = none)
      (record : call.work.record? = some rec)
      (store : s.store.Moved rec.outcome.id old rec.outcome.target s'.store)
      (hands : ∀ t, s'.handOf t = s.handOf t) (carried : ∀ p, s'.carriedOf p = s.carriedOf p)
      (accepted : e.accepted? = none) (unreleased : e.unreleased = [])
  /-- A call of a publisher takes its turn. -/
  | publishes {t : TaskId} {p : PublisherId} {call : Call} {answer : call.request.Answer}
      {result : Option Result} (event : e = .turn t call answer result)
      (found : s.calls.get? t = some call) (publisher : call.work.publisher? = some p)
      (hands : ∀ u, u ≠ t → s'.handOf u = s.handOf u)
      (carried : ∀ q, q ≠ p → s'.carriedOf q = s.carriedOf q)
      (deed : Deed s.store s'.store e.accepted? e.unreleased call.work.isAbandoning (s.carriedOf p)
        (s.handOf t) (s'.carriedOf p) (s'.handOf t))

section Turns

variable {c : Config}

/-- A call has the carried outcomes to itself only once it has asked for that. -/
theorem enters_of_batching (stop : Bool) (carried : List Outcome) {batch : Batching}
    (answer : (batch.request c).Answer) (hout : batch.isInside = false)
    (henter : batch.request c ≠ .enter) :
    (batch.resume c stop carried answer).1 = carried ∧
    (batch.resume c stop carried answer).2.progress.look Batching.isInside false = false := by
  cases batch with
  | opening | keeping => exact absurd rfl henter
  | recovering | freeing => cases hout
  | fetching summary =>
    change Except StoreFailure (List Message) at answer
    rcases answer with failure | batch
    · exact ⟨rfl, rfl⟩
    · refine ⟨rfl, ?_⟩
      simp only [Batching.resume]
      cases batch <;> rfl
  | publishing summary m rest =>
    change Except BrokerFailure Unit at answer
    rcases answer with failure | ⟨⟩
    · exact ⟨rfl, rfl⟩
    · exact ⟨rfl, rfl⟩
  | recording summary outcome rest rec =>
    refine ⟨rfl, ?_⟩
    simp only [Batching.resume]
    cases hp : (rec.resume c answer).progress with
    | waiting rec' => rw [Turn.andThen_of_waiting hp]; rfl
    | finished result =>
      rw [Turn.andThen_of_finished hp]
      rcases result with failure | result
      · rfl
      · cases rest <;> cases stop <;> rfl
  | releasing summary rest =>
    change Except StoreFailure Unit at answer
    rcases answer with failure | ⟨⟩
    · exact ⟨rfl, rfl⟩
    · exact ⟨rfl, rfl⟩

theorem inside_afterBatch (stop : Bool) (result : Except StoreFailure BatchSummary) :
    (Publishing.afterBatch c stop result).progress.look Publishing.isInside false = false := by
  obtain ⟨next, hwaits, hbetween⟩ := Publishing.afterBatch_waits c stop result
  rw [hwaits]
  cases hbetween <;> rfl

theorem enters_of_publishing (stop : Bool) (carried : List Outcome) {work : Publishing}
    (answer : (work.request c).Answer) (hout : work.isInside = false)
    (henter : work.request c ≠ .enter) :
    (work.resume c stop carried answer).1 = carried ∧
    (work.resume c stop carried answer).2.progress.look Publishing.isInside false = false := by
  cases work with
  | starting => cases stop <;> exact ⟨rfl, rfl⟩
  | batching batch =>
    obtain ⟨hcarried, hin⟩ := enters_of_batching stop carried answer hout henter
    refine ⟨hcarried, ?_⟩
    simp only [Publishing.resume]
    rw [Turn.look_andThen (fun _ => rfl) (inside_afterBatch stop)]
    exact hin
  | pausing milliseconds =>
    change Bool at answer
    cases answer
    · cases stop <;> exact ⟨rfl, rfl⟩
    · exact ⟨rfl, rfl⟩
  | abandoning => exact absurd rfl henter
  | releasing ids =>
    change Except StoreFailure Unit at answer
    rcases answer with failure | ⟨⟩
    · exact ⟨rfl, rfl⟩
    · exact ⟨rfl, rfl⟩

/-- A call that has not the carried outcomes to itself, and has not asked for that, leaves them
alone. -/
theorem enters_of_work (stop : Bool) (carried : List Outcome) {work : Work}
    (answer : (work.request c).Answer) (hout : work.isInside = false)
    (henter : work.request c ≠ .enter) : (work.resume c stop carried answer).1 = carried ∧
    (work.resume c stop carried answer).2.progress.look Work.isInside false = false := by
  have hidle {σ α : Type} {turn : Turn σ α} {wrap : σ → Work} {next : α → Turn Work Result}
      (hwrap : ∀ state, (wrap state).isInside = false)
      (hnext : ∀ outcome, (next outcome).progress.look Work.isInside false = false) :
      (turn.andThen wrap next).progress.look Work.isInside false = false := by
    rw [Turn.look_andThen (g := fun _ => false) hwrap hnext]
    cases turn.progress <;> rfl
  cases work with
  | recording rec => exact ⟨rfl, hidle (fun _ => rfl) fun _ => rfl⟩
  | handling work => exact ⟨rfl, hidle (fun _ => rfl) fun _ => rfl⟩
  | consuming work => exact ⟨rfl, hidle (fun _ => rfl) fun _ => rfl⟩
  | batching p batch =>
    obtain ⟨hcarried, hin⟩ := enters_of_batching stop carried answer hout henter
    refine ⟨hcarried, ?_⟩
    simp only [Work.resume]
    rw [Turn.look_andThen (fun _ => rfl) fun _ => rfl]
    exact hin
  | publishing p work =>
    obtain ⟨hcarried, hin⟩ := enters_of_publishing stop carried answer hout henter
    refine ⟨hcarried, ?_⟩
    simp only [Work.resume]
    rw [Turn.look_andThen (fun _ => rfl) fun _ => rfl]
    exact hin

/-- A call works for the same publisher all the time. -/
theorem publisher?_of_turn (stop : Bool) (carried : List Outcome) {work next : Work}
    (answer : (work.request c).Answer)
    (h : (work.resume c stop carried answer).2.progress = .waiting next) :
    next.publisher? = work.publisher? := by
  cases work with
  | recording | handling | consuming | batching | publishing =>
    rcases Turn.waiting_cases h with ⟨_, -, rfl⟩ | ⟨_, -, hnext⟩
    · rfl
    · cases hnext

end Turns

section Fitting

variable {s s' mid : System} {t u : TaskId} {p : PublisherId} {e : Event}

theorem insideOf_cases (h : s.insideOf t = some p) : ∃ call, s.calls.get? t = some call ∧
    call.work.publisher? = some p ∧ call.work.isInside = true := by
  rcases s.look_cases Work.inside? none t with ⟨call, hfound, hlook⟩ | ⟨-, hlook⟩
  · rw [System.insideOf, hlook, Work.inside?] at h
    split at h
    · next hin => exact ⟨call, hfound, h, hin⟩
    · cases h
  · rw [System.insideOf, hlook] at h
    cases h

/-- Nobody else has the carried outcomes of a publisher to itself when a call gets them. -/
theorem eq_of_isFree (h : s.isFree t p = true) (hu : s.insideOf u = some p) : u = t := by
  obtain ⟨call, hfound, hp, hin⟩ := insideOf_cases hu
  have hfree := List.all_eq_true.mp h _ (Table.mem_entries_of_get? hfound)
  simpa [hp, hin] using hfree

/-- A call that gets the carried outcomes to itself finds them free. -/
theorem isFree_of_enter {call : Call} {fate : Fate} {r : Request} {answer : r.Answer}
    (hr : r = .enter) (h : s.answer? t call fate r = some (answer, mid))
    (hp : call.work.publisher? = some p) : s.isFree t p = true := by
  subst hr
  exact (answer_enter h).2 p hp

theorem carriedFor_of_publisher {w : Work} (h : w.publisher? = some p) :
    s.carriedFor w = s.carriedOf p := by
  rw [System.carriedFor, h]

/-- The work of a call still fits when the carried outcomes of its publisher change while the call
has not got them to itself. -/
theorem fits_of_outside {w : Work} {carried carried' : List Outcome} (hfits : w.Fits carried)
    (hout : w.isInside = false) : w.Fits carried' := by
  have batch {b : Batching} (hfits : b.Fits carried) (hout : b.isInside = false) :
      b.Fits carried' := by
    cases b with
    | recovering | freeing => cases hout
    | _ => exact hfits
  cases w with
  | recording | handling | consuming => exact hfits
  | batching p b => exact batch hfits hout
  | publishing p w =>
    cases w with
    | batching b => exact batch hfits hout
    | _ => trivial

theorem fitting_initial : Fitting .initial := by
  refine ⟨?_, ?_, ?_⟩
  · intro t call h
    cases h
  · intro p outcome h
    cases h
  · intro t u p h
    cases h

theorem Fitting.of_same (hf : Fitting s) (hcalls : s'.calls = s.calls)
    (hcarried : s'.carried = s.carried) : Fitting s' := by
  have hof (p : PublisherId) : s'.carriedOf p = s.carriedOf p := by
    rw [System.carriedOf, System.carriedOf, hcarried]
  have hfor (w : Work) : s'.carriedFor w = s.carriedFor w := by
    rw [System.carriedFor, System.carriedFor]
    split
    · exact hof _
    · rfl
  have hin (t : TaskId) : s'.insideOf t = s.insideOf t := by
    rw [System.insideOf, System.insideOf, System.look, System.look, hcalls]
  refine ⟨?_, ?_, ?_⟩
  · intro t call h
    rw [hfor]
    exact hf.fits (hcalls ▸ h)
  · intro p outcome h
    exact hf.publishing (hof p ▸ h)
  · intro t u p ht hu
    exact hf.alone (hin t ▸ ht) (hin u ▸ hu)

theorem Fitting.started {c : Config} {job : Job} (hf : Fitting s) (h : Started s t c job s') :
    Fitting s' := by
  have hstate := h.state
  have hin (u : TaskId) (p : PublisherId) (hu : s'.insideOf u = some p) :
      s.insideOf u = some p := by
    rw [System.insideOf, h.look] at hu
    split at hu
    · cases job <;> cases hu
    · exact hu
  refine ⟨?_, ?_, ?_⟩
  · intro u call hu
    subst hstate
    rw [Table.get?_put] at hu
    split at hu
    · cases hu
      cases job with
      | handle r => exact ⟨rfl, trivial⟩
      | _ => trivial
    · exact hf.fits hu
  · subst hstate
    exact hf.publishing
  · intro u v p hu hv
    exact hf.alone (hin u p hu) (hin v p hv)

variable {call : Call} {answer : call.request.Answer} {stop : Bool} {result : Option Result}

/-- A call that has the carried outcomes to itself after its turn had them before, or nobody else
had them. -/
theorem Turned.inside (h : Turned s t call answer stop result mid s')
    (hin : s'.insideOf t = some p) : call.work.publisher? = some p ∧
    (s.insideOf t = some p ∨ ∀ u, s.insideOf u = some p → u = t) := by
  rw [System.insideOf, h.look, if_pos rfl] at hin
  obtain ⟨next, hp, hin⟩ := Progress.waiting_of_look hin nofun
  simp only [Work.inside?] at hin
  split at hin
  · next hnext =>
    have hpub : call.work.publisher? = some p :=
      (publisher?_of_turn stop _ answer hp).symm.trans hin
    refine ⟨hpub, ?_⟩
    cases hbefore : call.work.isInside with
    | true =>
      left
      rw [System.insideOf, h.look_before, Work.inside?, if_pos hbefore, hpub]
    | false =>
      right
      obtain ⟨fate, hanswer⟩ := h.answered
      by_cases henter : call.request = .enter
      · exact fun u hu => eq_of_isFree (isFree_of_enter henter hanswer hpub) hu
      · -- without asking for them it cannot have got them
        have hout := (enters_of_work stop (s.carriedFor call.work) answer hbefore henter).2
        rw [System.turnOf] at hp
        rw [hp] at hout
        exact absurd (hnext.symm.trans hout) (by decide)
  · cases hin

/-- Nobody changes the carried outcomes that another call has to itself. -/
theorem Turned.carried_kept (h : Turned s t call answer stop result mid s') (hf : Fitting s)
    (hu : s.insideOf u = some p) (hne : u ≠ t) : s'.carriedOf p = s.carriedOf p := by
  rw [h.carried]
  split
  · next hp =>
    obtain ⟨fate, hanswer⟩ := h.answered
    have hout : call.work.isInside = false := by
      cases hin : call.work.isInside with
      | false => rfl
      | true =>
        have ht : s.insideOf t = some p := by
          rw [System.insideOf, h.look_before, Work.inside?, if_pos hin, hp]
        exact absurd (hf.alone hu ht) hne
    -- while the other is inside nobody else gets in
    have henter : call.request ≠ .enter :=
      fun henter => hne (eq_of_isFree (isFree_of_enter henter hanswer hp) hu)
    rw [System.turnOf, (enters_of_work stop _ answer hout henter).1, carriedFor_of_publisher hp]
  · rfl

/-- What a call of a publisher does in its turn. -/
theorem Turned.deed (h : Turned s t call answer stop result mid s') (hs : s.store.Sound)
    (hf : Fitting s)
    (hdue : ∀ {t entry}, s.dueOf t = some entry → Settled s.store entry.messageId)
    (hp : call.work.publisher? = some p) :
    Deed s.store s'.store (call.request.accepted? answer) (call.request.unreleased answer)
      call.work.isAbandoning (s.carriedOf p) (s.handOf t) (s'.carriedOf p) (s'.handOf t) ∧
    (s.turnOf call stop answer).2.progress.look (Work.Fits (s'.carriedOf p)) True := by
  obtain ⟨fate, hanswer⟩ := h.answered
  have hfits := hf.fits h.found
  rw [carriedFor_of_publisher hp] at hfits
  have hentry : ∀ entry, call.work.due? = some entry →
      s.store.status? entry.messageId ≠ some .pending := by
    intro entry hentry
    have hat : s.dueOf t = call.work.due? := h.look_before ..
    exact (hdue (hat.trans hentry)).not_pending
  obtain ⟨hdeed, hnext⟩ := deed_of_work stop hp hs hfits (fun _ => hf.publishing) hentry hanswer
  have hturn : s.turnOf call stop answer =
      call.work.resume call.config stop (s.carriedOf p) answer := by
    rw [System.turnOf, carriedFor_of_publisher hp]
  have hcarried : s'.carriedOf p = (call.work.resume call.config stop (s.carriedOf p) answer).1 := by
    rw [h.carried, if_pos hp, hturn]
  have hhand : s'.handOf t = (call.work.resume call.config stop (s.carriedOf p)
      answer).2.progress.look Work.hand .empty := by
    rw [System.handOf, h.look, if_pos rfl, hturn]
  have hbefore : s.handOf t = call.work.hand := h.look_before ..
  rw [h.store, hcarried, hhand, hbefore, hturn]
  exact ⟨hdeed, hnext⟩

/-- What a call that works for no publisher does in its turn. -/
theorem Turned.others (h : Turned s t call answer stop result mid s') (hs : s.store.Sound)
    (hf : Fitting s) (hp : call.work.publisher? = none) :
    (s.store.Same s'.store ∨ ∃ rec old, call.work.record? = some rec ∧
      s.store.Moved rec.outcome.id old rec.outcome.target s'.store) ∧
    (call.request.accepted? answer = none ∧ call.request.unreleased answer = []) ∧
    s'.handOf t = s.handOf t ∧ (∀ q, s'.carriedOf q = s.carriedOf q) ∧
    (s.turnOf call stop answer).2.progress.look (Work.Fits (s.carriedFor call.work)) True := by
  obtain ⟨fate, hanswer⟩ := h.answered
  obtain ⟨hstore, hsaid, hbefore, hafter, hnext⟩ :=
    turn_of_others stop hp hs (hf.fits h.found) hanswer
  refine ⟨h.store ▸ hstore, hsaid, ?_, ?_, hnext⟩
  · rw [System.handOf, h.look, if_pos rfl, System.handOf, h.look_before, hbefore]
    exact hafter
  · intro q
    rw [h.carried, hp, if_neg (by simp)]

/-- What carried outcomes are of stays what it is, since they come from publishing. -/
theorem Deed.publishing {before after : Store} {accepted : Option MessageId}
    {unreleased : List MessageId} {stopping : Bool} {carried carried' : List Outcome}
    {hand hand' : Hand}
    (h : Deed before after accepted unreleased stopping carried hand carried' hand')
    (hcarried : ∀ outcome ∈ carried, outcome.IsOfPublishing)
    (hhand : ∀ outcome, hand.outcome = some outcome → outcome.IsOfPublishing) :
    ∀ outcome ∈ carried', outcome.IsOfPublishing := by
  cases h with
  | rests | moves | fetches | sends | settles | releases | strands => exact hcarried
  | keeps =>
    intro outcome hmem
    rcases List.mem_append.mp hmem with hmem | hmem
    · exact hcarried outcome hmem
    · rw [List.mem_singleton.mp hmem]
      exact hhand _ rfl
  | recovers | withdraws => exact fun outcome hmem => hcarried outcome (List.mem_of_mem_tail hmem)
  | abandons =>
    intro outcome hmem
    cases hmem

/-- The outcome in hand is one of publishing. -/
theorem Work.Fits.publishing {w : Work} {carried : List Outcome} (hfits : w.Fits carried)
    {outcome : Outcome} (h : w.hand.outcome = some outcome) : outcome.IsOfPublishing := by
  have batch {b : Batching} (hfits : b.Fits carried) (h : b.hand.outcome = some outcome) :
      outcome.IsOfPublishing := by
    cases b with
    | recording =>
      cases h
      exact hfits.2
    | keeping =>
      cases h
      exact hfits
    | _ => cases h
  cases w with
  | recording | handling | consuming => cases h
  | batching p b => exact batch hfits h
  | publishing p w =>
    cases w with
    | batching b => exact batch hfits h
    | _ => cases h

theorem Turned.fitting (h : Turned s t call answer stop result mid s') (hs : s.store.Sound)
    (hf : Fitting s)
    (hdue : ∀ {t entry}, s.dueOf t = some entry → Settled s.store entry.messageId) :
    Fitting s' := by
  have hcall := hf.fits h.found
  -- the work of the call itself fits to what its publisher then carries
  have hmine {next : Work} (hnext : (s.turnOf call stop answer).2.progress = .waiting next) :
      next.Fits (s'.carriedFor next) := by
    have hsame := publisher?_of_turn stop _ answer hnext
    cases hp : call.work.publisher? with
    | none =>
      obtain ⟨-, -, -, -, hfits⟩ := h.others hs hf hp
      rw [hnext] at hfits
      rw [System.carriedFor, hp] at hfits
      rw [System.carriedFor, hsame, hp]
      exact hfits
    | some p =>
      have hfits := (h.deed hs hf hdue hp).2
      rw [hnext] at hfits
      rw [carriedFor_of_publisher (hsame.trans hp)]
      exact hfits
  refine ⟨?_, ?_, ?_⟩
  · intro u other hu
    rw [h.calls] at hu
    split at hu
    · obtain ⟨next, hnext, hcall⟩ := Progress.waiting_of_look hu fun h => by cases h
      cases hcall
      exact hmine hnext
    · next hne =>
      -- another call either does not care for what is carried, or has it to itself
      have hfits := hf.fits hu
      cases hp : other.work.publisher? with
      | none =>
        rw [System.carriedFor, hp] at hfits
        rw [System.carriedFor, hp]
        exact hfits
      | some p =>
        cases hin : other.work.isInside with
        | false => exact fits_of_outside hfits hin
        | true =>
          have hinside : s.insideOf u = some p := by
            rw [System.insideOf, System.look_of_found hu, Work.inside?, if_pos hin, hp]
          rw [carriedFor_of_publisher hp] at hfits ⊢
          rw [h.carried_kept hf hinside (Ne.symm hne)]
          exact hfits
  · intro p outcome hmem
    cases hp : call.work.publisher? with
    | none =>
      rw [(h.others hs hf hp).2.2.2.1] at hmem
      exact hf.publishing hmem
    | some q =>
      by_cases hq : p = q
      · subst hq
        refine (h.deed hs hf hdue hp).1.publishing (fun _ => hf.publishing) ?_ outcome hmem
        intro outcome hhand
        rw [System.handOf, h.look_before] at hhand
        exact hcall.publishing hhand
      · rw [h.carried, hp, if_neg (by simpa using Ne.symm hq)] at hmem
        exact hf.publishing hmem
  · -- only the call that has taken its turn can be new inside
    intro u v p hu hv
    have hother {w : TaskId} (hne : w ≠ t) : s'.insideOf w = s.insideOf w := by
      rw [System.insideOf, h.look, if_neg (Ne.symm hne), System.insideOf]
    by_cases hut : u = t <;> by_cases hvt : v = t
    · rw [hut, hvt]
    · subst hut
      rw [hother hvt] at hv
      rcases (h.inside hu).2 with hbefore | hfree
      · exact hf.alone hbefore hv
      · exact (hfree v hv).symm
    · subst hvt
      rw [hother hut] at hu
      rcases (h.inside hv).2 with hbefore | hfree
      · exact hf.alone hu hbefore
      · exact hfree u hu
    · rw [hother hut] at hu
      rw [hother hvt] at hv
      exact hf.alone hu hv

/-- What every step needs is there in every state of a run. -/
theorem Run.fitting {trace : List Moment} (run : Run .initial trace s) : Fitting s := by
  induction run with
  | nil => exact fitting_initial
  | snoc run h ih =>
    rcases Step.cases h with ⟨o, -, hallowed, rfl⟩ | ⟨t, c, job, -, hstart⟩ |
      ⟨t, call, answer, stop, result, mid, -, hturn⟩
    · obtain ⟨-, hcarried, hcalls, -⟩ := outside_cases hallowed
      exact ih.of_same hcalls hcarried
    · exact ih.started hstart
    · exact hturn.fitting run.sound ih run.due_settled

/-- **What a step does with the messages that the publishers hold.** -/
theorem Run.doing {trace : List Moment} (run : Run .initial trace s) (h : Step s e s') :
    Doing s s' e := by
  have hs := run.sound
  have hf := run.fitting
  rcases Step.cases h with ⟨o, rfl, hallowed, rfl⟩ | ⟨t, c, job, rfl, hstart⟩ |
    ⟨t, call, answer, stop, result, mid, rfl, hturn⟩
  · obtain ⟨-, hcarried, hcalls, hstore⟩ := outside_cases hallowed
    refine .aside (fun t => ?_) (fun p => ?_) hstore rfl rfl
    · rw [System.handOf, System.handOf, System.look, System.look, hcalls]
    · rw [System.carriedOf, System.carriedOf, hcarried]
  · refine .aside (fun u => ?_) (fun p => ?_) (.inl ?_) rfl rfl
    · rw [System.handOf, hstart.look]
      split
      · next htu =>
        subst htu
        rw [System.handOf, System.look_of_absent hstart.absent]
        cases job <;> rfl
      · rfl
    · rw [hstart.state]
      rfl
    · rw [hstart.state]
      exact .refl _
  · have hhands (u : TaskId) (hu : u ≠ t) : s'.handOf u = s.handOf u := by
      rw [System.handOf, hturn.look, if_neg (Ne.symm hu), System.handOf]
    cases hp : call.work.publisher? with
    | none =>
      obtain ⟨hstore, ⟨haccepted, hunreleased⟩, hhand, hcarried, -⟩ := hturn.others hs hf hp
      have hands := eq_everywhere hhand hhands
      rcases hstore with hsame | ⟨rec, old, hrec, hmoved⟩
      · exact .aside hands hcarried (.inl hsame) haccepted hunreleased
      · exact .records hturn.found hp hrec hmoved hands hcarried haccepted hunreleased
    | some p =>
      refine .publishes rfl hturn.found hp hhands (fun q hq => ?_)
        (hturn.deed hs hf run.due_settled hp).1
      rw [hturn.carried, hp, if_neg (by simpa using Ne.symm hq)]

end Fitting

end Outbox.Interplay
