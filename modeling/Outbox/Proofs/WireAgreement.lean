import Outbox.Proofs.Interplay.Ownership
import Outbox.Proofs.Interplay.Wire
/-!
# `Proofs.WireAgreement` — the store and the broker agree

A message is handed to the broker first, and its status is written afterwards, so that a failure in
between leaves the store behind. Here it is shown that the store never loses track: however the
calls are interleaved and whatever fails, the broker accepts a message at most once, the status of a
message that is not pending tells whether it was accepted, and of a pending message that was
accepted exactly one publisher knows this and will write it down.
-/

namespace Outbox.Interplay

/-! ## What the statement speaks of -/

/-- Whether a step is one of publishers and consumers: nobody else records a status, and a publisher
that stops has no outcome to give up. -/
def Moment.isOrderly (moment : Moment) : Bool :=
  match moment.event with
  | .outside _ => true
  | .start _ _ (.record _) => false
  | .start .. => true
  | .turn _ call _ _ => !call.work.isAbandoning || (moment.before.carriedFor call.work).isEmpty

/-- A run of publishers and consumers in which no publisher gives up an outcome. -/
def Orderly (trace : List Moment) : Prop :=
  ∀ moment ∈ trace, moment.isOrderly = true

instance (trace : List Moment) : Decidable (Orderly trace) :=
  inferInstanceAs (Decidable (∀ _ ∈ trace, _))

/-- A publisher knows that a message was enqueued: a call of it is about to record this, or it is
among the outcomes that the publisher carries. -/
def System.HoldsEnqueued (s : System) (p : PublisherId) (id : MessageId) : Prop :=
  ∃ outcome : Outcome, outcome.id = id ∧ outcome.target = .enqueued ∧
    ((∃ t, s.publisherOf t = some p ∧ (s.handOf t).outcome = some outcome) ∨
      outcome ∈ s.carriedOf p)

/-! ## The invariant -/

/-- An outcome says how often the broker has accepted its message. -/
def Outcome.Agrees (accepted : MessageId → Nat) (outcome : Outcome) : Prop :=
  (outcome.target = .enqueued ∧ accepted outcome.id = 1) ∨
    (outcome.target = .notEnqueued ∧ accepted outcome.id = 0)

/-- A status says how often the broker has accepted the message; that of a pending message says only
that it was not more than once. -/
def StatusAgrees : Option Status → Nat → Prop
  | some .pending, n => n ≤ 1
  | none, n | some .notEnqueued, n => n = 0
  | some .enqueued, n | some .delivered, n | some .deliveredFailed, n => n = 1

/-- What the calls hold and what the store says agrees with what the broker has accepted. -/
structure Agreed (accepted : MessageId → Nat) (s : System) : Prop where
  /-- What is yet to be sent is pending and was not accepted. -/
  unsent : ∀ {t id}, id ∈ (s.handOf t).unsent →
    s.store.status? id = some .pending ∧ accepted id = 0
  /-- What is to be recorded is what came of publishing. -/
  inHand : ∀ {t outcome}, (s.handOf t).outcome = some outcome → Outcome.Agrees accepted outcome
  /-- What is carried is what came of publishing. -/
  carried : ∀ {p outcome}, outcome ∈ s.carriedOf p → Outcome.Agrees accepted outcome
  /-- What is given back and pending was not accepted. -/
  leaving : ∀ {t id}, id ∈ (s.handOf t).leaving → s.store.status? id = some .pending →
    accepted id = 0
  status : ∀ id, StatusAgrees (s.store.status? id) (accepted id)
  /-- That a pending message was accepted is known to somebody. -/
  held : ∀ {id}, s.store.status? id = some .pending → accepted id = 1 →
    ∃ outcome : Outcome, outcome.id = id ∧ outcome.target = .enqueued ∧
      ((∃ t, (s.handOf t).outcome = some outcome) ∨ ∃ p, outcome ∈ s.carriedOf p)

/-! ## Deeds -/

/-- A deed that moves no status and sends nothing, from the hand of a call and what its publisher
carries to those after it. -/
structure Calm (s s' : Store) (carried : List Outcome) (hand : Hand) (carried' : List Outcome)
    (hand' : Hand) : Prop where
  status : ∀ id, s'.status? id = s.status? id
  unsent : ∀ {id}, id ∈ hand'.unsent → id ∈ hand.unsent ∨
    (s.status? id = some .pending ∧ id ∉ s.claimed)
  inHand : ∀ {outcome}, hand'.outcome = some outcome → hand.outcome = some outcome
  listed : ∀ {outcome}, outcome ∈ carried' → outcome ∈ carried ∨ hand.outcome = some outcome
  leaving : ∀ {id}, id ∈ hand'.leaving → s.status? id = some .pending →
    id ∈ hand.leaving ∨ id ∈ hand.unsent
  kept : ∀ {outcome}, hand.outcome = some outcome ∨ outcome ∈ carried →
    s.status? outcome.id = some .pending → hand'.outcome = some outcome ∨ outcome ∈ carried'

section Deeds

variable {s s' : Store} {accepted : Option MessageId} {unreleased : List MessageId}
  {stopping : Bool} {carried carried' : List Outcome} {hand hand' : Hand}

theorem mem_tail_of_pending {outcome other : Outcome} (hhead : carried.head? = some outcome)
    (hdone : s.status? outcome.id ≠ some .pending) (hmem : other ∈ carried)
    (hpending : s.status? other.id = some .pending) : other ∈ carried.tail := by
  cases carried with
  | nil => cases hmem
  | cons first later =>
    cases hhead
    rcases List.mem_cons.mp hmem with rfl | hmem
    · exact absurd hpending hdone
    · exact hmem

/-- A deed moves a status, sends a message, or is calm. -/
theorem Deed.sorted (h : Deed s s' accepted unreleased stopping carried hand carried' hand')
    (hstop : stopping = true → carried = []) :
    (accepted = none ∧ hand' = hand ∧ carried' = carried ∧ ∃ (outcome : Outcome) (old : Status),
      (hand.outcome = some outcome ∨ outcome ∈ carried) ∧
        s.Moved outcome.id old outcome.target s') ∨
    (∃ (rest : List MessageId) (outcome : Outcome), hand = ⟨outcome.id :: rest, none, []⟩ ∧
      hand' = ⟨rest, some outcome, []⟩ ∧ carried' = carried ∧ s.Same s' ∧
      ((accepted = some outcome.id ∧ outcome.target = .enqueued) ∨
        (accepted = none ∧ outcome.target = .notEnqueued))) ∨
    (accepted = none ∧ Calm s s' carried hand carried' hand') := by
  cases h with
  | moves hheld hmoved htook =>
    exact .inl ⟨htook, rfl, rfl, _, _, hheld.imp_right List.mem_of_head?, hmoved⟩
  | sends hid htook hsame =>
    subst hid
    exact .inr (.inl ⟨_, _, rfl, rfl, rfl, hsame, htook⟩)
  | rests hsame htook =>
    exact .inr (.inr ⟨htook, hsame.status?, .inl, id, .inl, fun h _ => .inl h, fun h _ => h⟩)
  | fetches hfetched htook =>
    refine .inr (.inr ⟨htook, hfetched.status?, ?_, ?_, .inl, ?_, ?_⟩)
    · exact fun h => .inr (hfetched.was_available h)
    · intro outcome h
      cases h
    · intro id h
      cases h
    · intro outcome h _
      rcases h with h | h
      · cases h
      · exact .inr h
  | @settles outcome rest unsent leaving hdone hsame hsplit htook =>
    refine .inr (.inr ⟨htook, hsame.status?, ?_, ?_, .inl, ?_, ?_⟩)
    · intro id h
      rcases hsplit with ⟨rfl, -⟩ | ⟨rfl, -⟩
      · exact .inl h
      · cases h
    · intro outcome h
      cases h
    · intro id h _
      rcases hsplit with ⟨-, rfl⟩ | ⟨-, rfl⟩
      · cases h
      · exact .inr h
    · intro other h hpending
      rcases h with h | h
      · cases h
        exact absurd hpending hdone
      · exact .inr h
  | @keeps outcome rest hsame htook =>
    refine .inr (.inr ⟨htook, hsame.status?, ?_, ?_, ?_, ?_, ?_⟩)
    · intro id h
      cases h
    · intro other h
      cases h
    · intro other h
      rcases List.mem_append.mp h with h | h
      · exact .inl h
      · rw [List.mem_singleton.mp h]
        exact .inr rfl
    · exact fun h _ => .inr h
    · intro other h _
      right
      rw [List.mem_append]
      rcases h with h | h
      · cases h
        exact .inr (List.mem_singleton_self _)
      · exact .inl h
  | recovers hhead hdone hsame htook =>
    refine .inr (.inr ⟨htook, hsame.status?, .inl, id, ?_, fun h _ => .inl h, ?_⟩)
    · exact fun h => .inl (List.mem_of_mem_tail h)
    · intro other h hpending
      rcases h with h | h
      · cases h
      · exact .inr (mem_tail_of_pending hhead hdone h hpending)
  | withdraws hhead hdone hsame htook =>
    refine .inr (.inr ⟨htook, hsame.status?, .inl, id, ?_, ?_, ?_⟩)
    · exact fun h => .inl (List.mem_of_mem_tail h)
    · intro id h hpending
      rw [List.mem_singleton.mp h] at hpending
      exact absurd hpending hdone
    · intro other h hpending
      rcases h with h | h
      · cases h
      · exact .inr (mem_tail_of_pending hhead hdone h hpending)
  | releases hreleased htook =>
    refine .inr (.inr ⟨htook, hreleased.status?, .inl, id, .inl, ?_, fun h _ => h⟩)
    intro id h
    cases h
  | strands hsame htook =>
    refine .inr (.inr ⟨htook, hsame.status?, .inl, id, .inl, ?_, fun h _ => h⟩)
    intro id h
    cases h
  | abandons hstops hsame htook =>
    rw [hstop hstops]
    refine .inr (.inr ⟨htook, hsame.status?, .inl, id, .inl, ?_, fun h _ => h⟩)
    intro id h
    cases h

end Deeds

/-! ## Steps keep the agreement -/

section Steps

variable {accepted : MessageId → Nat} {s s' : System} {t : TaskId} {p : PublisherId}
  {id : MessageId}

theorem agreed_initial : Agreed (fun _ => 0) .initial := by
  -- nobody holds anything, and there is no message
  refine ⟨?_, ?_, ?_, ?_, fun _ => rfl, ?_⟩
  · intro t id h
    cases h
  · intro t outcome h
    cases h
  · intro p outcome h
    cases h
  · intro t id h
    cases h
  · intro id h
    cases h

/-- A message that can be fetched was never accepted, since whoever knows of one that was still has
the claim on it. -/
theorem Agreed.unaccepted (ha : Agreed accepted s) (ho : Owned s)
    (hpending : s.store.status? id = some .pending) (hunclaimed : id ∉ s.store.claimed) :
    accepted id = 0 := by
  have hle : accepted id ≤ 1 := by
    have h := ha.status id
    rwa [hpending] at h
  have hne : accepted id ≠ 1 := by
    intro hone
    obtain ⟨outcome, rfl, -, ⟨t, ht⟩ | ⟨p, hp⟩⟩ := ha.held hpending hone
    · have hmem : outcome.id ∈ s.holding (.call t) := holds_of_outcome ht
      exact hunclaimed (ho.claimed hmem hpending)
    · have hmem : outcome.id ∈ s.holding (.publisher p) := holds_of_carried hp
      exact hunclaimed (ho.claimed hmem hpending)
  omega

/-- A calm deed. -/
theorem Agreed.of_calm (ha : Agreed accepted s) (ho : Owned s)
    (hands : ∀ u, u ≠ t → s'.handOf u = s.handOf u)
    (hcarried : ∀ q, q ≠ p → s'.carriedOf q = s.carriedOf q)
    (hcalm : Calm s.store s'.store (s.carriedOf p) (s.handOf t) (s'.carriedOf p) (s'.handOf t)) :
    Agreed accepted s' := by
  refine ⟨?_, ?_, ?_, ?_, ?_, ?_⟩
  · intro u id h
    rw [hcalm.status]
    by_cases hu : u = t
    · subst hu
      rcases hcalm.unsent h with h | ⟨hpending, hunclaimed⟩
      · exact ha.unsent h
      · exact ⟨hpending, ha.unaccepted ho hpending hunclaimed⟩
    · rw [hands u hu] at h
      exact ha.unsent h
  · intro u outcome h
    by_cases hu : u = t
    · subst hu
      exact ha.inHand (hcalm.inHand h)
    · rw [hands u hu] at h
      exact ha.inHand h
  · intro q outcome h
    by_cases hq : q = p
    · subst hq
      rcases hcalm.listed h with h | h
      · exact ha.carried h
      · exact ha.inHand h
    · rw [hcarried q hq] at h
      exact ha.carried h
  · intro u id h hpending
    rw [hcalm.status] at hpending
    by_cases hu : u = t
    · subst hu
      rcases hcalm.leaving h hpending with h | h
      · exact ha.leaving h hpending
      · exact (ha.unsent h).2
    · rw [hands u hu] at h
      exact ha.leaving h hpending
  · intro id
    rw [hcalm.status]
    exact ha.status id
  · intro id hpending hone
    rw [hcalm.status] at hpending
    obtain ⟨outcome, rfl, htarget, hholder⟩ := ha.held hpending hone
    refine ⟨outcome, rfl, htarget, ?_⟩
    -- the outcome of a pending message is passed on between the call and its publisher at most
    have hmine (h : (s.handOf t).outcome = some outcome ∨ outcome ∈ s.carriedOf p) :
        (∃ u, (s'.handOf u).outcome = some outcome) ∨ ∃ q, outcome ∈ s'.carriedOf q := by
      rcases hcalm.kept h hpending with h | h
      · exact .inl ⟨t, h⟩
      · exact .inr ⟨p, h⟩
    rcases hholder with ⟨u, hu⟩ | ⟨q, hq⟩
    · by_cases hut : u = t
      · exact hmine (.inl (hut ▸ hu))
      · exact .inl ⟨u, by rw [hands u hut]; exact hu⟩
    · by_cases hqp : q = p
      · exact hmine (.inr (hqp ▸ hq))
      · exact .inr ⟨q, by rw [hcarried q hqp]; exact hq⟩

/-- A status is moved to one that says how often the message was accepted. -/
theorem Agreed.of_moved (ha : Agreed accepted s) {old new : Status}
    (hands : ∀ u, s'.handOf u = s.handOf u) (hcarried : ∀ q, s'.carriedOf q = s.carriedOf q)
    (hmoved : s.store.Moved id old new s'.store) (hnew : StatusAgrees (some new) (accepted id))
    (hunsent : ∀ u, id ∉ (s.handOf u).unsent) : Agreed accepted s' := by
  refine ⟨?_, ?_, ?_, ?_, ?_, ?_⟩
  · intro u other h
    rw [hands] at h
    have hne : id ≠ other := fun heq => hunsent u (heq ▸ h)
    rw [hmoved.status?, if_neg hne]
    exact ha.unsent h
  · intro u outcome h
    rw [hands] at h
    exact ha.inHand h
  · intro q outcome h
    rw [hcarried] at h
    exact ha.carried h
  · intro u other h hpending
    rw [hands] at h
    exact ha.leaving h (pending_of_moved hmoved hpending).1
  · intro other
    rw [hmoved.status?]
    split
    · next hid => exact hid ▸ hnew
    · exact ha.status other
  · intro other hpending hone
    obtain ⟨outcome, hid, htarget, hholder⟩ := ha.held (pending_of_moved hmoved hpending).1 hone
    refine ⟨outcome, hid, htarget, ?_⟩
    simp only [hands, hcarried]
    exact hholder

/-- A message is sent: the broker accepts it, or does not. -/
theorem Agreed.of_sent (ha : Agreed accepted s) (ho : Owned s) {outcome : Outcome}
    {rest : List MessageId} {now : MessageId → Nat}
    (hands : ∀ u, u ≠ t → s'.handOf u = s.handOf u)
    (hcarried : ∀ q, s'.carriedOf q = s.carriedOf q)
    (hbefore : s.handOf t = ⟨outcome.id :: rest, none, []⟩)
    (hafter : s'.handOf t = ⟨rest, some outcome, []⟩) (hsame : s.store.Same s'.store)
    (hother : ∀ other, other ≠ outcome.id → now other = accepted other)
    (hsent : (now outcome.id = accepted outcome.id + 1 ∧ outcome.target = .enqueued) ∨
      (now outcome.id = accepted outcome.id ∧ outcome.target = .notEnqueued)) : Agreed now s' := by
  have hmem : outcome.id ∈ (s.handOf t).unsent := by
    rw [hbefore]
    exact List.mem_cons_self
  obtain ⟨hpending, hzero⟩ := ha.unsent hmem
  have hcall : outcome.id ∈ s.holding (.call t) := holds_of_unsent hmem
  rw [hzero] at hsent
  -- the message is in the hands of this call alone, so all others are about other messages
  have hnow (holder : Holder) (hne : holder ≠ .call t) {other : MessageId}
      (h : other ∈ s.holding holder) : now other = accepted other :=
    hother other fun heq => hne (ho.alone h (heq ▸ hcall))
  have hrest {other : MessageId} (h : other ∈ rest) : now other = accepted other := by
    have hnodup := ho.once (.call t)
    rw [System.holding, hbefore] at hnodup
    have hnot : outcome.id ∉ rest := by simp_all [Hand.ids]
    exact hother other fun heq => hnot (heq ▸ h)
  refine ⟨?_, ?_, ?_, ?_, ?_, ?_⟩
  · intro u other h
    rw [hsame.status?]
    by_cases hu : u = t
    · subst hu
      rw [hafter] at h
      have hold : other ∈ (s.handOf u).unsent := by
        rw [hbefore]
        exact List.mem_cons_of_mem _ h
      rw [hrest h]
      exact ha.unsent hold
    · rw [hands u hu] at h
      rw [hnow (.call u) (by simpa using hu) (holds_of_unsent h)]
      exact ha.unsent h
  · intro u other h
    by_cases hu : u = t
    · subst hu
      rw [hafter] at h
      cases h
      rcases hsent with ⟨hone, htarget⟩ | ⟨hnone, htarget⟩
      · exact .inl ⟨htarget, by omega⟩
      · exact .inr ⟨htarget, hnone⟩
    · rw [hands u hu] at h
      have hid : other.id ∈ s.holding (.call u) := holds_of_outcome h
      rw [Outcome.Agrees, hnow (.call u) (by simpa using hu) hid]
      exact ha.inHand h
  · intro q other h
    rw [hcarried] at h
    have hid : other.id ∈ s.holding (.publisher q) := holds_of_carried h
    rw [Outcome.Agrees, hnow (.publisher q) (by simp) hid]
    exact ha.carried h
  · intro u other h hother
    rw [hsame.status?] at hother
    by_cases hu : u = t
    · subst hu
      rw [hafter] at h
      cases h
    · rw [hands u hu] at h
      rw [hnow (.call u) (by simpa using hu) (holds_of_leaving h)]
      exact ha.leaving h hother
  · intro other
    rw [hsame.status?]
    by_cases hid : other = outcome.id
    · subst hid
      rw [hpending]
      show now outcome.id ≤ 1
      rcases hsent with ⟨hone, -⟩ | ⟨hnone, -⟩ <;> omega
    · rw [hother other hid]
      exact ha.status other
  · -- whether the message was accepted, the call itself knows now
    intro other hstatus hone
    rw [hsame.status?] at hstatus
    by_cases hid : other = outcome.id
    · subst hid
      rcases hsent with ⟨-, htarget⟩ | ⟨hnone, -⟩
      · exact ⟨outcome, rfl, htarget, .inl ⟨t, by rw [hafter]⟩⟩
      · omega
    · rw [hother other hid] at hone
      obtain ⟨known, hknown, htarget, hholder⟩ := ha.held hstatus hone
      refine ⟨known, hknown, htarget, ?_⟩
      rcases hholder with ⟨u, hu⟩ | ⟨q, hq⟩
      · have hut : u ≠ t := by
          rintro rfl
          rw [hbefore] at hu
          cases hu
        exact .inl ⟨u, by rw [hands u hut]; exact hu⟩
      · exact .inr ⟨q, by rw [hcarried]; exact hq⟩

/-- A new message is put in. -/
theorem Agreed.of_inserted (ha : Agreed accepted s) {m : Message}
    (hands : ∀ u, s'.handOf u = s.handOf u) (hcarried : ∀ q, s'.carriedOf q = s.carriedOf q)
    (hinserted : s.store.Inserted m s'.store) : Agreed accepted s' := by
  have hzero : accepted m.id = 0 := by
    have h := ha.status m.id
    rwa [hinserted.fresh] at h
  refine ⟨?_, ?_, ?_, ?_, ?_, ?_⟩
  · intro u other h
    rw [hands] at h
    rw [hinserted.status?]
    split
    · next hid => exact ⟨rfl, hid ▸ hzero⟩
    · exact ha.unsent h
  · intro u outcome h
    rw [hands] at h
    exact ha.inHand h
  · intro q outcome h
    rw [hcarried] at h
    exact ha.carried h
  · intro u other h hpending
    rw [hands] at h
    rw [hinserted.status?] at hpending
    split at hpending
    · next hid => exact hid ▸ hzero
    · exact ha.leaving h hpending
  · intro other
    rw [hinserted.status?]
    split
    · next hid =>
      show accepted other ≤ 1
      rw [← hid, hzero]
      omega
    · exact ha.status other
  · intro other hpending hone
    rw [hinserted.status?] at hpending
    split at hpending
    · next hid =>
      rw [← hid, hzero] at hone
      cases hone
    · obtain ⟨outcome, hid, htarget, hholder⟩ := ha.held hpending hone
      refine ⟨outcome, hid, htarget, ?_⟩
      simp only [hands, hcarried]
      exact hholder

end Steps

/-! ## Runs -/

/-- Whether a call records an outcome of its own accord. -/
def Work.isRecording : Work → Bool
  | .recording _ => true
  | .handling _ | .consuming _ | .batching .. | .publishing .. => false

section Runs

variable {s : System} {trace : List Moment}

/-- In an orderly run only publishers and consumers record statuses. -/
theorem Run.not_recording (run : Run .initial trace s) (orderly : Orderly trace) {t : TaskId}
    {call : Call} (hfound : s.calls.get? t = some call) : call.work.isRecording = false := by
  refine run.of_calls (P := fun call => call.work.isRecording = false) ?_ ?_ hfound
  · intro moment hmem t c job hevent
    have horderly := orderly moment hmem
    rw [Moment.isOrderly, hevent] at horderly
    cases job with
    | record => cases horderly
    | _ => rfl
  · intro s call stop answer later hbefore hlater
    obtain ⟨config, work, since⟩ := call
    cases work with
    | recording => cases hbefore
    | handling | consuming | batching | publishing =>
      rcases Turn.waiting_cases hlater with ⟨_, -, rfl⟩ | ⟨_, -, hlast⟩
      · rfl
      · cases hlast

/-- A call that works for no publisher, and does not record of its own accord, records what became
of a message that was enqueued. -/
theorem target_of_others {w : Work} {carried : List Outcome} {rec : Recording}
    (hfits : w.Fits carried) (hp : w.publisher? = none) (hnot : w.isRecording = false)
    (hrec : w.record? = some rec) :
    rec.outcome.target = .delivered ∨ rec.outcome.target = .deliveredFailed := by
  have handling {work : Handling} (hfits : work.Fits) (hrec : work.record? = some rec) :
      rec.outcome.target = .delivered ∨ rec.outcome.target = .deliveredFailed := by
    cases work with
    | recording r rechecks record =>
      cases hrec
      rw [hfits.1]
      exact target_of_receipt r
    | rechecking => cases hrec
  cases w with
  | recording => cases hnot
  | handling work => exact handling hfits hrec
  | consuming work =>
    cases work with
    | handling stream work => exact handling hfits hrec
    | _ => cases hrec
  | batching | publishing => cases hp

theorem calm_of_same {s s' : Store} (h : s.Same s') (carried : List Outcome) (hand : Hand) :
    Calm s s' carried hand carried hand :=
  ⟨h.status?, .inl, id, .inl, fun h _ => .inl h, fun h _ => h⟩

/-- The statuses, what the calls hold and the broker agree in every state of an orderly run. -/
theorem Run.agreed (run : Run .initial trace s) (orderly : Orderly trace) :
    Agreed (acceptances trace) s := by
  induction run with
  | nil => exact agreed_initial
  | @snoc trace s s' e run h ih =>
    obtain ⟨horderly, hnow⟩ := forall_mem_snoc.mp orderly
    have ha := ih horderly
    have ho := run.owned
    have hcount (hnone : e.accepted? = none) :
        acceptances (trace ++ [⟨s, e⟩]) = acceptances trace := by
      funext id
      rw [acceptances_snoc, hnone]
      rfl
    cases run.doing h with
    | aside hands hcarried hstore hnone =>
      rw [hcount hnone]
      rcases hstore with hsame | ⟨m, hinserted⟩
      · refine ha.of_calm (t := 0) (p := 0) ho (fun u _ => hands u) (fun q _ => hcarried q) ?_
        rw [hands, hcarried]
        exact calm_of_same hsame _ _
      · exact ha.of_inserted hands hcarried hinserted
    | @records t call rec old hfound hp hrec hmoved hands hcarried hnone =>
      rw [hcount hnone]
      have htarget := target_of_others (run.fitting.fits hfound) hp
        (run.not_recording horderly hfound) hrec
      -- the message was enqueued before, since only then the step is legal
      obtain ⟨rfl, hnew⟩ : old = .enqueued ∧
          StatusAgrees (some rec.outcome.target) (acceptances trace rec.outcome.id) := by
        have hlegal := hmoved.legal
        have hstatus := ha.status rec.outcome.id
        rw [hmoved.was] at hstatus
        rcases htarget with htarget | htarget <;> rw [htarget] at hlegal ⊢ <;> cases hlegal <;>
          exact ⟨rfl, hstatus⟩
      refine ha.of_moved hands hcarried hmoved hnew fun u hu => ?_
      have hpending := (ha.unsent hu).1
      rw [hmoved.was] at hpending
      cases hpending
    | @publishes t p call answer result hevent hfound hp hands hcarried hdeed =>
      have hstop : call.work.isAbandoning = true → s.carriedOf p = [] := by
        intro habandons
        rw [hevent] at hnow
        simpa [Moment.isOrderly, habandons, carriedFor_of_publisher hp] using hnow
      rcases hdeed.sorted hstop with ⟨hnone, hhand, hlist, outcome, old, hholder, hmoved⟩ |
        ⟨rest, outcome, hbefore, hafter, hlist, hsame, hsent⟩ | ⟨hnone, hcalm⟩
      · rw [hcount hnone]
        have hagrees : Outcome.Agrees (acceptances trace) outcome :=
          hholder.elim (fun h => ha.inHand h) fun h => ha.carried h
        refine ha.of_moved (eq_everywhere hhand hands) (eq_everywhere hlist hcarried) hmoved ?_
          fun u hu => ?_
        · rcases hagrees with ⟨htarget, hacc⟩ | ⟨htarget, hacc⟩ <;> rw [htarget] <;> exact hacc
        · -- nobody else is yet to send a message whose outcome the publisher holds
          have hunsent : outcome.id ∈ s.holding (.call u) := holds_of_unsent hu
          rcases hholder with h | h
          · have hcall : outcome.id ∈ s.holding (.call t) := holds_of_outcome h
            cases ho.alone hunsent hcall
            have honce := List.nodup_append.mp (ho.once (.call t))
            refine honce.2.2 _ hu outcome.id ?_ rfl
            rw [h]
            exact List.mem_append_left _ (List.mem_singleton_self _)
          · have hcall : outcome.id ∈ s.holding (.publisher p) := holds_of_carried h
            cases ho.alone hunsent hcall
      · refine ha.of_sent ho hands (eq_everywhere hlist hcarried) hbefore hafter hsame
          (fun other hne => ?_) ?_
        · have hnot : e.accepted? ≠ some other := by
            rcases hsent with ⟨hsome, -⟩ | ⟨hnone, -⟩
            · rw [hsome, Ne, Option.some.injEq]
              exact Ne.symm hne
            · rw [hnone]
              intro h
              cases h
          rw [acceptances_snoc, if_neg hnot]
          rfl
        · rw [acceptances_snoc]
          rcases hsent with ⟨hsome, htarget⟩ | ⟨hnone, htarget⟩
          · rw [if_pos hsome]
            exact .inl ⟨rfl, htarget⟩
          · rw [hnone]
            exact .inr ⟨rfl, htarget⟩
      · rw [hcount hnone]
        exact ha.of_calm ho hands hcarried hcalm

/-- Only a call of a publisher has an outcome in hand. -/
theorem publisher_of_outcome {t : TaskId} {outcome : Outcome}
    (h : (s.handOf t).outcome = some outcome) : ∃ p, s.publisherOf t = some p := by
  rw [System.handOf] at h
  rw [System.publisherOf]
  cases hfound : s.calls.get? t with
  | none =>
    rw [System.look_of_absent hfound] at h
    cases h
  | some call =>
    rw [System.look_of_found hfound] at h ⊢
    obtain ⟨config, work, since⟩ := call
    cases work with
    | recording | handling | consuming => cases h
    | batching p batch => exact ⟨p, rfl⟩
    | publishing p work => exact ⟨p, rfl⟩

/-- Two publishers that know of the same message are the same. -/
theorem Owned.publisher_unique (ho : Owned s) {p q : PublisherId} {id : MessageId}
    (hp : s.HoldsEnqueued p id) (hq : s.HoldsEnqueued q id) : p = q := by
  have holder {p : PublisherId} (h : s.HoldsEnqueued p id) : ∃ holder, id ∈ s.holding holder ∧
      ((∃ t, holder = .call t ∧ s.publisherOf t = some p) ∨ holder = .publisher p) := by
    obtain ⟨outcome, rfl, -, ⟨t, ht, hhand⟩ | hlist⟩ := h
    · exact ⟨.call t, holds_of_outcome hhand, .inl ⟨t, rfl, ht⟩⟩
    · exact ⟨.publisher p, holds_of_carried hlist, .inr rfl⟩
  obtain ⟨g, hg, hgp⟩ := holder hp
  obtain ⟨g', hg', hgq⟩ := holder hq
  obtain rfl := ho.alone hg hg'
  rcases hgp with ⟨t, rfl, ht⟩ | rfl <;> rcases hgq with ⟨u, hu, hpub⟩ | hu
  · cases hu
    exact Option.some.inj (ht.symm.trans hpub)
  · cases hu
  · cases hu
  · cases hu
    rfl

/-- Of a pending message that the broker has accepted exactly one publisher knows this, and the
message is claimed. -/
theorem Run.known_to_one (run : Run .initial trace s) (orderly : Orderly trace) {id : MessageId}
    (hpending : s.store.status? id = some .pending) (hone : acceptances trace id = 1) :
    id ∈ s.store.claimed ∧ ∃! p, s.HoldsEnqueued p id := by
  have ho := run.owned
  obtain ⟨outcome, hid, htarget, hholder⟩ := (run.agreed orderly).held hpending hone
  have hsome : ∃ p, s.HoldsEnqueued p id ∧ ∃ holder, id ∈ s.holding holder := by
    subst hid
    rcases hholder with ⟨t, ht⟩ | ⟨p, hp⟩
    · obtain ⟨p, hp⟩ := publisher_of_outcome ht
      exact ⟨p, ⟨outcome, rfl, htarget, .inl ⟨t, hp, ht⟩⟩, .call t, holds_of_outcome ht⟩
    · exact ⟨p, ⟨outcome, rfl, htarget, .inr hp⟩, .publisher p, holds_of_carried hp⟩
  obtain ⟨p, hp, holder, hmem⟩ := hsome
  exact ⟨ho.claimed hmem hpending, p, hp, fun q hq => ho.publisher_unique hq hp⟩

/-- **The store and the broker agree.** In every state of every orderly run, and for every message:
how often the broker has accepted it is how often it waits on the exchanges or was taken from them;
the broker has accepted it at most once; not at all if it is `notEnqueued`; exactly once if it is
`enqueued`, `delivered` or `deliveredFailed`; and if it is pending although the broker has accepted
it, it is claimed and exactly one publisher knows that it was enqueued. -/
theorem store_agrees_with_broker (run : Run .initial trace s) (orderly : Orderly trace)
    (id : MessageId) :
    acceptances trace id = s.broker.waiting id + takings trace id ∧ acceptances trace id ≤ 1 ∧
    (s.store.status? id = some .notEnqueued → acceptances trace id = 0) ∧
    (s.store.status? id = some .enqueued ∨ s.store.status? id = some .delivered ∨
      s.store.status? id = some .deliveredFailed → acceptances trace id = 1) ∧
    (s.store.status? id = some .pending → acceptances trace id = 1 →
      id ∈ s.store.claimed ∧ ∃! p, s.HoldsEnqueued p id) := by
  have hstatus := (run.agreed orderly).status id
  refine ⟨run.acceptances_eq id, ?_, ?_, ?_, ?_⟩
  · cases hknown : s.store.status? id with
    | none =>
      rw [hknown] at hstatus
      have hzero : acceptances trace id = 0 := hstatus
      omega
    | some status =>
      rw [hknown] at hstatus
      cases status with
      | pending => exact hstatus
      | notEnqueued =>
        have hzero : acceptances trace id = 0 := hstatus
        omega
      | enqueued | delivered | deliveredFailed => exact Nat.le_of_eq hstatus
  · intro h
    rwa [h] at hstatus
  · rintro (h | h | h) <;> rwa [h] at hstatus
  · exact run.known_to_one orderly

end Runs

/-- A message is published, but its status is not written yet. -/
def publishedMoves : List Move :=
  [.outside (.insert (.ofNat 1) default .epoch),
    .start 0 .default (.batch 0),
    .turn 0 (.served .epoch default) false,
    .turn 0 (.served .epoch default) false,
    .turn 0 (.served .epoch default) false,
    .turn 0 (.storeDown "out of reach") false]

theorem store_agrees_with_broker_publishedMoves : ∃ trace s, Run .initial trace s ∧
    Orderly trace ∧ s.store.status? (.ofNat 1) = some .pending ∧
    acceptances trace (.ofNat 1) = 1 ∧ s.broker.waiting (.ofNat 1) + takings trace (.ofNat 1) = 1 ∧
    .ofNat 1 ∈ s.store.claimed ∧ ∃! p, s.HoldsEnqueued p (.ofNat 1) := by
  obtain ⟨trace, s, run, orderly, hpending, hone⟩ := exists_run publishedMoves (s := .initial)
    (P := fun trace s => Orderly trace ∧ s.store.status? (.ofNat 1) = some .pending ∧
      acceptances trace (.ofNat 1) = 1) (by decide)
  have h := store_agrees_with_broker run orderly (.ofNat 1)
  exact ⟨trace, s, run, orderly, hpending, hone, h.1.symm.trans hone, h.2.2.2.2 hpending hone⟩

end Outbox.Interplay
