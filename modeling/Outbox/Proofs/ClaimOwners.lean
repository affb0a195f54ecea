import Outbox.Proofs.StrandedClaims
/-!
# `Proofs.ClaimOwners` — claims are ended by those who hold them

A release names messages and nothing else: the store does not ask who has claimed them. What keeps a
publisher from ending the claim of another is that it names only what it holds, in the hands of the
call that releases, and that what it holds nobody else does. This outlives the batch that claimed the
messages, for a carried outcome is held by its publisher until it is recorded or given up, and what
has been given up is in the hands of the loop that stops until the store has answered.
-/

namespace Outbox

/-- The messages whose claims are to end. -/
def Request.released : Request → List MessageId
  | .release ids => ids
  | _ => []

namespace Interplay

/-- The messages whose claims a call has asked the store to end. -/
def Event.released : Event → List MessageId
  | .turn _ call _ _ => call.request.released
  | .outside _ | .start .. => []

/-- The publisher whose call has taken its turn. -/
def Event.publisher? : Event → Option PublisherId
  | .turn _ call _ _ => call.work.publisher?
  | .outside _ | .start .. => none

/-- A publisher holds a message: a call of it has the message in hand, or the publisher carries over
what became of it. -/
def System.HeldBy (s : System) (p : PublisherId) (id : MessageId) : Prop :=
  id ∈ s.holding (.publisher p) ∨ ∃ t, s.publisherOf t = some p ∧ id ∈ s.holding (.call t)

section Holders

variable {s : System} {p q : PublisherId} {id : MessageId}

/-- What is held anywhere is held by a publisher. -/
theorem heldBy_of_holding {holder : Holder} (h : id ∈ s.holding holder) : ∃ p, s.HeldBy p id := by
  cases holder with
  | publisher p => exact ⟨p, .inl h⟩
  | call t =>
    cases hp : s.publisherOf t with
    | some p => exact ⟨p, .inr ⟨t, hp, h⟩⟩
    | none =>
      rw [System.holding, handOf_of_others hp] at h
      cases h

theorem System.HeldBy.holder (h : s.HeldBy p id) : ∃ holder, id ∈ s.holding holder ∧
    (holder = .publisher p ∨ ∃ t, holder = .call t ∧ s.publisherOf t = some p) := by
  rcases h with h | ⟨t, ht, h⟩
  · exact ⟨_, h, .inl rfl⟩
  · exact ⟨_, h, .inr ⟨t, rfl, ht⟩⟩

/-- No two publishers hold the same message. -/
theorem Owned.eq_of_heldBy (ho : Owned s) (hp : s.HeldBy p id) (hq : s.HeldBy q id) : p = q := by
  obtain ⟨g, hg, hgp⟩ := hp.holder
  obtain ⟨g', hg', hgq⟩ := hq.holder
  obtain rfl := ho.alone hg hg'
  rcases hgp with rfl | ⟨t, rfl, ht⟩ <;> rcases hgq with hg | ⟨u, hg, hu⟩ <;> cases hg
  · rfl
  · exact Option.some.inj (ht.symm.trans hu)

end Holders

section Steps

variable {s s' mid : System} {e : Event} {id : MessageId}

/-- Only a call of a publisher releases, and only messages that it has in hand for that. -/
theorem leaving_of_released {c : Config} {w : Work} (h : id ∈ (w.request c).released) :
    ∃ p, w.publisher? = some p ∧ id ∈ w.hand.leaving := by
  have recording {rec : Recording} (h : id ∈ (rec.request c).released) : False := by
    cases rec <;> cases h
  have handling {work : Handling} (h : id ∈ (work.request c).released) : False := by
    cases work with
    | recording => exact recording h
    | rechecking => cases h
  have batching {b : Batching} (h : id ∈ (b.request c).released) : id ∈ b.hand.leaving := by
    cases b with
    | freeing | releasing => exact h
    | recovering | recording => exact (recording h).elim
    | opening | fetching | publishing | keeping => cases h
  cases w with
  | recording => exact (recording h).elim
  | handling => exact (handling h).elim
  | consuming w =>
    cases w with
    | handling => exact (handling h).elim
    | _ => cases h
  | batching p b => exact ⟨p, rfl, batching h⟩
  | publishing p w =>
    refine ⟨p, rfl, ?_⟩
    cases w with
    | batching b => exact batching h
    | releasing => exact h
    | starting | pausing | abandoning => cases h

/-- What an answer does to the claims: one ends because its message has made a step, or because the
store was asked to end it. -/
theorem unclaimed_of_answer {t : TaskId} {call : Call} {fate : Fate} {r : Request}
    {answer : r.Answer} (hs : s.store.Sound) (h : s.answer? t call fate r = some (answer, mid))
    (hbefore : id ∈ s.store.claimed) (hafter : id ∉ mid.store.claimed) :
    (r.released = [] ∧ mid.store.status? id ≠ some .pending) ∨ id ∈ r.released := by
  have hsame (hsame : s.store.Same mid.store) : False := hafter (hsame.claimed ▸ hbefore)
  cases r with
  | update =>
    obtain ⟨store, rfl, ⟨_, -, h⟩ | ⟨-, -, h⟩ | ⟨_, -, -, -, h⟩ | ⟨_, _, -, hmoved⟩⟩ :=
      answer_update hs h
    · exact (hsame h).elim
    · exact (hsame h).elim
    · exact (hsame h).elim
    · refine .inl ⟨rfl, fun hpending => hafter ?_⟩
      exact hmoved.mem_claimed.mpr ⟨hbefore, (pending_of_moved hmoved hpending).2⟩
  | release ids =>
    obtain ⟨store, rfl, ⟨_, -, h⟩ | ⟨-, hreleased⟩⟩ := answer_release h
    · exact (hsame h).elim
    · right
      by_contra hid
      exact hafter (hreleased.mem_claimed.mpr ⟨hbefore, hid⟩)
  | fetch =>
    obtain ⟨store, rfl, ⟨_, -, h⟩ | ⟨_, -, hfetched⟩⟩ := answer_fetch hs h
    · exact (hsame h).elim
    · exact absurd (hfetched.mem_claimed.mpr (.inl hbefore)) hafter
  | proceed => exact absurd (answer_proceed h ▸ hbefore) hafter
  | enter => exact absurd ((answer_enter h).1 ▸ hbefore) hafter
  | append =>
    rcases answer_append h with ⟨-, rfl⟩ | ⟨_, -, rfl⟩
    · exact absurd hbefore hafter
    · exact absurd hbefore hafter
  | publish =>
    obtain ⟨broker, rfl, -⟩ := answer_publish h
    exact absurd hbefore hafter
  | subscribe =>
    obtain ⟨broker, rfl, -⟩ := answer_subscribe h
    exact absurd hbefore hafter
  | receive =>
    obtain ⟨broker, rfl, -⟩ := answer_receive h
    exact absurd hbefore hafter
  | sleep => exact absurd ((answer_sleep h).1 ▸ hbefore) hafter
  | pause => exact absurd (answer_pause h ▸ hbefore) hafter
  | ready | take | listen | launch | halt | join => cases h

/-- **How a claim ends.** Its message has made a step, or a call has asked for that. -/
theorem Step.unclaimed (hs : s.store.Sound) (h : Step s e s') (hbefore : id ∈ s.store.claimed)
    (hafter : id ∉ s'.store.claimed) :
    (e.released = [] ∧ s'.store.status? id ≠ some .pending) ∨ id ∈ e.released := by
  rcases Step.cases h with ⟨o, rfl, hallowed, rfl⟩ | ⟨t, c, job, rfl, hstart⟩ |
    ⟨t, call, answer, stop, result, mid, rfl, hturn⟩
  · obtain ⟨-, -, -, hsame | ⟨m, hinserted⟩⟩ := outside_cases hallowed
    · exact absurd (hsame.claimed ▸ hbefore) hafter
    · exact absurd (hinserted.claimed ▸ hbefore) hafter
  · rw [hstart.state] at hafter
    exact absurd hbefore hafter
  · obtain ⟨fate, hanswer⟩ := hturn.answered
    rw [hturn.store] at hafter ⊢
    exact unclaimed_of_answer hs hanswer hbefore hafter

/-- What a call asks the store to release, its publisher holds. -/
theorem Step.holds_released (h : Step s e s') (hid : id ∈ e.released) :
    ∃ p, e.publisher? = some p ∧ s.HeldBy p id := by
  rcases Step.cases h with ⟨o, rfl, -, -⟩ | ⟨t, c, job, rfl, -⟩ |
    ⟨t, call, answer, stop, result, mid, rfl, hturn⟩
  · cases hid
  · cases hid
  · obtain ⟨p, hp, hleaving⟩ := leaving_of_released hid
    have hpub : s.publisherOf t = some p := (hturn.look_before ..).trans hp
    have hhand : s.handOf t = call.work.hand := hturn.look_before ..
    exact ⟨p, hp, .inr ⟨t, hpub, holds_of_leaving (hhand ▸ hleaving)⟩⟩

end Steps

/-- **Claims belong to their holders.** In every state of every run:

* a claimed message is held by exactly one publisher, or by none, if a release of it has failed;
* a message that a publisher holds is claimed as long as it is pending;
* whatever happens next, a claim ends only because its message makes a step, or because a call has
  asked for it. Such a call is one of a publisher that holds all that it names, and it leaves alone
  the claims on what other publishers hold. -/
theorem claims_owned {trace : List Moment} {s : System} (run : Run .initial trace s) :
    (∀ id ∈ s.store.claimed,
      (∃! p, s.HeldBy p id) ∨ ((∀ p, ¬ s.HeldBy p id) ∧ Lost trace id)) ∧
    (∀ {p id}, s.HeldBy p id → s.store.status? id = some .pending → id ∈ s.store.claimed) ∧
    ∀ {e s'}, Step s e s' →
      (∀ id ∈ s.store.claimed, id ∉ s'.store.claimed →
        s'.store.status? id ≠ some .pending ∨ id ∈ e.released) ∧
      (e.released ≠ [] → ∃ p, e.publisher? = some p ∧ (∀ id ∈ e.released, s.HeldBy p id) ∧
        ∀ {q id}, q ≠ p → s.HeldBy q id → id ∈ s.store.claimed → id ∈ s'.store.claimed) := by
  have ho := run.owned
  have hs := run.sound
  refine ⟨fun id hclaimed => ?_, fun h hpending => ?_, fun {e s'} step => ⟨?_, fun hsome => ?_⟩⟩
  · have hpending := hs.pending hclaimed
    by_cases hheld : ∃ p, s.HeldBy p id
    · obtain ⟨p, hp⟩ := hheld
      exact .inl ⟨p, hp, fun q hq => ho.eq_of_heldBy hq hp⟩
    · right
      refine ⟨fun p hp => hheld ⟨p, hp⟩, ((run.claimed_iff hpending).mp hclaimed).resolve_left ?_⟩
      rintro ⟨holder, hold⟩
      exact hheld (heldBy_of_holding hold)
  · obtain ⟨holder, hold, -⟩ := h.holder
    exact ho.claimed hold hpending
  · intro id hbefore hafter
    exact (step.unclaimed hs hbefore hafter).imp_left And.right
  · obtain ⟨first, hfirst⟩ := List.exists_mem_of_ne_nil _ hsome
    obtain ⟨p, hp, -⟩ := step.holds_released hfirst
    have hmine {id : MessageId} (hid : id ∈ e.released) : s.HeldBy p id := by
      obtain ⟨q, hq, hheld⟩ := step.holds_released hid
      cases hp.symm.trans hq
      exact hheld
    refine ⟨p, hp, fun id hid => hmine hid, fun {q id} hne hheld hbefore => ?_⟩
    by_contra hafter
    rcases step.unclaimed hs hbefore hafter with ⟨hnone, -⟩ | hid
    · exact hsome hnone
    · exact hne (ho.eq_of_heldBy hheld (hmine hid))

/-- A publisher cannot record what came of the first message, is told to stop, and is about to give
back the claim on it. Another publisher has fetched the second message meanwhile. -/
def quittingMoves : List Move :=
  let config := { Config.default with storeRetries := 0, batchSize := 1 }
  [.outside (.insert (.ofNat 1) default .epoch),
    .outside (.insert (.ofNat 2) default .epoch),
    .start 0 config (.publish 0),
    .turn 0 (.served .epoch default) false,
    .turn 0 (.served .epoch default) false,
    .turn 0 (.served .epoch default) false,
    .turn 0 (.served .epoch default) false,
    .turn 0 (.storeDown "out of reach") false,
    .turn 0 (.served .epoch default) false,
    .turn 0 (.signalled true) true,
    .start 1 config (.batch 1),
    .turn 1 (.served .epoch default) false,
    .turn 1 (.served .epoch default) false,
    .turn 0 (.served .epoch default) true]

theorem claims_owned_quittingMoves : ∃ trace s e s', Run .initial trace s ∧ Step s e s' ∧
    e.released = [.ofNat 1] ∧ .ofNat 2 ∈ s.store.claimed ∧ s.HeldBy 1 (.ofNat 2) ∧
    e.publisher? = some 0 ∧ s.HeldBy 0 (.ofNat 1) ∧ .ofNat 1 ∉ s'.store.claimed ∧
    .ofNat 2 ∈ s'.store.claimed := by
  obtain ⟨trace, s, run, hclaimed, hpub, hold, hnext⟩ := exists_run quittingMoves (s := .initial)
    (P := fun _ s => .ofNat 2 ∈ s.store.claimed ∧ s.publisherOf 1 = some 1 ∧
      .ofNat 2 ∈ s.holding (.call 1) ∧
      (s.perform? (.turn 0 (.served .epoch default) true)).any (fun next => decide
        (next.1.released = [.ofNat 1] ∧ next.1.publisher? = some 0 ∧
          .ofNat 1 ∉ next.2.store.claimed)) = true)
    (by decide)
  obtain ⟨e, s', step, hreleased, hzero, hended⟩ := exists_step _ (P := fun e s' =>
    e.released = [.ofNat 1] ∧ e.publisher? = some 0 ∧ .ofNat 1 ∉ s'.store.claimed) hnext
  have hheld : s.HeldBy 1 (.ofNat 2) := .inr ⟨1, hpub, hold⟩
  obtain ⟨p, hp, hmine, hothers⟩ := ((claims_owned run).2.2 step).2 (by simp [hreleased])
  cases hzero.symm.trans hp
  exact ⟨trace, s, e, s', run, step, hreleased, hclaimed, hheld, hzero,
    hmine _ (by simp [hreleased]), hended, hothers (by decide) hheld hclaimed⟩

end Interplay

end Outbox
