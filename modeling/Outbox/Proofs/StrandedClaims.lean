import Outbox.Proofs.Interplay.Ownership
/-!
# `Proofs.StrandedClaims` — claims that nobody gives back

A publisher gives back the claims on the messages that it will not publish. The call that does this
can fail, and then the publisher only tells so: the messages stay claimed although nobody holds them
any more, and nobody will ever fetch them. This module shows that there is no other way to lose a
claim. A pending message is claimed exactly if somebody holds it or its claim was lost in this way;
so a publisher that has stopped leaves a pending message claimed exactly if a release of it failed.
-/

namespace Outbox.Interplay

/-- The claim on a message was to end, and could not be ended. -/
def Lost (trace : List Moment) (id : MessageId) : Prop :=
  ∃ moment ∈ trace, id ∈ moment.event.unreleased

theorem lost_snoc {trace : List Moment} {moment : Moment} {id : MessageId} :
    Lost (trace ++ [moment]) id ↔ Lost trace id ∨ id ∈ moment.event.unreleased :=
  exists_mem_snoc

/-- Every claim on a pending message is accounted for. -/
structure Covered (trace : List Moment) (s : System) : Prop where
  /-- Somebody holds a pending message that is claimed, or its claim was lost. -/
  held : ∀ {id}, s.store.status? id = some .pending → id ∈ s.store.claimed →
    (∃ holder, id ∈ s.holding holder) ∨ Lost trace id
  /-- Nobody holds a message whose claim was lost. -/
  unheld : ∀ {id holder}, Lost trace id → id ∉ s.holding holder
  /-- A message whose claim was lost stays claimed as long as it is pending. -/
  claimed : ∀ {id}, Lost trace id → s.store.status? id = some .pending → id ∈ s.store.claimed
  known : ∀ {id}, Lost trace id → (s.store.status? id).isSome

/-! ## Steps -/

section Deeds

variable {s s' : Store} {accepted : Option MessageId} {unreleased : List MessageId}
  {stopping : Bool} {carried carried' : List Outcome} {hand hand' : Hand}

theorem mem_tail_or_eq {outcome : Outcome} {id : MessageId} (hhead : carried.head? = some outcome)
    (h : id ∈ carried.map Outcome.id) : id = outcome.id ∨ id ∈ carried.tail.map Outcome.id := by
  cases carried with
  | nil => cases hhead
  | cons first later =>
    cases hhead
    exact List.mem_cons.mp h

/-- A message that a publisher lets go of has made its step, or is no longer claimed, or its claim
is lost. -/
theorem Deed.lets_go (h : Deed s s' accepted unreleased stopping carried hand carried' hand')
    {id : MessageId} (hmem : id ∈ hand.ids ++ carried.map Outcome.id)
    (hgone : id ∉ hand'.ids ++ carried'.map Outcome.id)
    (hpending : s'.status? id = some .pending) : id ∉ s'.claimed ∨ id ∈ unreleased := by
  have hbefore := h.was_pending hpending
  rw [List.mem_append, Hand.mem_ids] at hmem hgone
  cases h with
  | rests | moves => exact absurd hmem hgone
  | fetches =>
    refine absurd (.inr ?_) hgone
    simpa [Hand.empty] using hmem
  | sends hid =>
    refine absurd ?_ hgone
    simp only [List.mem_cons] at hmem
    rcases hmem with ((rfl | hrest) | ⟨_, hnone, -⟩ | hnone) | hlist
    · exact .inl (.inr (.inl ⟨_, rfl, hid⟩))
    · exact .inl (.inl hrest)
    · cases hnone
    · cases hnone
    · exact .inr hlist
  | @settles outcome rest unsent leaving hdone _ hsplit =>
    rcases hmem with (hrest | ⟨other, hsome, rfl⟩ | hnone) | hlist
    · refine absurd (.inl ?_) hgone
      rcases hsplit with ⟨rfl, -⟩ | ⟨-, rfl⟩
      · exact .inl hrest
      · exact .inr (.inr hrest)
    · cases hsome
      exact absurd hbefore hdone
    · cases hnone
    · exact absurd (.inr hlist) hgone
  | keeps =>
    refine absurd ?_ hgone
    rw [List.map_append, List.mem_append]
    rcases hmem with (hrest | ⟨other, hsome, rfl⟩ | hnone) | hlist
    · exact .inl (.inr (.inr hrest))
    · cases hsome
      exact .inr (.inr (List.mem_singleton_self _))
    · cases hnone
    · exact .inr (.inl hlist)
  | recovers hhead hdone =>
    rcases hmem with hempty | hlist
    · exact absurd (.inl hempty) hgone
    · rcases mem_tail_or_eq hhead hlist with rfl | htail
      · exact absurd hbefore hdone
      · exact absurd (.inr htail) hgone
  | withdraws hhead hdone =>
    rcases hmem with (hnone | ⟨_, hnone, -⟩ | hnone) | hlist
    · cases hnone
    · cases hnone
    · cases hnone
    · rcases mem_tail_or_eq hhead hlist with rfl | htail
      · exact absurd hbefore hdone
      · exact absurd (.inr htail) hgone
  | releases hreleased =>
    rcases hmem with (hnone | ⟨_, hnone, -⟩ | hids) | hlist
    · cases hnone
    · cases hnone
    · left
      rw [hreleased.mem_claimed]
      exact fun hclaimed => hclaimed.2 hids
    · exact absurd (.inr hlist) hgone
  | strands _ _ hkept =>
    rcases hmem with (hnone | ⟨_, hnone, -⟩ | hids) | hlist
    · cases hnone
    · cases hnone
    · exact .inr (hkept ▸ hids)
    · exact absurd (.inr hlist) hgone
  | abandons =>
    rcases hmem with (hnone | ⟨_, hnone, -⟩ | hnone) | hlist
    · cases hnone
    · cases hnone
    · cases hnone
    · exact absurd (.inl (.inr (.inr hlist))) hgone

/-- A message whose claim a deed loses was in the hands of the call, which then has nothing in hand
any more; its claim is as it was. -/
theorem Deed.loses (h : Deed s s' accepted unreleased stopping carried hand carried' hand')
    {id : MessageId} (hlost : id ∈ unreleased) :
    id ∈ hand.ids ∧ hand'.ids = [] ∧ carried' = carried ∧ s.Same s' := by
  cases h with
  | strands hsame _ hkept =>
    subst hkept
    exact ⟨Hand.mem_ids.mpr (.inr (.inr hlost)), rfl, rfl, hsame⟩
  | rests _ _ hfreed | moves _ _ _ hfreed | fetches _ _ hfreed | sends _ _ _ hfreed
  | settles _ _ _ _ hfreed | keeps _ _ hfreed | recovers _ _ _ _ hfreed
  | withdraws _ _ _ _ hfreed | releases _ _ hfreed | abandons _ _ _ hfreed =>
    subst hfreed
    cases hlost

/-- What a deed claims the call has in hand. -/
theorem Deed.takes (h : Deed s s' accepted unreleased stopping carried hand carried' hand')
    {id : MessageId} (hbefore : id ∉ s.claimed) (hafter : id ∈ s'.claimed) : id ∈ hand'.ids := by
  rcases h.pool with ⟨_, batch, hfetched, -, hids, -⟩ | -
  · rw [hids]
    exact (hfetched.mem_claimed.mp hafter).resolve_left hbefore
  · cases h with
    | fetches hfetched =>
      exact Hand.mem_ids.mpr (.inl ((hfetched.mem_claimed.mp hafter).resolve_left hbefore))
    | moves _ hmoved => exact absurd (hmoved.mem_claimed.mp hafter).1 hbefore
    | releases hreleased => exact absurd (hreleased.mem_claimed.mp hafter).1 hbefore
    | rests hsame | settles _ hsame | keeps hsame | recovers _ _ hsame | withdraws _ _ hsame
    | strands hsame | abandons _ hsame | sends _ _ hsame =>
      exact absurd (hsame.claimed ▸ hafter) hbefore

end Deeds

section Steps

variable {s s' : System} {e : Event} {trace : List Moment}

theorem covered_initial : Covered [] .initial := by
  have hnone (id : MessageId) : ¬ Lost [] id := by
    rintro ⟨moment, hmem, -⟩
    cases hmem
  refine ⟨?_, fun h => absurd h (hnone _), fun h => absurd h (hnone _), fun h => absurd h (hnone _)⟩
  intro id h
  cases h

/-- A step loses no claim, and nobody passes anything on. -/
theorem Covered.of_same (hc : Covered trace s) (hnone : e.unreleased = [])
    (hholding : ∀ holder, s'.holding holder = s.holding holder)
    (hpending : ∀ {id}, s'.store.status? id = some .pending → id ∈ s'.store.claimed →
      s.store.status? id = some .pending ∧ id ∈ s.store.claimed)
    (hclaimed : ∀ {id}, (s.store.status? id).isSome → s'.store.status? id = some .pending →
      s.store.status? id = some .pending ∧ (id ∈ s.store.claimed → id ∈ s'.store.claimed))
    (hknown : ∀ {id}, (s.store.status? id).isSome → (s'.store.status? id).isSome) :
    Covered (trace ++ [⟨s, e⟩]) s' := by
  have hlost (id : MessageId) : Lost (trace ++ [⟨s, e⟩]) id ↔ Lost trace id := by
    rw [lost_snoc, hnone]
    simp
  refine ⟨?_, ?_, ?_, ?_⟩ <;> simp only [hlost, hholding]
  · intro id hstatus h
    obtain ⟨hbefore, hmem⟩ := hpending hstatus h
    exact hc.held hbefore hmem
  · exact hc.unheld
  · intro id h hstatus
    obtain ⟨hbefore, hkeeps⟩ := hclaimed (hc.known h) hstatus
    exact hkeeps (hc.claimed h hbefore)
  · exact fun h => hknown (hc.known h)

section Publishes

variable {t : TaskId} {p : PublisherId} {accepted : Option MessageId}
  {unreleased : List MessageId} {stopping : Bool} {holder : Holder} {id : MessageId}

/-- A call of a publisher takes its turn: whoever had the claim on a message holds it still, or the
claim is lost now. -/
theorem Covered.held_by (hc : Covered trace s)
    (hothers : ∀ holder, holder ≠ .call t → holder ≠ .publisher p →
      s'.holding holder = s.holding holder)
    (hdeed : Deed s.store s'.store accepted unreleased stopping (s.carriedOf p) (s.handOf t)
      (s'.carriedOf p) (s'.handOf t))
    (hpending : s'.store.status? id = some .pending) (hclaimed : id ∈ s'.store.claimed) :
    (∃ holder, id ∈ s'.holding holder) ∨ Lost trace id ∨ id ∈ unreleased := by
  by_cases hbefore : id ∈ s.store.claimed
  · rcases hc.held (hdeed.was_pending hpending) hbefore with ⟨holder, hold⟩ | hlost
    · -- what is let go of makes its step, or its claim ends or is lost
      by_cases hpair : holder = .call t ∨ holder = .publisher p
      · by_cases hpool : id ∈ s'.holding (.call t) ++ s'.holding (.publisher p)
        · left
          rcases List.mem_append.mp hpool with h | h
          · exact ⟨_, h⟩
          · exact ⟨_, h⟩
        · rcases hdeed.lets_go (mem_pool hpair hold) hpool hpending with hgone | hlost
          · exact absurd hclaimed hgone
          · exact .inr (.inr hlost)
      · rw [not_or] at hpair
        refine .inl ⟨holder, ?_⟩
        rwa [hothers holder hpair.1 hpair.2]
    · exact .inr (.inl hlost)
  · exact .inl ⟨.call t, hdeed.takes hbefore hclaimed⟩

/-- Nobody comes to hold a message whose claim was lost before: a message that is fetched is not
claimed. -/
theorem Covered.still_unheld (hc : Covered trace s)
    (hothers : ∀ holder, holder ≠ .call t → holder ≠ .publisher p →
      s'.holding holder = s.holding holder)
    (hdeed : Deed s.store s'.store accepted unreleased stopping (s.carriedOf p) (s.handOf t)
      (s'.carriedOf p) (s'.handOf t))
    (hlost : Lost trace id) : id ∉ s'.holding holder := by
  have hnot (other : Holder) : id ∉ s.holding other := hc.unheld hlost
  intro hold
  by_cases hpair : holder = .call t ∨ holder = .publisher p
  · have hpool := mem_pool hpair hold
    rcases hdeed.pool with ⟨_, batch, hfetched, -, hids, hkept⟩ | hsub
    · rcases List.mem_append.mp hpool with h | h
      · rw [System.holding, hids] at h
        obtain ⟨hpending, hunclaimed⟩ := hfetched.was_available h
        exact hunclaimed (hc.claimed hlost hpending)
      · rw [System.holding, hkept] at h
        exact hnot (.publisher p) h
    · rcases List.mem_append.mp (hsub.subset hpool) with h | h
      · exact hnot (.call t) h
      · exact hnot (.publisher p) h
  · rw [not_or] at hpair
    rw [hothers holder hpair.1 hpair.2] at hold
    exact hnot holder hold

/-- Nobody holds a message whose claim is lost now, since the call that held it lets go of it. -/
theorem Owned.unheld_of_lost (ho : Owned s)
    (hothers : ∀ holder, holder ≠ .call t → holder ≠ .publisher p →
      s'.holding holder = s.holding holder)
    (hdeed : Deed s.store s'.store accepted unreleased stopping (s.carriedOf p) (s.handOf t)
      (s'.carriedOf p) (s'.handOf t))
    (hlost : id ∈ unreleased) : id ∉ s'.holding holder := by
  intro hold
  obtain ⟨hhand, hempty, hkept, -⟩ := hdeed.loses hlost
  have hcall : id ∈ s.holding (.call t) := hhand
  obtain ⟨hne, hbefore⟩ := holding_of_emptied hothers hempty hkept hold
  exact hne (ho.alone hbefore hcall)

end Publishes

theorem Covered.step (hc : Covered trace s) (ho : Owned s) (hs : s.store.Sound)
    (h : Doing s s' e) : Covered (trace ++ [⟨s, e⟩]) s' := by
  cases h with
  | aside hands hcarried hstore _ hnone =>
    have hholding := holding_of_same hands hcarried
    rcases hstore with hsame | ⟨m, hinserted⟩
    · refine hc.of_same hnone hholding ?_ ?_ ?_
      · intro id hstatus hmem
        rw [hsame.status?] at hstatus
        exact ⟨hstatus, hsame.claimed ▸ hmem⟩
      · intro id _ hstatus
        rw [hsame.status?] at hstatus
        exact ⟨hstatus, fun h => hsame.claimed ▸ h⟩
      · intro id h
        rwa [hsame.status?]
    · have hunclaimed := hinserted.unclaimed hs
      refine hc.of_same hnone hholding ?_ ?_ ?_
      · intro id hstatus hmem
        have hne : m.id ≠ id := fun heq => hunclaimed (heq ▸ hmem)
        rw [hinserted.status?, if_neg hne] at hstatus
        exact ⟨hstatus, hinserted.claimed ▸ hmem⟩
      · intro id hknown hstatus
        have hne : m.id ≠ id := by
          rintro rfl
          rw [hinserted.fresh] at hknown
          cases hknown
        rw [hinserted.status?, if_neg hne] at hstatus
        exact ⟨hstatus, fun h => hinserted.claimed ▸ h⟩
      · intro id h
        rw [hinserted.status?]
        split
        · rfl
        · exact h
  | records _ _ _ hmoved hands hcarried _ hnone =>
    refine hc.of_same hnone (holding_of_same hands hcarried) ?_ ?_ (known_of_moved hmoved)
    · intro id hstatus hmem
      exact ⟨(pending_of_moved hmoved hstatus).1, (hmoved.mem_claimed.mp hmem).1⟩
    · intro id _ hstatus
      obtain ⟨hbefore, hne⟩ := pending_of_moved hmoved hstatus
      exact ⟨hbefore, fun h => hmoved.mem_claimed.mpr ⟨h, hne⟩⟩
  | @publishes t p call _ _ _ _ _ hands hcarried hdeed =>
    have hothers := holding_of_others hands hcarried
    refine ⟨?_, ?_, ?_, ?_⟩
    · intro id hstatus hmem
      rw [lost_snoc]
      exact hc.held_by hothers hdeed hstatus hmem
    · intro id holder hlost
      rcases lost_snoc.mp hlost with hlost | hlost
      · exact hc.still_unheld hothers hdeed hlost
      · exact ho.unheld_of_lost hothers hdeed hlost
    · intro id hlost hstatus
      have hbefore := hdeed.was_pending hstatus
      rcases lost_snoc.mp hlost with hlost | hlost
      · refine (hdeed.still_claimed (hc.claimed hlost hbefore) hstatus).resolve_right ?_
        rintro ⟨hhand, -⟩
        have hnot : id ∉ s.holding (.call t) := hc.unheld hlost
        exact hnot hhand
      · -- the release has failed, so the store is as it was
        obtain ⟨hhand, -, -, hsame⟩ := hdeed.loses hlost
        have hcall : id ∈ s.holding (.call t) := hhand
        rw [hsame.claimed]
        exact ho.claimed hcall hbefore
    · intro id hlost
      rcases lost_snoc.mp hlost with hlost | hlost
      · exact hdeed.known (hc.known hlost)
      · have hcall : id ∈ s.holding (.call t) := (hdeed.loses hlost).1
        exact hdeed.known (ho.known hcall)

/-- In every state of a run, every claim on a pending message is accounted for. -/
theorem Run.covered (run : Run .initial trace s) : Covered trace s := by
  induction run with
  | nil => exact covered_initial
  | snoc run h ih => exact ih.step run.owned run.sound (run.doing h)

end Steps

/-! ## A publisher that is used alone -/

/-- Whether a call is a batch, or a loop that is at one. -/
def Work.isBatch : Work → Bool
  | .batching .. | .publishing _ (.batching _) => true
  | .recording _ | .handling _ | .consuming _ | .publishing .. => false

/-- Whether a publisher's loop gives back the claims of the outcomes that it has given up. -/
def Work.isStopping : Work → Bool
  | .publishing _ (.releasing _) => true
  | .recording _ | .handling _ | .consuming _ | .batching .. | .publishing .. => false

/-- No batch is in progress. -/
def System.NoBatch (s : System) : Prop :=
  ∀ t, s.look Work.isBatch false t = false

/-- Whether a step is none of another publisher's, and starts no call of the given publisher while
another one is in progress. -/
def Moment.isSole (p : PublisherId) (moment : Moment) : Bool :=
  match moment.event with
  | .start _ _ job =>
    match job.publisher? with
    | some q => q == p && moment.before.calls.entries.all fun entry => entry.2.work.publisher?.isNone
    | none => true
  | .outside _ | .turn .. => true

/-- A run of one publisher, whose batches and loops follow one another. -/
def SoleUse (p : PublisherId) (trace : List Moment) : Prop :=
  ∀ moment ∈ trace, moment.isSole p = true

instance (p : PublisherId) (trace : List Moment) : Decidable (SoleUse p trace) :=
  inferInstanceAs (Decidable (∀ _ ∈ trace, _))

/-- Whether a step was the end of a publisher's loop. -/
def Moment.isEndOfLoop (moment : Moment) : Bool :=
  match moment.event with
  | .turn _ _ _ (some .published) => true
  | .turn .. | .outside _ | .start .. => false

/-- What a publisher that is used alone has in progress. -/
structure Sole (p : PublisherId) (s : System) : Prop where
  /-- No other publisher has a call in progress. -/
  mine : ∀ {t q}, s.publisherOf t = some q → q = p
  /-- No two calls of it are in progress. -/
  alone : ∀ {t u}, s.publisherOf t = some p → s.publisherOf u = some p → t = u
  /-- No other publisher carries anything. -/
  others : ∀ {q}, q ≠ p → s.carriedOf q = []
  /-- Once the loop has given up what was carried, nothing is. -/
  emptied : ∀ {t}, s.look Work.isStopping false t = true → s.carriedOf p = []

section Turns

variable {c : Config}

/-- A loop that gives back the claims of what it has given up carries nothing then. -/
theorem carried_of_releasing (stop : Bool) (carried : List Outcome) {work : Publishing}
    (answer : (work.request c).Answer) {ids : List MessageId}
    (h : (work.resume c stop carried answer).2.progress = .waiting (.releasing ids)) :
    (work.resume c stop carried answer).1 = [] := by
  cases work with
  | starting => cases stop <;> cases h
  | batching batch =>
    rcases Turn.waiting_cases h with ⟨_, -, hnext⟩ | ⟨result, -, hnext⟩
    · cases hnext
    · obtain ⟨next, hwaits, hbetween⟩ := Publishing.afterBatch_waits c stop result
      cases hwaits.symm.trans hnext
      cases hbetween
  | pausing milliseconds =>
    change Bool at answer
    cases answer
    · cases stop <;> cases h
    · cases h
  | abandoning =>
    simp only [Publishing.resume]
    split <;> rfl
  | releasing ids =>
    change Except StoreFailure Unit at answer
    rcases answer with failure | ⟨⟩ <;> cases h

/-- A loop that comes to its end carries nothing, unless it comes from the release of what it has
given up. -/
theorem carried_of_end (stop : Bool) (carried : List Outcome) {work : Publishing}
    (answer : (work.request c).Answer)
    (h : (work.resume c stop carried answer).2.progress = .finished ()) :
    (work.resume c stop carried answer).1 = [] ∨
      ((work.resume c stop carried answer).1 = carried ∧ ∃ ids, work = .releasing ids) := by
  cases work with
  | starting => cases stop <;> cases h
  | batching batch =>
    obtain ⟨result, -, hnext⟩ := Turn.finished_cases h
    obtain ⟨next, hwaits, -⟩ := Publishing.afterBatch_waits c stop result
    cases hwaits.symm.trans hnext
  | pausing milliseconds =>
    change Bool at answer
    cases answer
    · cases stop <;> cases h
    · cases h
  | abandoning =>
    left
    simp only [Publishing.resume]
    split <;> rfl
  | releasing ids =>
    right
    refine ⟨?_, ids, rfl⟩
    change Except StoreFailure Unit at answer
    rcases answer with failure | ⟨⟩ <;> rfl

theorem carried_of_stopping (stop : Bool) (carried : List Outcome) {work next : Work}
    (answer : (work.request c).Answer)
    (h : (work.resume c stop carried answer).2.progress = .waiting next)
    (hstopping : next.isStopping = true) : (work.resume c stop carried answer).1 = [] := by
  cases work with
  | recording | handling | consuming | batching =>
    rcases Turn.waiting_cases h with ⟨_, -, rfl⟩ | ⟨_, -, hlast⟩
    · cases hstopping
    · cases hlast
  | publishing p work =>
    -- a loop is stopping only when it has just given up what it carried
    rcases Turn.waiting_cases h with ⟨inner, hinner, rfl⟩ | ⟨_, -, hlast⟩
    · cases inner with
      | releasing ids => exact carried_of_releasing stop carried answer hinner
      | _ => cases hstopping
    · cases hlast

theorem carried_of_published (stop : Bool) (carried : List Outcome) {work : Work}
    (answer : (work.request c).Answer)
    (h : (work.resume c stop carried answer).2.progress = .finished .published) :
    (∃ p, work.publisher? = some p) ∧ ((work.resume c stop carried answer).1 = [] ∨
      ((work.resume c stop carried answer).1 = carried ∧ work.isStopping = true)) := by
  cases work with
  | recording | handling | consuming | batching =>
    obtain ⟨_, -, hlast⟩ := Turn.finished_cases h
    cases hlast
  | publishing p work =>
    obtain ⟨⟨⟩, hend, -⟩ := Turn.finished_cases h
    refine ⟨⟨p, rfl⟩, ?_⟩
    rcases carried_of_end stop carried answer hend with hempty | ⟨hkept, ids, rfl⟩
    · exact .inl hempty
    · exact .inr ⟨hkept, rfl⟩

end Turns

section Sole

variable {s s' : System} {e : Event} {trace : List Moment} {p : PublisherId}

theorem publisher?_of_isStopping {w : Work} (h : w.isStopping = true) :
    ∃ q, w.publisher? = some q := by
  cases w with
  | publishing q work => exact ⟨q, rfl⟩
  | recording | handling | consuming | batching => cases h

theorem publisherOf_of_stopping {t : TaskId} (h : s.look Work.isStopping false t = true) :
    ∃ q, s.publisherOf t = some q := by
  rcases s.look_cases Work.isStopping false t with ⟨call, hfound, hlook⟩ | ⟨-, hlook⟩
  · rw [hlook] at h
    rw [System.publisherOf, System.look_of_found hfound]
    exact publisher?_of_isStopping h
  · rw [hlook] at h
    cases h

theorem sole_initial : Sole p .initial := by
  refine ⟨?_, ?_, fun _ => rfl, ?_⟩
  · intro t q h
    cases h
  · intro t u h
    cases h
  · intro t h
    cases h

theorem Sole.of_start (hs : Sole p s) {t : TaskId} {c : Config} {job : Job}
    (hsole : Moment.isSole p ⟨s, .start t c job⟩ = true) (h : Started s t c job s') : Sole p s' := by
  have hnew {q : PublisherId} (hjob : job.publisher? = some q) :
      q = p ∧ ∀ u, s.publisherOf u = none := by
    simp only [Moment.isSole, hjob, Bool.and_eq_true, beq_iff_eq, List.all_eq_true] at hsole
    refine ⟨hsole.1, fun u => ?_⟩
    rcases s.look_cases Work.publisher? none u with ⟨call, hfound, hlook⟩ | ⟨-, hlook⟩
    · rw [System.publisherOf, hlook]
      simpa using hsole.2 _ (Table.mem_entries_of_get? hfound)
    · exact hlook
  have hpub (u : TaskId) : s'.publisherOf u =
      if t = u then job.publisher? else s.publisherOf u := by
    rw [System.publisherOf, h.look]
    cases job <;> rfl
  refine ⟨?_, ?_, ?_, ?_⟩
  · intro u q hu
    rw [hpub] at hu
    split at hu
    · exact (hnew hu).1
    · exact hs.mine hu
  · intro u v hu hv
    rw [hpub] at hu hv
    split at hu <;> split at hv
    · next htu htv => exact htu.symm.trans htv
    · rw [(hnew hu).2] at hv
      cases hv
    · rw [(hnew hv).2] at hu
      cases hu
    · exact hs.alone hu hv
  · intro q hq
    rw [h.state]
    exact hs.others hq
  · intro u hu
    rw [h.look] at hu
    split at hu
    · cases job <;> cases hu
    · rw [h.state]
      exact hs.emptied hu

theorem Sole.of_turn (hs : Sole p s) {t : TaskId} {call : Call} {answer : call.request.Answer}
    {stop : Bool} {result : Option Result} {mid : System}
    (h : Turned s t call answer stop result mid s') : Sole p s' := by
  have hbefore : s.publisherOf t = call.work.publisher? := h.look_before ..
  have hpub {u : TaskId} {q : PublisherId} (hu : s'.publisherOf u = some q) :
      s.publisherOf u = some q := by
    rw [System.publisherOf, h.look] at hu
    split at hu
    · next htu =>
      obtain ⟨next, hp, hnext⟩ := Progress.waiting_of_look hu nofun
      rw [← htu, hbefore, ← publisher?_of_turn stop _ answer hp]
      exact hnext
    · exact hu
  refine ⟨fun hu => hs.mine (hpub hu), fun hu hv => hs.alone (hpub hu) (hpub hv), ?_, ?_⟩
  · intro q hq
    rw [h.carried]
    split
    · next hp => exact absurd (hs.mine (hbefore.trans hp)) hq
    · exact hs.others hq
  · intro u hu
    rw [h.look] at hu
    split at hu
    · obtain ⟨next, hp, hstopping⟩ := Progress.waiting_of_look hu nofun
      have hempty := carried_of_stopping stop _ answer hp hstopping
      obtain ⟨q, hq⟩ := publisher?_of_isStopping hstopping
      rw [publisher?_of_turn stop _ answer hp] at hq
      cases hs.mine (hbefore.trans hq)
      rw [h.carried, if_pos hq]
      exact hempty
    · next htu =>
      -- the loop at its end is the only call of the publisher, so nobody else carries anything over
      obtain ⟨q, hq⟩ := publisherOf_of_stopping hu
      cases hs.mine hq
      rw [h.carried]
      split
      · next hp => exact absurd (hs.alone (hbefore.trans hp) hq) htu
      · exact hs.emptied hu

theorem Run.sole (run : Run .initial trace s) (sole : SoleUse p trace) : Sole p s := by
  induction run with
  | nil => exact sole_initial
  | @snoc trace s s' e run h ih =>
    obtain ⟨hsole, hnow⟩ := forall_mem_snoc.mp sole
    have hs := ih hsole
    rcases Step.cases h with ⟨o, -, hallowed, rfl⟩ | ⟨t, c, job, rfl, hstart⟩ |
      ⟨t, call, answer, stop, result, mid, -, hturn⟩
    · obtain ⟨-, hcarried, hcalls, -⟩ := outside_cases hallowed
      have hpub (u : TaskId) : (s.apply o).publisherOf u = s.publisherOf u := by
        rw [System.publisherOf, System.publisherOf, System.look, System.look, hcalls]
      have hof (q : PublisherId) : (s.apply o).carriedOf q = s.carriedOf q := by
        rw [System.carriedOf, System.carriedOf, hcarried]
      refine ⟨?_, ?_, ?_, ?_⟩ <;> simp only [hpub, hof, System.look, hcalls]
      · exact hs.mine
      · exact hs.alone
      · exact hs.others
      · exact hs.emptied
    · exact hs.of_start hnow hstart
    · exact hs.of_turn hturn

/-- A task that works for no publisher has nothing in hand. -/
theorem handOf_of_others {t : TaskId} (h : s.publisherOf t = none) : s.handOf t = .empty := by
  rw [System.publisherOf] at h
  rw [System.handOf]
  cases hfound : s.calls.get? t with
  | none => exact System.look_of_absent hfound ..
  | some call =>
    rw [System.look_of_found hfound] at h ⊢
    cases hw : call.work with
    | recording | handling | consuming => rfl
    | batching | publishing =>
      rw [hw] at h
      cases h

/-- When the loop of a publisher that is used alone has come to its end, nobody holds anything. -/
theorem Sole.holds_nothing {t : TaskId} {call : Call} {answer : call.request.Answer} {stop : Bool}
    {mid : System} (hs : Sole p s) (h : Turned s t call answer stop (some .published) mid s')
    (holder : Holder) : s'.holding holder = [] := by
  have hbefore : s.publisherOf t = call.work.publisher? := h.look_before ..
  have hend : (s.turnOf call stop answer).2.progress = .finished .published := by
    cases hp : (s.turnOf call stop answer).2.progress with
    | waiting next =>
      have hresult := h.result
      rw [hp] at hresult
      cases hresult
    | finished result =>
      have hresult := h.result
      rw [hp] at hresult
      cases hresult
      rfl
  obtain ⟨⟨q, hq⟩, hcarried⟩ := carried_of_published stop _ answer hend
  cases hs.mine (hbefore.trans hq)
  cases holder with
  | call u =>
    have hnone : s'.publisherOf u = none := by
      rw [System.publisherOf, h.look]
      split
      · rw [hend]
        rfl
      · next htu =>
        cases hu : s.publisherOf u with
        | none => exact hu
        | some q =>
          cases hs.mine hu
          exact absurd (hs.alone (hbefore.trans hq) hu) htu
    rw [System.holding, handOf_of_others hnone]
    rfl
  | publisher r =>
    by_cases hr : r = p
    · subst hr
      rw [System.holding, h.carried, if_pos hq]
      rcases hcarried with hempty | ⟨hkept, hstopping⟩
      · rw [System.turnOf, hempty]
        rfl
      · -- the loop gave up what it carried before it began to release
        have hstop : s.look Work.isStopping false t = true := by
          rw [h.look_before]
          exact hstopping
        rw [System.turnOf, hkept, carriedFor_of_publisher hq, hs.emptied hstop]
        rfl
    · have hne : call.work.publisher? ≠ some r := by
        rw [hq, Ne, Option.some.injEq]
        exact Ne.symm hr
      rw [System.holding, h.carried, if_neg hne, hs.others hr]
      rfl

end Sole

/-! ## Who has claimed what -/

/-- The last thing that happened was the end of a publisher's loop. -/
def JustStopped (trace : List Moment) : Prop :=
  trace.getLast?.any Moment.isEndOfLoop = true

instance (trace : List Moment) : Decidable (JustStopped trace) :=
  inferInstanceAs (Decidable (_ = _))

section Claims

variable {s : System} {trace : List Moment} {id : MessageId}

/-- A call that is at no batch has nothing in hand but what it gives back at its end. -/
theorem ids_of_not_batch {w : Work} (h : w.isBatch = false) :
    w.hand.ids = w.hand.leaving ∧ (w.hand.leaving = [] ∨ w.isStopping = true) := by
  cases w with
  | recording | handling | consuming => exact ⟨rfl, .inl rfl⟩
  | batching => cases h
  | publishing p work =>
    cases work with
    | batching => cases h
    | releasing ids => exact ⟨rfl, .inr rfl⟩
    | _ => exact ⟨rfl, .inl rfl⟩

/-- A pending message is claimed exactly if somebody holds it or its claim was lost. -/
theorem Run.claimed_iff (run : Run .initial trace s)
    (hpending : s.store.status? id = some .pending) :
    id ∈ s.store.claimed ↔ (∃ holder, id ∈ s.holding holder) ∨ Lost trace id := by
  refine ⟨run.covered.held hpending, ?_⟩
  rintro (⟨holder, hold⟩ | hlost)
  · exact run.owned.claimed hold hpending
  · exact run.covered.claimed hlost hpending

/-- While no batch is in progress, what is held is carried over, or given back by a loop that stops.
-/
theorem held_of_noBatch (hrest : s.NoBatch) : (∃ holder, id ∈ s.holding holder) ↔
    (∃ p, id ∈ (s.carriedOf p).map Outcome.id) ∨
      ∃ t, s.look Work.isStopping false t = true ∧ id ∈ (s.handOf t).leaving := by
  constructor
  · rintro ⟨holder, hold⟩
    cases holder with
    | publisher p => exact .inl ⟨p, hold⟩
    | call t =>
      right
      refine ⟨t, ?_⟩
      have hbatch := hrest t
      rw [System.holding, System.handOf] at hold
      rw [System.handOf]
      cases hfound : s.calls.get? t with
      | none =>
        rw [System.look_of_absent hfound] at hold
        cases hold
      | some call =>
        rw [System.look_of_found hfound] at hbatch hold
        rw [System.look_of_found hfound, System.look_of_found hfound]
        obtain ⟨hids, hstopping⟩ := ids_of_not_batch hbatch
        rw [hids] at hold
        refine ⟨hstopping.resolve_left fun hnone => ?_, hold⟩
        rw [hnone] at hold
        cases hold
  · rintro (⟨p, hold⟩ | ⟨t, -, hold⟩)
    · exact ⟨.publisher p, hold⟩
    · exact ⟨.call t, holds_of_leaving hold⟩

/-- **Which claims are stranded.** In every state of every run, and for every pending message:

* while no batch is in progress, the message is claimed exactly if some publisher carries it over,
  a loop that stops is giving it back, or a release of it has failed;
* right after the end of the loop of a publisher that is used alone, it is claimed exactly if a
  release of it has failed, and otherwise the next fetch can have it. -/
theorem claimed_iff_of_pending (run : Run .initial trace s)
    (hpending : s.store.status? id = some .pending) :
    (s.NoBatch → (id ∈ s.store.claimed ↔ (∃ p, id ∈ (s.carriedOf p).map Outcome.id) ∨
      (∃ t, s.look Work.isStopping false t = true ∧ id ∈ (s.handOf t).leaving) ∨
      Lost trace id)) ∧
    (∀ p, SoleUse p trace → JustStopped trace →
      (id ∈ s.store.claimed ↔ Lost trace id) ∧ (id ∈ s.store.available ↔ ¬ Lost trace id)) := by
  refine ⟨fun hrest => ?_, fun p sole hstopped => ?_⟩
  · rw [run.claimed_iff hpending, held_of_noBatch hrest, or_assoc]
  · have hnobody : ¬ ∃ holder, id ∈ s.holding holder := by
      rintro ⟨holder, hold⟩
      cases run with
      | nil => cases hstopped
      | @snoc trace s s' e run h =>
        obtain ⟨hsole, -⟩ := forall_mem_snoc.mp sole
        simp only [JustStopped, List.getLast?_append, List.getLast?_singleton, Option.some_or,
          Option.any_some] at hstopped
        rcases Step.cases h with ⟨o, rfl, -, -⟩ | ⟨t, c, job, rfl, -⟩ |
          ⟨t, call, answer, stop, result, mid, rfl, hturn⟩
        · cases hstopped
        · cases hstopped
        · obtain rfl : result = some .published := by
            simp only [Moment.isEndOfLoop] at hstopped
            split at hstopped
            · next heq =>
              cases heq
              rfl
            all_goals cases hstopped
          rw [(run.sole hsole).holds_nothing hturn] at hold
          cases hold
    have hclaimed : id ∈ s.store.claimed ↔ Lost trace id := by
      rw [run.claimed_iff hpending]
      exact or_iff_right hnobody
    refine ⟨hclaimed, ?_⟩
    have hlisted : id ∈ s.store.order := by
      rw [run.sound.listed, hpending]
      rfl
    rw [Store.mem_available, hclaimed]
    exact ⟨fun h => h.2.2, fun h => ⟨hlisted, hpending, h⟩⟩

end Claims

/-- A publisher cannot record what came of the first message of a batch, and then cannot give back
the claim on the second; it is told to stop, and gives back the claim on the first. -/
def strandingMoves : List Move :=
  [.outside (.insert (.ofNat 1) default .epoch),
    .outside (.insert (.ofNat 2) default .epoch),
    .start 0 { Config.default with storeRetries := 0 } (.publish 0),
    .turn 0 (.served .epoch default) false,
    .turn 0 (.served .epoch default) false,
    .turn 0 (.served .epoch default) false,
    .turn 0 (.served .epoch default) false,
    .turn 0 (.storeDown "out of reach") false,
    .turn 0 (.served .epoch default) false,
    .turn 0 (.storeDown "out of reach") false,
    .turn 0 (.signalled true) true,
    .turn 0 (.served .epoch default) true,
    .turn 0 (.served .epoch default) true]

theorem claimed_iff_of_pending_strandingMoves : ∃ trace s, Run .initial trace s ∧
    s.store.status? (.ofNat 2) = some .pending ∧ s.NoBatch ∧ SoleUse 0 trace ∧
    JustStopped trace ∧ .ofNat 2 ∈ s.store.claimed ∧ Lost trace (.ofNat 2) := by
  obtain ⟨trace, s, run, hpending, hcalls, hsole, hstopped, hclaimed⟩ :=
    exists_run strandingMoves (s := .initial) (P := fun trace s =>
      s.store.status? (.ofNat 2) = some .pending ∧ s.calls.entries = [] ∧ SoleUse 0 trace ∧
        JustStopped trace ∧ .ofNat 2 ∈ s.store.claimed) (by decide)
  have hrest : s.NoBatch := by
    intro t
    refine System.look_of_absent ?_ ..
    rw [Table.get?, hcalls]
    rfl
  have h := claimed_iff_of_pending run hpending
  exact ⟨trace, s, run, hpending, hrest, hsole, hstopped, hclaimed,
    (h.2 0 hsole hstopped).1.mp hclaimed⟩

/-- Not every pending message that is claimed while no batch is in progress is carried over, and not
every pending message can be fetched once the loop has come to its end. -/
theorem not_forall_claims_held : ¬ ∀ {trace : List Moment} {s : System} {p : PublisherId},
    Run .initial trace s → SoleUse p trace → ∀ id, s.store.status? id = some .pending →
      (s.NoBatch → id ∈ s.store.claimed → id ∈ (s.carriedOf p).map Outcome.id) ∧
      (JustStopped trace → id ∉ s.store.claimed) := by
  intro h
  obtain ⟨trace, s, run, hpending, hsole, hstopped, hclaimed⟩ :=
    exists_run strandingMoves (s := .initial) (P := fun trace s =>
      s.store.status? (.ofNat 2) = some .pending ∧ SoleUse 0 trace ∧ JustStopped trace ∧
        .ofNat 2 ∈ s.store.claimed) (by decide)
  exact (h run hsole _ hpending).2 hstopped hclaimed

end Outbox.Interplay
