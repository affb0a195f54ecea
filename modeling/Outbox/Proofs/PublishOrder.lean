import Outbox.Proofs.StrandedClaims
import Outbox.Proofs.Table
import Outbox.Proofs.WireAgreement
/-!
# `Proofs.PublishOrder` — messages are published in the order in which they were put in

A publisher that is used alone hands every message to the broker once at most, the oldest first, and
this over all its batches: however they are cut short, and whatever is given back, carried over and
fetched again. The messages that it may yet hand over stand in a *line*, in the order in which they
were put in. A fetch takes the front of the line, a message leaves it from the front when it is handed
over, a new one joins it at the end, and nothing ever comes back to it. A claim that could not be
given back takes its message out of the line for good.
-/

namespace Outbox

namespace Store

/-- A message waits to be published: it is pending, and if it is claimed then by the hand, which has
not published it yet or is giving it back. -/
def Waits (s : Store) (hand : Hand) (id : MessageId) : Prop :=
  s.status? id = some .pending ∧ (id ∈ s.claimed → id ∈ hand.unsent ∨ id ∈ hand.leaving)

instance (s : Store) (hand : Hand) (id : MessageId) : Decidable (s.Waits hand id) :=
  inferInstanceAs (Decidable (_ ∧ _))

/-- The messages that wait to be published, the oldest first. -/
def line (s : Store) (hand : Hand) : List MessageId :=
  s.order.filter fun id => s.Waits hand id

section Line

variable {s s' : Store} {hand hand' : Hand} {id : MessageId}

theorem waits_of_mem_line (h : id ∈ s.line hand) : s.Waits hand id := by
  simpa using List.of_mem_filter h

theorem line_congr (horder : s'.order = s.order)
    (h : ∀ id, s'.Waits hand' id ↔ s.Waits hand id) : s'.line hand' = s.line hand := by
  rw [line, line, horder]
  exact List.filter_congr fun id _ => decide_eq_decide.mpr (h id)

theorem line_sublist (horder : s'.order = s.order)
    (h : ∀ id, s'.Waits hand' id → s.Waits hand id) : (s'.line hand').Sublist (s.line hand) := by
  rw [line, line, horder]
  refine List.monotone_filter_right _ fun id hid => ?_
  simpa using h id (by simpa using hid)

/-- The line that a publisher with nothing in hand fetches from. -/
theorem line_empty (s : Store) : s.line .empty = s.available := by
  refine List.filter_congr fun id _ => decide_eq_decide.mpr ?_
  simp [Waits, Hand.empty]

theorem Same.waits (h : Same s s') (hand : Hand) (id : MessageId) :
    s'.Waits hand id ↔ s.Waits hand id := by
  rw [Waits, Waits, h.status?, h.claimed]

/-- A message that does not wait, and makes a step, takes no place in the line. -/
theorem Moved.waits {old new : Status} (h : Moved s id old new s') (hnot : ¬ s.Waits hand id)
    (other : MessageId) : s'.Waits hand other ↔ s.Waits hand other := by
  by_cases hid : id = other
  · subst hid
    refine iff_of_false (fun hwaits => ?_) hnot
    have hpending := hwaits.1
    rw [h.status?, if_pos rfl, Option.some.injEq] at hpending
    have hlegal := h.legal
    rw [hpending] at hlegal
    cases hlegal
  · rw [Waits, Waits, h.status?, if_neg hid, h.mem_claimed]
    simp [Ne.symm hid]

end Line

end Store

/-- The message that a call with this in hand hands over next. -/
def Hand.next? : Hand → Option MessageId
  | ⟨id :: _, none, _⟩ => some id
  | _ => none

/-- The message that is handed to the broker. -/
def Request.handed? : Request → Option MessageId
  | .publish _ m => some m.id
  | _ => none

/-- Whether the broker has put a message on an exchange. -/
def Request.reaches (exchange : String) : (r : Request) → r.Answer → Bool
  | .publish other _, answer =>
    match (answer : Except BrokerFailure Unit) with
    | .ok () => other == exchange
    | .error _ => false
  | _, _ => false

namespace Interplay

/-- What was handed over and then what waits to be published is in the order in which the messages
were put in, and what is in hand is next. -/
structure InLine (handed : List MessageId) (s : Store) (hand : Hand) : Prop where
  order : (handed ++ s.line hand).Sublist s.order
  next : hand.unsent <+: s.line hand

/-! ## Deeds keep the line -/

section Deeds

variable {s s' : Store} {accepted : Option MessageId} {unreleased : List MessageId}
  {stopping : Bool} {carried carried' : List Outcome} {hand hand' : Hand} {handed : List MessageId}

theorem InLine.of_line (h : InLine handed s hand) (horder : s'.order = s.order)
    (hline : (s'.line hand').Sublist (s.line hand)) (hnext : hand'.unsent <+: s'.line hand') :
    InLine handed s' hand' :=
  ⟨horder ▸ (List.Sublist.append_left hline handed).trans h.order, hnext⟩

/-- The line stays as it is. -/
theorem InLine.of_waits (h : InLine handed s hand) (horder : s'.order = s.order)
    (hwaits : ∀ id, s'.Waits hand' id ↔ s.Waits hand id)
    (hnext : hand'.unsent = hand.unsent ∨ hand'.unsent = []) : InLine handed s' hand' := by
  have hline := Store.line_congr horder hwaits
  refine h.of_line horder (hline ▸ List.Sublist.refl _) ?_
  rcases hnext with hsame | hnone
  · rw [hsame, hline]
    exact h.next
  · rw [hnone]
    exact List.nil_prefix

/-- **A deed that hands nothing over keeps the line**, or takes messages out of it whose claims could
not be given back. -/
theorem InLine.of_deed (h : InLine handed s hand)
    (hdeed : Deed s s' accepted unreleased stopping carried hand carried' hand')
    (hstop : stopping = true → carried = []) (hnot : hand.next? = none)
    (hheld : ∀ outcome, hand.outcome = some outcome ∨ carried.head? = some outcome →
      ¬ s.Waits hand outcome.id) : InLine handed s' hand' := by
  cases hdeed with
  | rests hsame => exact h.of_waits hsame.order (hsame.waits _) (.inl rfl)
  | moves hholder hmoved =>
    exact h.of_waits hmoved.order (hmoved.waits (hheld _ hholder)) (.inl rfl)
  | @fetches limit batch hfetched =>
    have hwaits (id : MessageId) :
        s'.Waits ⟨batch.map Message.id, none, []⟩ id ↔ s.Waits .empty id := by
      rw [Store.Waits, Store.Waits, hfetched.status?, hfetched.mem_claimed]
      have hfree : id ∈ batch.map Message.id → id ∉ s.claimed :=
        fun hid => (hfetched.was_available hid).2
      simp only [Hand.empty, List.not_mem_nil, or_false]
      tauto
    have hline := Store.line_congr hfetched.order hwaits
    refine h.of_line hfetched.order (hline ▸ List.Sublist.refl _) ?_
    rw [hline, Store.line_empty, hfetched.ids]
    exact List.take_prefix ..
  | sends => cases hnot
  | @settles outcome rest unsent leaving hdone hsame hsplit =>
    rcases hsplit with ⟨rfl, rfl⟩ | ⟨rfl, rfl⟩
    · exact h.of_waits hsame.order (hsame.waits _) (.inl rfl)
    · refine h.of_waits hsame.order (fun id => (hsame.waits _ id).trans ?_) (.inr rfl)
      simp [Store.Waits]
  | keeps hsame =>
    refine h.of_waits hsame.order (fun id => (hsame.waits _ id).trans ?_) (.inr rfl)
    simp [Store.Waits]
  | recovers _ _ hsame => exact h.of_waits hsame.order (hsame.waits _) (.inl rfl)
  | @withdraws outcome _ hdone hsame =>
    refine h.of_waits hsame.order (fun id => (hsame.waits _ id).trans ?_) (.inr rfl)
    -- the message whose claim is given back is not pending
    refine and_congr_right fun hpending => ?_
    have hne : id ≠ outcome.id := by
      rintro rfl
      exact hdone hpending
    simp [Hand.empty, hne]
  | @releases ids hreleased =>
    refine h.of_waits hreleased.order (fun id => ?_) (.inr rfl)
    rw [Store.Waits, Store.Waits, hreleased.status?, hreleased.mem_claimed]
    simp only [Hand.empty, List.not_mem_nil, false_or]
    tauto
  | strands hsame =>
    refine h.of_line hsame.order (Store.line_sublist hsame.order fun id hwaits => ?_) List.nil_prefix
    rw [hsame.waits] at hwaits
    refine ⟨hwaits.1, fun hclaimed => ?_⟩
    rcases hwaits.2 hclaimed with hnone | hnone
    · cases hnone
    · cases hnone
  | abandons hstops hsame =>
    rw [hstop hstops]
    exact h.of_waits hsame.order (hsame.waits _) (.inl rfl)

/-- The message at the front is handed over. -/
theorem InLine.of_handed {id : MessageId} {rest : List MessageId} {outcome : Outcome}
    (h : InLine handed s ⟨id :: rest, none, []⟩) (hs : s.Sound)
    (hclaims : s.status? id = some .pending → id ∈ s.claimed) :
    InLine (handed ++ [id]) s ⟨rest, some outcome, []⟩ := by
  obtain ⟨later, hnext⟩ := h.next
  have hlater : id :: (rest ++ later) = s.line ⟨id :: rest, none, []⟩ := hnext
  have hnodup : (id :: (rest ++ later)).Nodup := hlater ▸ hs.once.filter _
  obtain ⟨hid, -⟩ := List.nodup_cons.mp hnodup
  have hclaimed : id ∈ s.claimed :=
    hclaims (Store.waits_of_mem_line (hlater ▸ List.mem_cons_self ..)).1
  -- the message that is handed over no longer waits, and all others do as before
  have hwaits (other : MessageId) : s.Waits ⟨rest, some outcome, []⟩ other ↔
      other ≠ id ∧ s.Waits ⟨id :: rest, none, []⟩ other := by
    by_cases hother : other = id
    · subst hother
      have hrest : other ∉ rest := fun hmem => hid (List.mem_append_left _ hmem)
      simp [Store.Waits, hclaimed, hrest]
    · simp [Store.Waits, hother]
  have hline : s.line ⟨rest, some outcome, []⟩ = rest ++ later := by
    have hfilter : s.line ⟨rest, some outcome, []⟩ =
        (s.line ⟨id :: rest, none, []⟩).filter fun other => other ≠ id := by
      rw [Store.line, Store.line, List.filter_filter]
      refine List.filter_congr fun other _ => ?_
      rw [← Bool.decide_and]
      exact decide_eq_decide.mpr (hwaits other)
    rw [hfilter, ← hlater, List.filter_cons_of_neg (by simp)]
    refine List.filter_eq_self.mpr fun other hother => ?_
    have hne : other ≠ id := fun heq => hid (heq ▸ hother)
    simpa using hne
  refine ⟨?_, hline ▸ List.prefix_append rest later⟩
  have horder := h.order
  rwa [← hlater, ← List.singleton_append, ← List.append_assoc, ← hline] at horder

/-- A new message joins the line at its end. -/
theorem InLine.of_inserted (h : InLine handed s hand) (hs : s.Sound) {m : Message}
    (hinserted : s.Inserted m s') : InLine handed s' hand := by
  have hfresh : m.id ∉ s.order := by
    rw [hs.listed, hinserted.fresh]
    exact Bool.false_ne_true
  have hline : s'.line hand = s.line hand ++ [m.id] := by
    rw [Store.line, Store.line, hinserted.order, List.filter_append]
    congr 1
    · refine List.filter_congr fun id hid => decide_eq_decide.mpr ?_
      have hne : m.id ≠ id := fun heq => hfresh (heq ▸ hid)
      rw [Store.Waits, Store.Waits, hinserted.status?, if_neg hne, hinserted.claimed]
    · have hwaits : s'.Waits hand m.id := by
        refine ⟨?_, fun hclaimed => absurd hclaimed (hinserted.unclaimed hs)⟩
        rw [hinserted.status?, if_pos rfl]
      simp [hwaits]
  refine ⟨?_, hline ▸ h.next.trans (List.prefix_append ..)⟩
  rw [hline, hinserted.order, ← List.append_assoc]
  exact h.order.append (List.Sublist.refl _)

end Deeds

/-! ## What a run hands over -/

/-- The message that a call has handed to the broker. -/
def Event.handed? : Event → Option MessageId
  | .turn _ call _ _ => call.request.handed?
  | .outside _ | .start .. => none

/-- Whether a publication of a call has been put on an exchange. -/
def Event.reaches (exchange : String) : Event → Bool
  | .turn _ call answer _ => call.request.reaches exchange answer
  | .outside _ | .start .. => false

/-- The message that has been put in. -/
def Event.inserted? : Event → Option MessageId
  | .outside (.insert id _ _) => some id
  | .outside _ | .start .. | .turn .. => none

/-- The message that the far side has taken from an exchange. -/
def Moment.takenFrom? (exchange : String) (moment : Moment) : Option MessageId :=
  match moment.event with
  | .outside (.take other) =>
    if other = exchange then (moment.before.broker.take other).1.map Publication.messageId else none
  | .outside _ | .start .. | .turn .. => none

/-- The messages that were handed to the broker, one after the other, accepted or not. -/
def handedOver (trace : List Moment) : List MessageId :=
  trace.filterMap fun moment => moment.event.handed?

/-- The messages that were put on an exchange, one after the other. -/
def putOn (exchange : String) (trace : List Moment) : List MessageId :=
  handedOver (trace.filter fun moment => moment.event.reaches exchange)

/-- The messages that the far side has taken from an exchange, one after the other. -/
def takenFrom (exchange : String) (trace : List Moment) : List MessageId :=
  trace.filterMap (Moment.takenFrom? exchange)

/-- The messages that were put into the store, one after the other. -/
def insertions (trace : List Moment) : List MessageId :=
  trace.filterMap fun moment => moment.event.inserted?

section Works

variable {c : Config}

/-- A call hands over the first of what it has in hand. -/
theorem handed?_work (c : Config) (w : Work) : (w.request c).handed? = w.hand.next? := by
  have batching (b : Batching) : (b.request c).handed? = b.hand.next? := by
    cases b with
    | recovering _ _ rec => cases rec <;> rfl
    | recording _ _ rest rec => cases rec <;> cases rest <;> rfl
    | keeping _ _ rest => cases rest <;> rfl
    | _ => rfl
  have handling (w : Handling) : (w.request c).handed? = none := by
    cases w with
    | recording _ _ rec => cases rec <;> rfl
    | rechecking => rfl
  cases w with
  | recording rec => cases rec <;> rfl
  | handling w => exact handling w
  | consuming w =>
    cases w with
    | handling _ w => exact handling w
    | _ => rfl
  | batching _ b => exact batching b
  | publishing _ w =>
    cases w with
    | batching b => exact batching b
    | _ => rfl

/-- What a call has in hand when it hands a message over, and once it has done so. -/
theorem hand_of_handed (stop : Bool) (carried : List Outcome) {w : Work}
    (answer : (w.request c).Answer) {id : MessageId} (h : (w.request c).handed? = some id) :
    ∃ (rest : List MessageId) (outcome : Outcome), w.hand = ⟨id :: rest, none, []⟩ ∧
      (w.resume c stop carried answer).2.progress.look Work.hand .empty =
        ⟨rest, some outcome, []⟩ := by
  have batching {b : Batching} (answer : (b.request c).Answer)
      (h : b.hand.next? = some id) :
      ∃ (rest : List MessageId) (outcome : Outcome), b.hand = ⟨id :: rest, none, []⟩ ∧
        (b.resume c stop carried answer).2.progress.look Batching.hand .empty =
          ⟨rest, some outcome, []⟩ := by
    cases b with
    | publishing summary m rest =>
      cases h
      change Except BrokerFailure Unit at answer
      rcases answer with failure | ⟨⟩
      · exact ⟨rest.map Message.id, _, rfl, rfl⟩
      · exact ⟨rest.map Message.id, _, rfl, rfl⟩
    | recording _ _ rest => cases rest <;> cases h
    | keeping _ _ rest => cases rest <;> cases h
    | opening | recovering | freeing | fetching | releasing => cases h
  rw [handed?_work] at h
  cases w with
  | recording | handling | consuming => cases h
  | batching p b =>
    obtain ⟨rest, outcome, hbefore, hafter⟩ := batching answer h
    refine ⟨rest, outcome, hbefore, ?_⟩
    simp only [Work.resume]
    exact (Turn.look_andThen (fun _ => rfl) fun _ => rfl).trans hafter
  | publishing p w =>
    cases w with
    | batching b =>
      obtain ⟨rest, outcome, hbefore, hafter⟩ := batching answer h
      refine ⟨rest, outcome, hbefore, ?_⟩
      have hloop : ((Publishing.batching b).resume c stop carried answer).2.progress.look
          Publishing.hand .empty = ⟨rest, some outcome, []⟩ :=
        (Turn.look_andThen (fun _ => rfl) (hand_afterBatch stop)).trans hafter
      exact (Turn.look_andThen (fun _ => rfl) fun _ => rfl).trans hloop
    | starting | pausing | abandoning | releasing => cases h

end Works

section Steps

variable {s s' mid : System} {e : Event} {trace : List Moment} {id : MessageId}

/-- Handing a message over does nothing to the store. -/
theorem answer_handed {t : TaskId} {call : Call} {fate : Fate} {r : Request} {answer : r.Answer}
    (hid : r.handed? = some id) (h : s.answer? t call fate r = some (answer, mid)) :
    mid.store = s.store := by
  cases r with
  | publish exchange m =>
    obtain ⟨broker, rfl, -⟩ := answer_publish h
    rfl
  | _ => cases hid

/-- A step that hands a message over takes it out of the hand of a call, and does nothing else to
what the calls have in hand or to the store. -/
theorem Step.handed (h : Step s e s') (hid : e.handed? = some id) :
    ∃ (t : TaskId) (rest : List MessageId) (outcome : Outcome),
      s.handOf t = ⟨id :: rest, none, []⟩ ∧ s'.handOf t = ⟨rest, some outcome, []⟩ ∧
      (∀ u, u ≠ t → s'.handOf u = s.handOf u) ∧ s'.store = s.store := by
  rcases Step.cases h with ⟨o, rfl, -, -⟩ | ⟨t, c, job, rfl, -⟩ |
    ⟨t, call, answer, stop, result, mid, rfl, hturn⟩
  · cases hid
  · cases hid
  · obtain ⟨rest, outcome, hbefore, hafter⟩ :=
      hand_of_handed stop (s.carriedFor call.work) answer hid
    refine ⟨t, rest, outcome, (hturn.look_before ..).trans hbefore, ?_, fun u hu => ?_, ?_⟩
    · rw [System.handOf, hturn.look, if_pos rfl]
      exact hafter
    · rw [System.handOf, hturn.look, if_neg (Ne.symm hu), System.handOf]
    · obtain ⟨fate, hanswer⟩ := hturn.answered
      exact hturn.store.trans (answer_handed hid hanswer)

theorem answer_order {t : TaskId} {call : Call} {fate : Fate} {r : Request} {answer : r.Answer}
    (hs : s.store.Sound) (h : s.answer? t call fate r = some (answer, mid)) :
    mid.store.order = s.store.order := by
  cases r with
  | fetch =>
    obtain ⟨store, rfl, ⟨_, -, hsame⟩ | ⟨_, -, hfetched⟩⟩ := answer_fetch hs h
    · exact hsame.order
    · exact hfetched.order
  | update =>
    obtain ⟨store, rfl, ⟨_, -, hsame⟩ | ⟨-, -, hsame⟩ | ⟨_, -, -, -, hsame⟩ | ⟨_, _, -, hmoved⟩⟩ :=
      answer_update hs h
    · exact hsame.order
    · exact hsame.order
    · exact hsame.order
    · exact hmoved.order
  | release =>
    obtain ⟨store, rfl, ⟨_, -, hsame⟩ | ⟨-, hreleased⟩⟩ := answer_release h
    · exact hsame.order
    · exact hreleased.order
  | proceed => rw [answer_proceed h]
  | enter => rw [(answer_enter h).1]
  | append => rcases answer_append h with ⟨-, rfl⟩ | ⟨_, -, rfl⟩ <;> rfl
  | publish =>
    obtain ⟨broker, rfl, -⟩ := answer_publish h
    rfl
  | subscribe =>
    obtain ⟨broker, rfl, -⟩ := answer_subscribe h
    rfl
  | receive =>
    obtain ⟨broker, rfl, -⟩ := answer_receive h
    rfl
  | sleep => rw [(answer_sleep h).1]
  | pause => rw [answer_pause h]
  | ready | take | listen | launch | halt | join => cases h

/-- A new message comes last in the store, and nothing else changes the order there. -/
theorem Step.order (hs : s.store.Sound) (h : Step s e s') :
    s'.store.order = s.store.order ++ e.inserted?.toList := by
  rcases Step.cases h with ⟨o, rfl, hallowed, rfl⟩ | ⟨t, c, job, rfl, hstart⟩ |
    ⟨t, call, answer, stop, result, mid, rfl, hturn⟩
  · cases o with
    | insert => rfl
    | look => exact (Store.same_tally s.store).order.trans (List.append_nil _).symm
    | _ => exact (List.append_nil _).symm
  · rw [hstart.state]
    exact (List.append_nil _).symm
  · obtain ⟨fate, hanswer⟩ := hturn.answered
    rw [hturn.store, answer_order hs hanswer]
    exact (List.append_nil _).symm

/-- Only what is handed over gets onto an exchange. -/
theorem answer_exchanges {t : TaskId} {call : Call} {fate : Fate} {r : Request} {answer : r.Answer}
    (hs : s.store.Sound) (hnone : r.handed? = none)
    (h : s.answer? t call fate r = some (answer, mid)) :
    mid.broker.exchanges = s.broker.exchanges := by
  cases r with
  | publish => cases hnone
  | proceed => rw [answer_proceed h]
  | enter => rw [(answer_enter h).1]
  | fetch =>
    obtain ⟨store, rfl, -⟩ := answer_fetch hs h
    rfl
  | update =>
    obtain ⟨store, rfl, -⟩ := answer_update hs h
    rfl
  | release =>
    obtain ⟨store, rfl, -⟩ := answer_release h
    rfl
  | append => rcases answer_append h with ⟨-, rfl⟩ | ⟨-, -, rfl⟩ <;> rfl
  | subscribe =>
    obtain ⟨broker, rfl, hsame⟩ := answer_subscribe h
    exact hsame
  | sleep => rw [(answer_sleep h).1]
  | pause => rw [answer_pause h]
  | receive =>
    obtain ⟨broker, rfl, hsame⟩ := answer_receive h
    exact hsame
  | ready | take | listen | launch | halt | join => cases h

end Steps

section Exchanges

variable {s s' mid : System} {e : Event} {exchange : String}

theorem queued_of_same {b b' : Broker} (h : b'.exchanges = b.exchanges) :
    (b'.queued exchange).map Publication.messageId =
      (b.queued exchange).map Publication.messageId ++ [] := by
  rw [List.append_nil, Broker.queued, Broker.queued, h]

theorem queued_of_put {b b' : Broker} {other : String} {queue : List Publication}
    (h : b'.exchanges = b.exchanges.put other queue) :
    b'.queued exchange = if other = exchange then queue else b.queued exchange := by
  rw [Broker.queued, h, Table.getD_put, Broker.queued]

/-- What an answer puts on an exchange goes to its end. -/
theorem answer_queued {t : TaskId} {call : Call} {fate : Fate} {r : Request} {answer : r.Answer}
    (hs : s.store.Sound) (h : s.answer? t call fate r = some (answer, mid)) :
    (mid.broker.queued exchange).map Publication.messageId =
      (s.broker.queued exchange).map Publication.messageId ++
        if r.reaches exchange answer then r.handed?.toList else [] := by
  cases hhanded : r.handed? with
  | none =>
    have hlast : (if r.reaches exchange answer then Option.toList (none : Option MessageId)
        else []) = [] := ite_self _
    rw [hlast]
    exact queued_of_same (answer_exchanges hs hhanded h)
  | some id =>
    cases r with
    | publish other m =>
      cases hhanded
      obtain ⟨broker, rfl, ⟨⟨failure, rfl⟩, hsame⟩ | ⟨rfl, hput⟩⟩ := answer_publish h
      · exact queued_of_same hsame
      · rw [queued_of_put hput]
        by_cases hother : other = exchange
        · simp [Request.reaches, hother]
        · simp [Request.reaches, hother]
    | _ => cases hhanded

/-- What is taken from an exchange comes from its front. -/
theorem queued_take (s : System) (exchange other : String) :
    (Moment.takenFrom? exchange ⟨s, .outside (.take other)⟩).toList ++
        ((s.broker.take other).2.queued exchange).map Publication.messageId =
      (s.broker.queued exchange).map Publication.messageId := by
  rw [Moment.takenFrom?]
  cases hqueue : s.broker.queued other with
  | nil => simp [Broker.take, hqueue]
  | cons p rest =>
    have htake : s.broker.take other =
        (some p, { s.broker with exchanges := s.broker.exchanges.put other rest }) := by
      rw [Broker.take, hqueue]
    rw [htake, queued_of_put rfl]
    by_cases hother : other = exchange
    · subst hother
      simp [htake, hqueue]
    · simp [hother]

/-- **An exchange is a queue.** What a step takes from it comes from its front, and what it puts on
it goes to its end. -/
theorem Step.queued (hs : s.store.Sound) (h : Step s e s') :
    (Moment.takenFrom? exchange ⟨s, e⟩).toList ++
        (s'.broker.queued exchange).map Publication.messageId =
      (s.broker.queued exchange).map Publication.messageId ++
        if e.reaches exchange then e.handed?.toList else [] := by
  rcases Step.cases h with ⟨o, rfl, -, rfl⟩ | ⟨t, c, job, rfl, hstart⟩ |
    ⟨t, call, answer, stop, result, mid, rfl, hturn⟩
  · cases o with
    | take other => exact (queued_take s exchange other).trans (List.append_nil _).symm
    | deliver queue r => exact queued_of_same (s.broker.exchanges_deliver queue r)
    | subscribe queue => exact queued_of_same (s.broker.exchanges_subscribe queue)
    | _ => exact queued_of_same rfl
  · rw [hstart.state]
    exact queued_of_same rfl
  · obtain ⟨fate, hanswer⟩ := hturn.answered
    have hafter : s'.broker.queued exchange = mid.broker.queued exchange := by
      rw [Broker.queued, Broker.queued, hturn.exchanges]
    rw [hafter]
    exact answer_queued hs hanswer

end Exchanges

/-! ## Runs -/

section Runs

variable {s s' : System} {e : Event} {trace : List Moment}

theorem putOn_snoc (exchange : String) (trace : List Moment) (moment : Moment) :
    putOn exchange (trace ++ [moment]) = putOn exchange trace ++
      if moment.event.reaches exchange then moment.event.handed?.toList else [] := by
  rw [putOn, List.filter_append, handedOver, List.filterMap_append, putOn, handedOver]
  congr 1
  by_cases h : moment.event.reaches exchange
  · cases hid : moment.event.handed? <;> simp [h, hid]
  · simp [h]

/-- The store lists the messages as they were put in. -/
theorem Run.order_eq (run : Run .initial trace s) : s.store.order = insertions trace := by
  induction run with
  | nil => rfl
  | snoc run h ih => rw [h.order run.sound, ih, insertions, insertions, filterMap_snoc]

/-- What was put on an exchange was taken from it or waits there. -/
theorem Run.queued_eq (run : Run .initial trace s) (exchange : String) :
    takenFrom exchange trace ++ (s.broker.queued exchange).map Publication.messageId =
      putOn exchange trace := by
  induction run with
  | nil => rfl
  | snoc run h ih =>
    rw [takenFrom, filterMap_snoc, List.append_assoc, h.queued run.sound, ← List.append_assoc,
      ← takenFrom, ih, putOn_snoc]

/-- A message whose outcome is held does not wait: it is claimed, and neither unsent nor given back. -/
theorem Owned.not_waits (ho : Owned s) {t : TaskId} {p : PublisherId} {outcome : Outcome}
    (hheld : (s.handOf t).outcome = some outcome ∨ outcome ∈ s.carriedOf p) :
    ¬ s.store.Waits (s.handOf t) outcome.id := by
  rintro ⟨hpending, hfree⟩
  have hsomewhere : ∃ holder, outcome.id ∈ s.holding holder :=
    hheld.elim (fun h => ⟨_, holds_of_outcome h⟩) fun h => ⟨_, holds_of_carried h⟩
  obtain ⟨holder, hold⟩ := hsomewhere
  have hother := hfree (ho.claimed hold hpending)
  have hcall : outcome.id ∈ s.holding (.call t) := hother.elim holds_of_unsent holds_of_leaving
  rcases hheld with h | h
  · have honce : ((s.handOf t).unsent ++ (outcome.id :: (s.handOf t).leaving)).Nodup := by
      have honce := ho.once (.call t)
      rwa [System.holding, Hand.ids, h] at honce
    obtain ⟨-, hrest, hdisjoint⟩ := List.nodup_append.mp honce
    rcases hother with hunsent | hleaving
    · exact hdisjoint _ hunsent _ (List.mem_cons_self ..) rfl
    · exact (List.nodup_cons.mp hrest).1 hleaving
  · cases ho.alone (holds_of_carried h) hcall

/-- While a call of a publisher that is used alone is in progress, no other task has anything in
hand. -/
theorem Sole.others_empty {p : PublisherId} (hs : Sole p s) {t u : TaskId}
    (ht : s.publisherOf t = some p) (hu : u ≠ t) : s.handOf u = .empty := by
  refine handOf_of_others ?_
  cases hq : s.publisherOf u with
  | none => rfl
  | some q =>
    cases hs.mine hq
    exact absurd (hs.alone hq ht) hu

/-- **The line is kept.** In every state of a run in which one publisher is used alone and gives up
no outcome, one task at most has something in hand, and with what that task has in hand, what was
handed over and what waits to be published are in order. -/
theorem Run.inLine {p : PublisherId} (run : Run .initial trace s) (sole : SoleUse p trace)
    (orderly : Orderly trace) : ∃ t, (∀ u, u ≠ t → s.handOf u = .empty) ∧
      InLine (handedOver trace) s.store (s.handOf t) := by
  induction run with
  | nil => exact ⟨0, fun _ _ => rfl, List.nil_sublist _, List.nil_prefix⟩
  | @snoc trace s s' e run h ih =>
    obtain ⟨hsole, -⟩ := forall_mem_snoc.mp sole
    obtain ⟨horderly, hnow⟩ := forall_mem_snoc.mp orderly
    obtain ⟨t₀, hempty, hline⟩ := ih hsole horderly
    have ho := run.owned
    have hs := run.sound
    rw [handedOver, filterMap_snoc, ← handedOver]
    -- a task with something in hand is the one whose messages are in line
    have hat {t : TaskId} (hothers : ∀ u, u ≠ t → s.handOf u = .empty) :
        InLine (handedOver trace) s.store (s.handOf t) := by
      by_cases ht : t = t₀
      · exact ht ▸ hline
      · rw [hempty t ht]
        rwa [hothers t₀ (Ne.symm ht)] at hline
    cases hid : e.handed? with
    | some id =>
      obtain ⟨t, rest, outcome, hbefore, hafter, hands, hstore⟩ := h.handed hid
      have ht : t = t₀ := by
        by_contra ht
        rw [hempty t ht] at hbefore
        cases hbefore
      subst ht
      have hmine : id ∈ s.holding (.call t) := holds_of_unsent (by simp [hbefore])
      refine ⟨t, fun u hu => (hands u hu).trans (hempty u hu), ?_⟩
      rw [hafter, hstore]
      rw [hbefore] at hline
      exact hline.of_handed hs fun hpending => ho.claimed hmine hpending
    | none =>
      rw [Option.toList_none, List.append_nil]
      cases run.doing h with
      | aside hands _ hstore =>
        refine ⟨t₀, fun u hu => (hands u).trans (hempty u hu), ?_⟩
        rw [hands]
        rcases hstore with hsame | ⟨m, hinserted⟩
        · exact hline.of_waits hsame.order (hsame.waits _) (.inl rfl)
        · exact hline.of_inserted hs hinserted
      | @records t call rec old hfound hp hrec hmoved hands =>
        refine ⟨t₀, fun u hu => (hands u).trans (hempty u hu), ?_⟩
        rw [hands]
        refine hline.of_waits hmoved.order (hmoved.waits fun hwaits => ?_) (.inl rfl)
        -- a pending message does not get its receipt
        have hlegal := hmoved.legal
        rw [Option.some.inj (hmoved.was.symm.trans hwaits.1)] at hlegal
        rcases target_of_others (run.fitting.fits hfound) hp (run.not_recording horderly hfound)
          hrec with htarget | htarget <;> rw [htarget] at hlegal <;> cases hlegal
      | @publishes t q call answer result hevent hfound hp hands hcarried hdeed =>
        have hpub : s.publisherOf t = some q := (System.look_of_found hfound ..).trans hp
        cases (run.sole hsole).mine hpub
        have hothers (u : TaskId) (hu : u ≠ t) := (run.sole hsole).others_empty hpub hu
        refine ⟨t, fun u hu => (hands u hu).trans (hothers u hu), ?_⟩
        refine (hat hothers).of_deed hdeed ?_ ?_ ?_
        · intro habandons
          rw [hevent] at hnow
          simpa [Moment.isOrderly, habandons, carriedFor_of_publisher hp] using hnow
        · rw [System.handOf, System.look_of_found hfound, ← handed?_work call.config]
          rw [hevent] at hid
          exact hid
        · exact fun outcome hheld => ho.not_waits (hheld.imp_right List.mem_of_head?)

/-- **Messages are published in the order in which they were put in.** In every state of every run
in which one publisher is used alone and gives up no outcome, whatever fails meanwhile and however
its batches end: the messages that it has handed to the broker, accepted or not and all batches
together, are some of those that were put into the store, each handed over once at most and in the
order in which they were put in. What it has put on an exchange are some of these, in the same order,
and the far side takes them in this order; the others wait there. -/
theorem published_in_order {p : PublisherId} (run : Run .initial trace s) (sole : SoleUse p trace)
    (orderly : Orderly trace) :
    (insertions trace).Nodup ∧ (handedOver trace).Sublist (insertions trace) ∧
    (handedOver trace).Nodup ∧
    ((handedOver trace).Pairwise fun earlier later =>
      (insertions trace).idxOf earlier < (insertions trace).idxOf later) ∧
    ∀ exchange, (putOn exchange trace).Sublist (handedOver trace) ∧
      putOn exchange trace =
        takenFrom exchange trace ++ (s.broker.queued exchange).map Publication.messageId := by
  obtain ⟨t, -, hline⟩ := run.inLine sole orderly
  have honce : (insertions trace).Nodup := run.order_eq ▸ run.sound.once
  have horder : (handedOver trace).Sublist (insertions trace) :=
    run.order_eq ▸ (List.sublist_append_left ..).trans hline.order
  refine ⟨honce, horder, honce.sublist horder, ?_, fun exchange => ⟨?_, ?_⟩⟩
  · refine List.Pairwise.sublist horder (List.pairwise_iff_getElem.mpr fun i j hi hj hlt => ?_)
    rwa [honce.idxOf_getElem, honce.idxOf_getElem]
  · exact List.filter_sublist.filterMap _
  · exact (run.queued_eq exchange).symm

end Runs

/-- A first batch is cut short, since what came of the first message cannot be recorded, and the
outcome is carried over. The next one records it, does not get the second message accepted, and is
told to stop; the third one publishes what is left. Two messages are given back and fetched again
meanwhile, one is put in, and a receipt comes in. -/
def cutShortMoves : List Move :=
  let config := { Config.default with storeRetries := 0 }
  let served := Fate.served .epoch default
  [.outside (.insert (.ofNat 1) default .epoch),
    .outside (.insert (.ofNat 2) default .epoch),
    .start 0 config (.batch 0),
    .turn 0 served false,
    .turn 0 served false,
    .turn 0 served false,
    .turn 0 (.storeDown "out of reach") false,
    .turn 0 served false,
    .turn 0 served false,
    .outside (.insert (.ofNat 3) default .epoch),
    .start 0 config (.batch 0),
    .turn 0 served false,
    .turn 0 served false,
    .turn 0 served false,
    .turn 0 served false,
    .turn 0 (.brokerDown (.unavailable "out of reach")) false,
    .turn 0 served false,
    .turn 0 served true,
    .turn 0 served false,
    .start 1 config (.handle (.delivered (.ofNat 1))),
    .turn 1 served false,
    .start 0 config (.batch 0),
    .turn 0 served false,
    .turn 0 served false,
    .turn 0 served false,
    .outside (.take config.exchange)]

theorem published_in_order_cutShortMoves : ∃ trace s, Run .initial trace s ∧ SoleUse 0 trace ∧
    Orderly trace ∧ handedOver trace = [.ofNat 1, .ofNat 2, .ofNat 3] ∧
    (handedOver trace).Sublist (insertions trace) ∧
    putOn Config.default.exchange trace = [.ofNat 1, .ofNat 3] ∧
    takenFrom Config.default.exchange trace ++
      (s.broker.queued Config.default.exchange).map Publication.messageId =
        [.ofNat 1, .ofNat 3] := by
  obtain ⟨trace, s, run, hsole, horderly, hhanded, hput⟩ := exists_run cutShortMoves
    (s := .initial) (P := fun trace _ => SoleUse 0 trace ∧ Orderly trace ∧
      handedOver trace = [.ofNat 1, .ofNat 2, .ofNat 3] ∧
      putOn Config.default.exchange trace = [.ofNat 1, .ofNat 3]) (by decide)
  obtain ⟨-, hsublist, -, -, hexchanges⟩ := published_in_order run hsole horderly
  exact ⟨trace, s, run, hsole, horderly, hhanded, hsublist, hput,
    (hexchanges Config.default.exchange).2.symm.trans hput⟩

end Interplay

end Outbox
