import Outbox.Proofs.Broker.Register
import Mathlib.Data.List.Infix
/-!
# `Proofs.ConservedReceipts` — no receipt is lost or comes twice on a queue

The broker agrees with the register of each queue. The backlog holds the receipts whose place it is.
What was read from a subscription, and then what is still in its buffer, are the receipts whose place
the subscription is, in the order in which they were delivered; so none is read twice, and none is
missed unless the subscription is given up before it was read to its end.
-/

namespace Outbox.Broker

/-! ## The broker and the register -/

/-- A subscription to a queue that somebody can read from: what was read from it and what it has to
offer is what is at it. It offers receipts first, and then perhaps why it was cut. -/
structure Held (queue : String) (id : StreamId) (s : Stream) (es : List Event) : Prop where
  routed : s.queue = queue
  kept : .dropped id ∉ es
  receipts : received id es ++ s.receipts queue = (register queue es).receiptsAt (some id)
  orderly : ∃ rs failures, s.Offers rs failures ∧ (id ∈ (register queue es).live → failures = [])

/-- A subscription to a queue that was given up, and to which nothing has happened since. -/
def GivenUp (queue : String) (id : StreamId) (es : List Event) : Prop :=
  id ∉ (register queue es).live ∧
  ∃ before later, es = before ++ .dropped id :: later ∧
    received id es = received id before ∧
    (register queue es).receiptsAt (some id) = (register queue before).receiptsAt (some id) ∧
    received id before <+: (register queue before).receiptsAt (some id)

section Agrees

variable {b b' : Broker} {queue : String} {es : List Event} {e : Event} {id : StreamId} {s : Stream}

/-- What an operation does to a subscription that somebody can read from. -/
theorem Held.step (h : Held queue id s es) (hb : b.Wired)
    (listeners : b.listeners queue = (register queue es).live)
    (listeners' : b'.listeners queue = (register queue (es ++ [e])).live)
    (sound : (register queue es).Sound) (hid : id ∈ (register queue es).subscriptions)
    (fresh : ∀ new, e = .subscribed queue new → new ∉ (register queue es).subscriptions)
    (found : b.streams.get? id = some s) (does : Does b b' (some e)) :
    (∃ s', b'.streams.get? id = some s' ∧ Held queue id s' (es ++ [e])) ∨
    (b'.streams.get? id = none ∧ e = .dropped id) := by
  obtain ⟨rs, failures, hoffers, hlive⟩ := h.orderly
  obtain rfl := h.routed
  rcases does.offers hb found hoffers (listeners ▸ hlive) with ⟨he, hgone⟩ |
    ⟨he, s', rs', failures', hs', hqueue, hoffers', hlive', hread, -⟩
  · exact .inr ⟨hgone, he⟩
  · refine .inl ⟨s', hs', hqueue, ?_, ?_, rs', failures', hoffers', listeners' ▸ hlive'⟩
    · intro hmem
      rcases List.mem_append.mp hmem with hmem | hmem
      · exact h.kept hmem
      · exact he (List.mem_singleton.mp hmem).symm
    · rw [register_snoc, (sound.enter_of_mem hid fresh).1, ← h.receipts, hoffers.receipts,
        received_snoc, ← listeners, List.append_assoc, List.append_assoc, ← hread, ← hqueue,
        hoffers'.receipts]

/-- When it is said that a subscription is at its end, all that is at it was read. -/
theorem Held.finished (h : Held queue id s es) (hb : b.Wired)
    (listeners : b.listeners queue = (register queue es).live)
    (found : b.streams.get? id = some s) (does : Does b b' (some (.finished id))) :
    id ∉ (register queue es).live ∧ received id es = (register queue es).receiptsAt (some id) := by
  obtain ⟨rs, failures, hoffers, hlive⟩ := h.orderly
  obtain rfl := h.routed
  rcases does.offers hb found hoffers (listeners ▸ hlive) with ⟨he, -⟩ |
    ⟨-, _, _, _, -, -, -, -, -, hfinished⟩
  · cases he
  · obtain ⟨rfl, hnone⟩ := hfinished rfl
    rw [← h.receipts, hoffers.receipts, ← listeners]
    exact ⟨hnone, (List.append_nil _).symm⟩

/-- A subscription that is given up leaves what was read from it. -/
theorem Held.drop (h : Held queue id s es) : GivenUp queue id (es ++ [.dropped id]) := by
  refine ⟨?_, es, [], rfl, ?_, ?_, ?_⟩
  · rw [register_snoc]
    simp [Register.enter]
  · rw [received_snoc]
    exact List.append_nil _
  · rw [register_snoc]
    rfl
  · exact ⟨_, h.receipts⟩

/-- Nothing happens to a subscription that was given up. -/
theorem GivenUp.step (h : GivenUp queue id es) (sound : (register queue es).Sound)
    (hid : id ∈ (register queue es).subscriptions)
    (fresh : ∀ new, e = .subscribed queue new → new ∉ (register queue es).subscriptions)
    (unread : e.receivedFrom? id = none) : GivenUp queue id (es ++ [e]) := by
  obtain ⟨hlive, before, later, hes, hreceived, hreceipts, hprefix⟩ := h
  obtain ⟨hlive', hsame⟩ := register_of_not_live sound hid hlive fresh
  refine ⟨hlive', before, later ++ [e], ?_, ?_, hsame.trans hreceipts, hprefix⟩
  · rw [hes]
    simp
  · rw [received_snoc, unread, ← hreceived]
    exact List.append_nil _

/-- A broker agrees with the register of a queue. -/
structure Agrees (queue : String) (b : Broker) (es : List Event) : Prop where
  listeners : b.listeners queue = (register queue es).live
  backlog : b.backlog.getD queue [] = (register queue es).receiptsAt none
  nodup : (register queue es).subscriptions.Nodup
  numbered : ∀ id ∈ (register queue es).subscriptions, id < b.nextStream
  used : ∀ e ∈ es, ∀ id, e.readerOf? = some id → id < b.nextStream
  subscription : ∀ id ∈ (register queue es).subscriptions,
    (∃ s, b.streams.get? id = some s ∧ Held queue id s es) ∨
    (b.streams.get? id = none ∧ GivenUp queue id es)
  finished : ∀ id ∈ (register queue es).subscriptions, ∀ before later,
    es = before ++ .finished id :: later →
      id ∉ (register queue es).live ∧ received id before = (register queue es).receiptsAt (some id)

theorem Does.listeners (does : Does b b' (some e)) (queue : String)
    (listeners : b.listeners queue = (register queue es).live) :
    b'.listeners queue = (register queue (es ++ [e])).live := by
  rw [register_snoc]
  cases does with
  | gave _ _ _ same _ _ | kept _ same _ _ =>
    rw [same, listeners]
    simp only [Register.enter]
    split <;> rfl
  | opened _ _ same _ _ =>
    rw [same, listeners]
    simp only [Register.enter]
    split
    · rfl
    · exact List.append_nil _
  | ended _ same _ _ =>
    rw [same, listeners]
    simp only [Register.enter]
    split <;> rfl
  | received _ _ same _ _ | lost _ _ same _ _ => exact (same queue).trans listeners
  | exhausted _ _ _ same => exact same ▸ listeners
  | dropped _ same _ _ => rw [same, listeners, Register.enter]

theorem Does.backlog (does : Does b b' (some e)) (sound : (register queue es).Sound)
    (listeners : b.listeners queue = (register queue es).live)
    (backlog : b.backlog.getD queue [] = (register queue es).receiptsAt none)
    (fresh : ∀ new, e = .subscribed queue new → new ∉ (register queue es).subscriptions) :
    b'.backlog.getD queue [] = (register queue (es ++ [e])).receiptsAt none := by
  rw [register_snoc]
  cases does with
  | @gave other r first rest s live _ _ _ same _ =>
    rw [same, backlog]
    simp only [Register.enter]
    split
    · next heq =>
      subst heq
      rw [receiptsAt_add, ← listeners, live]
      simp
    · rfl
  | @kept other r live _ same _ =>
    rw [same, backlog]
    simp only [Register.enter]
    split
    · next heq =>
      subst heq
      rw [receiptsAt_add, ← listeners, live]
      rfl
    · exact List.append_nil _
  | @opened other new _ _ _ same _ =>
    rw [same, backlog]
    simp only [Register.enter]
    split
    · next heq =>
      subst heq
      rw [receiptsAt_takeOver _ _ (sound.receiptsAt_eq_nil (fresh new rfl)), if_pos rfl]
    · rfl
  | ended _ _ same _ =>
    rw [same, backlog]
    simp only [Register.enter]
    split <;> rfl
  | received _ _ _ same _ | lost _ _ _ same _ | dropped _ _ same _ =>
    exact (same queue).trans backlog
  | exhausted _ _ _ same => exact same ▸ backlog

/-- A new subscription has what was in the backlog to offer, and nothing was read from it. -/
theorem Agrees.held_new (h : Agrees queue b es) (hnew : b.nextStream ∉ (register queue es).subscriptions) :
    Held queue b.nextStream ⟨queue, (b.backlog.getD queue []).map .ok⟩
      (es ++ [.subscribed queue b.nextStream]) := by
  have hunused (e : Event) (he : e ∈ es) : e.readerOf? ≠ some b.nextStream := fun hid =>
    Nat.lt_irrefl _ (h.used e he _ hid)
  have hreceived : received b.nextStream es = [] := by
    refine List.filterMap_eq_nil_iff.mpr fun e he => ?_
    have hne := hunused e he
    cases e with
    | received id r => exact if_neg fun heq => hne (congrArg some heq)
    | _ => rfl
  refine ⟨rfl, ?_, ?_, b.backlog.getD queue [], [], (List.append_nil _).symm, fun _ => rfl⟩
  · intro hmem
    rcases List.mem_append.mp hmem with hmem | hmem
    · exact hunused _ hmem rfl
    · cases List.mem_singleton.mp hmem
  · have hsound := register_sound h.nodup
    rw [received_snoc, hreceived, receipts_backlog, if_pos rfl, h.backlog, register_snoc]
    simp only [Register.enter, if_true]
    rw [receiptsAt_takeOver _ _ (hsound.receiptsAt_eq_nil hnew)]
    simp [Event.receivedFrom?]

/-- An operation that somebody can ask for keeps the broker and the register in agreement. -/
theorem Agrees.step (h : Agrees queue b es) (hb : b.Wired) (does : Does b b' (some e))
    (next : (∃ other, e = .subscribed other b.nextStream ∧ b'.nextStream = b.nextStream + 1) ∨
      ((∀ other id, e ≠ .subscribed other id) ∧ b'.nextStream = b.nextStream)) :
    Agrees queue b' (es ++ [e]) := by
  have hsound := register_sound h.nodup
  have hnext : b.nextStream ≤ b'.nextStream := by
    rcases next with ⟨_, -, hnext⟩ | ⟨-, hnext⟩
    · exact hnext ▸ Nat.le_succ _
    · exact Nat.le_of_eq hnext.symm
  have hnew (other : String) (new : StreamId) (he : e = .subscribed other new) :
      new = b.nextStream ∧ new < b'.nextStream := by
    rcases next with ⟨_, he', hnext⟩ | ⟨hnone, -⟩
    · cases he.symm.trans he'
      exact ⟨rfl, hnext ▸ Nat.lt_succ_self _⟩
    · exact absurd he (hnone other new)
  have fresh (new : StreamId) (he : e = .subscribed queue new) :
      new ∉ (register queue es).subscriptions := fun hid =>
    Nat.ne_of_lt (h.numbered new hid) (hnew queue new he).1
  have hsubscriptions := subscriptions_enter queue (register queue es) e
  rw [← register_snoc] at hsubscriptions
  -- a subscription is one of those before, or the one that is made
  have hmem (id : StreamId) (hid : id ∈ (register queue (es ++ [e])).subscriptions) :
      id ∈ (register queue es).subscriptions ∨ e = .subscribed queue id := by
    rcases hsubscriptions with ⟨hsame, -⟩ | ⟨new, rfl, hadd⟩
    · exact .inl (hsame ▸ hid)
    · rw [hadd] at hid
      rcases List.mem_append.mp hid with hid | hid
      · exact .inl hid
      · exact .inr (by rw [List.mem_singleton.mp hid])
  have hlisteners := does.listeners queue h.listeners
  refine ⟨hlisteners, does.backlog hsound h.listeners h.backlog fresh, ?_, ?_, ?_, ?_, ?_⟩
  · rcases hsubscriptions with ⟨hsame, -⟩ | ⟨new, he, hadd⟩
    · rw [hsame]
      exact h.nodup
    · rw [hadd]
      exact h.nodup.append (List.nodup_singleton new) (by simpa using fresh new he)
  · intro id hid
    rcases hmem id hid with hid | he
    · exact Nat.lt_of_lt_of_le (h.numbered id hid) hnext
    · exact (hnew queue id he).2
  · intro e' he' id hid
    rcases List.mem_append.mp he' with he' | he'
    · exact Nat.lt_of_lt_of_le (h.used e' he' id hid) hnext
    · rw [List.mem_singleton.mp he'] at hid
      obtain ⟨s, hs⟩ := does.reader hid
      refine Nat.lt_of_lt_of_le (Nat.lt_of_not_le fun hle => ?_) hnext
      cases hs.symm.trans (hb.fresh id hle)
  · intro id hid
    rcases hmem id hid with hid | rfl
    · rcases h.subscription id hid with ⟨s, hs, hheld⟩ | ⟨hgone, hgiven⟩
      · rcases hheld.step hb h.listeners hlisteners hsound hid fresh hs does with hheld | ⟨hgone, rfl⟩
        · exact .inl hheld
        · exact .inr ⟨hgone, hheld.drop⟩
      · have hother (other : String) : e ≠ .subscribed other id := fun he =>
          Nat.ne_of_lt (h.numbered id hid) (hnew other id he).1
        have hunread : e.receivedFrom? id = none := by
          cases e with
          | received other r =>
            refine if_neg ?_
            rintro rfl
            obtain ⟨s, hs⟩ := does.reader rfl
            cases hs.symm.trans hgone
          | _ => rfl
        exact .inr ⟨does.gone hgone hother, hgiven.step hsound hid fresh hunread⟩
    · obtain ⟨rfl, -⟩ := hnew queue id rfl
      cases does with
      | opened _ _ _ _ streams =>
        exact .inl ⟨_, (streams _).trans (if_pos rfl), h.held_new (fresh _ rfl)⟩
  · intro id hid before later hes
    rcases List.eq_nil_or_concat later with rfl | ⟨later, last, rfl⟩
    · obtain ⟨rfl, he⟩ := List.append_inj' hes rfl
      cases he
      have hid := (hmem id hid).resolve_right (nomatch ·)
      obtain ⟨s, hs⟩ := does.reader rfl
      rw [register_snoc]
      rcases h.subscription id hid with ⟨s', hs', hheld⟩ | ⟨hgone, -⟩
      · exact hheld.finished hb h.listeners hs' does
      · cases hs.symm.trans hgone
    · rw [List.concat_eq_append, ← List.cons_append, ← List.append_assoc] at hes
      have hes : es = before ++ .finished id :: later := List.append_inj_left' hes rfl
      have hused := h.used (.finished id) (by simp [hes]) id rfl
      have hid := (hmem id hid).resolve_right fun he => Nat.ne_of_lt hused (hnew queue id he).1
      obtain ⟨hlive, hall⟩ := h.finished id hid before later hes
      obtain ⟨hlive', hsame⟩ := register_of_not_live hsound hid hlive fresh
      exact ⟨hlive', hall.trans hsame.symm⟩

theorem Agrees.alike (h : Agrees queue b es) (alike : b.Alike b') : Agrees queue b' es where
  listeners := by
    rw [← h.listeners]
    unfold Broker.listeners
    rw [alike.subscribers, alike.streams]
  backlog := by rw [alike.backlog, h.backlog]
  nodup := h.nodup
  numbered id hid := alike.nextStream ▸ h.numbered id hid
  used e he id hid := alike.nextStream ▸ h.used e he id hid
  subscription id hid := alike.streams ▸ h.subscription id hid
  finished := h.finished

/-- What was carried out leaves the broker and the register of each queue in agreement. -/
theorem Performed.agrees {trace : List Done} (h : Performed trace b) (queue : String) :
    Agrees queue b (events trace) := by
  induction h with
  | nil =>
    exact ⟨rfl, rfl, List.nodup_nil, fun _ h => (nomatch h), fun _ h => (nomatch h),
      fun _ h => (nomatch h), fun _ h => (nomatch h)⟩
  | @snoc trace b b' op answer hbefore allowed hop ih =>
    have hdoes := hbefore.does allowed hop
    have hnext := nextStream_of_perform hop
    rw [events_snoc]
    cases he : Done.event? ⟨op, answer⟩ with
    | some e =>
      rw [he] at hdoes hnext
      refine ih.step hbefore.wired hdoes ?_
      simpa using hnext
    | none =>
      rw [he] at hdoes
      cases hdoes with
      | same alike =>
        rw [Option.toList_none, List.append_nil]
        exact ih.alike alike

/-- A new subscription has the backlog to offer. -/
theorem Performed.opened {trace : List Done} (h : Performed trace b) {before : List Event}
    (hes : events trace = before ++ [.subscribed queue id]) :
    b.buffered queue id = (register queue before).receiptsAt none ∧ b.backlog.getD queue [] = [] := by
  induction h with
  | nil => exact absurd hes.symm (by simp [events])
  | @snoc trace b b' op answer hbefore allowed hop ih =>
    have hdoes := hbefore.does allowed hop
    rw [events_snoc] at hes
    cases he : Done.event? ⟨op, answer⟩ with
    | none =>
      rw [he] at hdoes hes
      cases hdoes with
      | same alike =>
        rw [buffered, alike.streams, alike.backlog]
        exact ih ((List.append_nil _).symm.trans hes)
    | some e =>
      rw [he] at hdoes hes
      obtain ⟨rfl, hlast⟩ := List.append_inj' hes rfl
      cases hlast
      cases hdoes with
      | opened _ _ _ backlog streams =>
        rw [buffered_of_get ((streams id).trans (if_pos rfl)), receipts_backlog, if_pos rfl,
          (hbefore.agrees queue).backlog]
        exact ⟨rfl, (backlog queue).trans (if_pos rfl)⟩

end Agrees

/-! ## The receipts of a queue -/

/-- What is so of the receipts of a queue after all that was carried out. -/
structure Conserved (queue : String) (b : Broker) (es : List Event) : Prop where
  /-- The subscriptions that receipts go to are those that have neither ended nor been given up, the
  earliest first. -/
  listeners : b.listeners queue = (register queue es).live
  sublist : (register queue es).live.Sublist (register queue es).subscriptions
  /-- Each receipt that was delivered has one place. -/
  places : (register queue es).places.map Prod.fst = delivered queue es
  shared : (delivered queue es).Perm ((register queue es).receiptsAt none ++
    (register queue es).subscriptions.flatMap fun id => (register queue es).receiptsAt (some id))
  backlog : b.backlog.getD queue [] = (register queue es).receiptsAt none
  /-- Where somebody listens nothing waits. -/
  attended : b.listeners queue ≠ [] → b.backlog.getD queue [] = []
  /-- A new subscription has the whole backlog to offer. -/
  moved : ∀ before id, es = before ++ [.subscribed queue id] →
    b.buffered queue id = (register queue before).receiptsAt none ∧ b.backlog.getD queue [] = []
  /-- A receipt that is at a subscription was read from it or can still be read from it, unless the
  subscription was given up. -/
  held : ∀ id ∈ (register queue es).subscriptions, .dropped id ∉ es →
    received id es ++ b.buffered queue id = (register queue es).receiptsAt (some id)
  /-- What was read is in the order in which it was delivered. -/
  inOrder : ∀ id ∈ (register queue es).subscriptions,
    received id es <+: (register queue es).receiptsAt (some id)
  /-- That a subscription was cut or is at its end is said after all that is at it. -/
  finished : ∀ id ∈ (register queue es).subscriptions, ∀ before later,
    es = before ++ .finished id :: later →
      received id before = (register queue es).receiptsAt (some id)
  /-- With one live subscription at a time, none of which is given up before all was read, the
  receipts come subscription by subscription as they were delivered. -/
  inTurn : (∀ before later, es = before ++ later → (register queue before).live.length ≤ 1) →
    (∀ id ∈ (register queue es).subscriptions, ∀ before later, es = before ++ .dropped id :: later →
      received id before = (register queue before).receiptsAt (some id)) →
    ((register queue es).subscriptions.flatMap fun id => received id es ++ b.buffered queue id) ++
      b.backlog.getD queue [] = delivered queue es

/-- **No receipt is lost or comes twice.** Whatever was done to the broker, and by however many in
whatever order, each receipt of a queue went to the earliest live subscription or to the backlog; a new
subscription got the whole backlog; and what is at a subscription was read from it, in order, or can
still be read, before it is said that the subscription has ended. -/
theorem receipts_conserved {trace : List Done} {b : Broker} (h : Performed trace b)
    (queue : String) : Conserved queue b (events trace) := by
  have hagrees := h.agrees queue
  have hsound := register_sound hagrees.nodup
  have hheld (id : StreamId) (hid : id ∈ (register queue (events trace)).subscriptions)
      (hkept : .dropped id ∉ events trace) : received id (events trace) ++ b.buffered queue id =
        (register queue (events trace)).receiptsAt (some id) := by
    rcases hagrees.subscription id hid with ⟨s, hs, hheld⟩ | ⟨-, -, before, later, hes, -⟩
    · rw [buffered_of_get hs, hheld.receipts]
    · exact absurd (by simp [hes]) hkept
  refine ⟨hagrees.listeners, hsound.live, map_fst_places .., ?_, hagrees.backlog, ?_, ?_, hheld,
    ?_, ?_, ?_⟩
  · rw [← map_fst_places]
    exact hsound.perm hagrees.nodup
  · rw [hagrees.listeners, hagrees.backlog]
    exact hsound.attended
  · intro before id hes
    exact h.opened hes
  · intro id hid
    rcases hagrees.subscription id hid with ⟨s, hs, hheld⟩ | ⟨-, -, before, later, -, hsame, hat, hread⟩
    · exact ⟨_, hheld.receipts⟩
    · rw [hsame, hat]
      exact hread
  · intro id hid before later hes
    exact (hagrees.finished id hid before later hes).2
  · intro single unread
    rw [← (register_inTurn hagrees.nodup single).2, Register.inTurn, hagrees.backlog]
    congr 1
    refine List.flatMap_congr fun id hid => ?_
    rcases hagrees.subscription id hid with ⟨s, hs, hheld⟩ | ⟨hgone, -, before, later, hes, hsame, hat, -⟩
    · rw [buffered_of_get hs, hheld.receipts]
    · rw [hsame, hat, ← unread id hid before later hes]
      simp [buffered, hgone]

/-- A subscription gets the backlog and one receipt more; it is cut, and given up when all was read;
the next receipt waits in the backlog for the next subscription. -/
def resubscribed : List Operation :=
  [.deliver "results" (.delivered (.ofNat 1)),
    .subscribe "results",
    .deliver "results" (.delivered (.ofNat 2)),
    .receive 0,
    .cut "results" "restart",
    .deliver "results" (.delivered (.ofNat 3)),
    .receive 0,
    .receive 0,
    .drop 0,
    .subscribe "results",
    .deliver "results" (.delivered (.ofNat 4)),
    .receive 1]

theorem receipts_conserved_resubscribed : ∃ trace b, Performed trace b ∧
    received 0 (events trace) = [.delivered (.ofNat 1), .delivered (.ofNat 2)] ∧
    received 1 (events trace) = [.delivered (.ofNat 3)] ∧
    b.buffered "results" 1 = [.delivered (.ofNat 4)] ∧
    ((register "results" (events trace)).subscriptions.flatMap fun id =>
      received id (events trace) ++ b.buffered "results" id) ++ b.backlog.getD "results" [] =
        delivered "results" (events trace) := by
  obtain ⟨⟨trace, b⟩, hperformed, hP⟩ := (Option.any_eq_true (fun (p : List Done × Broker) => decide
    (received 0 (events p.1) = [.delivered (.ofNat 1), .delivered (.ofNat 2)] ∧
      received 1 (events p.1) = [.delivered (.ofNat 3)] ∧
      p.2.buffered "results" 1 = [.delivered (.ofNat 4)] ∧
      ∀ before ∈ (events p.1).inits, (register "results" before).live.length ≤ 1 ∧
        ((events p.1)[before.length]? = some (.dropped 0) →
          received 0 before = (register "results" before).receiptsAt (some 0)) ∧
        (events p.1)[before.length]? ≠ some (.dropped 1) ∧
        (register "results" before).subscriptions ⊆ [0, 1]))
    (idle.performAll? resubscribed)).mp (by decide +kernel)
  obtain ⟨hfirst, hsecond, hbuffered, hall⟩ := of_decide_eq_true hP
  have h : Performed trace b := .of_performAll? .nil hperformed
  have hcut (before later : List Event) (hes : events trace = before ++ later) :=
    hall before ((List.mem_inits _ _).mpr ⟨later, hes.symm⟩)
  refine ⟨trace, b, h, hfirst, hsecond, hbuffered, (receipts_conserved h "results").inTurn ?_ ?_⟩
  · intro before later hes
    exact (hcut before later hes).1
  · intro id hid before later hes
    obtain ⟨-, hzero, hone, -⟩ := hcut before _ hes
    have hids := (hcut _ [] (List.append_nil _).symm).2.2.2 hid
    have hdropped : (events trace)[before.length]? = some (.dropped id) := by simp [hes]
    rw [hdropped] at hzero hone
    rcases List.mem_cons.mp hids with rfl | hids
    · exact hzero rfl
    · exact absurd (by rw [List.mem_singleton.mp hids]) hone

end Outbox.Broker
