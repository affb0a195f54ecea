import Outbox.Proofs.Broker.Operation
/-!
# `Proofs.Broker.Listening` — a subscription that has its queue to itself

What is *due* to who reads from a subscription, and subscribes anew once it is cut, is what the
subscription has to offer, and then the backlog of the queue. As long as nobody else listens on the
queue, a delivery puts its receipt at the end of what is due, and a reading takes it from the front;
nothing else changes it, and neither does a new subscription in the place of one that is spent.
-/

namespace Outbox.Broker

/-- The receipts that come next to who reads from a subscription to a queue, and then from the one
that takes its place. -/
def due (b : Broker) (queue : String) (id : StreamId) : List Receipt :=
  b.buffered queue id ++ b.backlog.getD queue []

/-- A subscription has its queue to itself: nobody else listens, and as long as it is live, it offers
receipts only and nothing is in the backlog. -/
structure Serves (b : Broker) (queue : String) (id : StreamId) : Prop where
  only : ∀ other ∈ b.listeners queue, other = id
  offers : ∃ s rs failures, b.streams.get? id = some s ∧ s.queue = queue ∧ s.Offers rs failures ∧
    (id ∈ b.listeners queue → failures = [] ∧ b.backlog.getD queue [] = [])

/-- No receipt comes from a subscription any more. -/
def Spent (b : Broker) (queue : String) (id : StreamId) : Prop :=
  id ∉ b.listeners queue ∧ b.buffered queue id = []

section Listening

variable {b b' : Broker} {queue : String} {id new : StreamId} {s : Stream} {e : Event}
  {rs : List Receipt} {failures : List BrokerFailure}

theorem buffered_of_offers (found : b.streams.get? id = some s) (h : s.Offers rs failures) :
    b.buffered s.queue id = rs := by
  rw [buffered_of_get found, h.receipts]

/-- Who listens on a queue after an operation did so before, unless the operation was a subscription
to the queue. -/
theorem Does.listened (does : Does b b' (some e)) (alone : ∀ new, e ≠ .subscribed queue new)
    (h : id ∈ b'.listeners queue) : id ∈ b.listeners queue := by
  cases does with
  | gave _ _ _ same _ _ | received _ _ same _ _ | lost _ _ same _ _ | kept _ same _ _ =>
    exact same queue ▸ h
  | @opened other new _ _ listeners _ _ =>
    have hne : ¬ other = queue := fun heq => alone new (heq ▸ rfl)
    rw [listeners, if_neg hne, List.append_nil] at h
    exact h
  | ended _ listeners _ _ =>
    rw [listeners] at h
    split at h
    · cases h
    · exact h
  | exhausted _ _ _ same => exact same ▸ h
  | dropped _ listeners _ _ =>
    rw [listeners] at h
    exact List.mem_of_mem_filter h

/-- Only a delivery that reaches nobody adds to the backlog, and only a new subscription empties it. -/
theorem Does.backlog_cases (does : Does b b' (some e)) (alone : ∀ new, e ≠ .subscribed queue new) :
    b'.backlog.getD queue [] = b.backlog.getD queue [] ++
      if b.listeners queue = [] then (e.deliveredOn? queue).toList else [] := by
  cases does with
  | @gave other r first rest _ live _ _ _ same _ =>
    rw [same]
    simp only [Event.deliveredOn?]
    by_cases heq : other = queue
    · subst heq
      simp [live]
    · simp [heq]
  | @kept other r live _ same _ =>
    rw [same]
    simp only [Event.deliveredOn?]
    by_cases heq : other = queue
    · subst heq
      simp [live]
    · simp [heq]
  | @opened other new _ _ _ same _ =>
    have hne : ¬ other = queue := fun heq => alone new (heq ▸ rfl)
    rw [same, if_neg hne]
    simp [Event.deliveredOn?]
  | ended _ _ same _ | received _ _ _ same _ | lost _ _ _ same _ | dropped _ _ same _ =>
    rw [same]
    simp [Event.deliveredOn?]
  | exhausted _ _ _ same => simp [same, Event.deliveredOn?]

/-- Where one subscription at most is live, and this one is not, none is. -/
theorem listeners_eq_nil (only : ∀ other ∈ b.listeners queue, other = id)
    (h : id ∉ b.listeners queue) : b.listeners queue = [] :=
  List.eq_nil_iff_forall_not_mem.mpr fun other hother => h (only other hother ▸ hother)

/-- **What an operation does to what is due.** -/
theorem Serves.step (h : b.Serves queue id) (hb : b.Wired) (does : Does b b' (some e))
    (kept : e ≠ .dropped id) (alone : ∀ new, e ≠ .subscribed queue new) :
    b'.Serves queue id ∧
    (e.receivedFrom? id).toList ++ b'.due queue id =
      b.due queue id ++ (e.deliveredOn? queue).toList ∧
    (e = .finished id ∨ b.Spent queue id → b'.Spent queue id) := by
  obtain ⟨only, s, rs, failures, hs, rfl, hoffers, hlive⟩ := h
  obtain ⟨-, s', rs', failures', hs', hqueue, hoffers', hlive', hread, hfinished⟩ :=
    (does.offers hb hs hoffers fun hid => (hlive hid).1).resolve_left fun h => kept h.1
  have hbuffered := buffered_of_offers hs hoffers
  have hbuffered' := buffered_of_offers hs' hoffers'
  rw [hqueue] at hbuffered'
  have hback := does.backlog_cases alone
  -- a delivery is given to the subscription, which is the only one, or else to the backlog
  have hgiven : e.givenTo s.queue (b.listeners s.queue) id =
      if b.listeners s.queue = [] then [] else (e.deliveredOn? s.queue).toList := by
    cases e with
    | delivered other r =>
      simp only [Event.givenTo, Event.deliveredOn?]
      cases hids : b.listeners s.queue with
      | nil => simp
      | cons first rest =>
        have hfirst : first = id := only first (by simp [hids])
        by_cases heq : other = s.queue <;> simp [heq, hfirst]
    | _ => simp [Event.givenTo, Event.deliveredOn?]
  have hstill (hid : id ∈ b'.listeners s.queue) : id ∈ b.listeners s.queue := does.listened alone hid
  have hsome (hid : id ∈ b.listeners s.queue) : b.listeners s.queue ≠ [] :=
    List.ne_nil_of_mem hid
  refine ⟨⟨fun other hid => only other (does.listened alone hid),
    s', rs', failures', hs', hqueue, hoffers', fun hid => ⟨hlive' hid, ?_⟩⟩, ?_, ?_⟩
  · rw [hback, (hlive (hstill hid)).2, if_neg (hsome (hstill hid))]
    rfl
  · rw [due, due, hbuffered, hbuffered', hback, ← List.append_assoc, hread, hgiven]
    by_cases hids : b.listeners s.queue = []
    · simp [hids]
    · have hid : id ∈ b.listeners s.queue := by
        by_contra hnot
        exact hids (listeners_eq_nil only hnot)
      simp [hids, (hlive hid).2]
  · intro hspent
    have hnone : rs = [] ∧ id ∉ b.listeners s.queue := by
      rcases hspent with he | ⟨hnot, hnil⟩
      · exact hfinished he
      · exact ⟨hbuffered.symm.trans hnil, hnot⟩
    obtain ⟨rfl, hnot⟩ := hnone
    rw [hgiven, if_pos (listeners_eq_nil only hnot)] at hread
    exact ⟨fun hid => hnot (hstill hid), hbuffered'.trans (List.append_eq_nil_iff.mp hread).2⟩

theorem Serves.alike (h : b.Serves queue id) (alike : b.Alike b') :
    b'.Serves queue id ∧ b'.due queue id = b.due queue id ∧ (b.Spent queue id → b'.Spent queue id) := by
  have hlisteners : b'.listeners queue = b.listeners queue := by
    unfold listeners
    rw [alike.subscribers, alike.streams]
  have hbuffered : b'.buffered queue id = b.buffered queue id := by
    unfold buffered
    rw [alike.streams]
  refine ⟨⟨hlisteners ▸ h.only, ?_⟩, ?_, ?_⟩
  · rw [hlisteners, alike.streams, alike.backlog]
    exact h.offers
  · rw [due, due, hbuffered, alike.backlog]
  · rw [Spent, Spent, hlisteners, hbuffered]
    exact fun hspent => hspent

/-- What is due to somebody after an operation of somebody else. -/
theorem Serves.spared {e? : Option Event} (h : b.Serves queue id) (hb : b.Wired)
    (does : Does b b' e?)
    (spared : ∀ e, e? = some e → e.readerOf? ≠ some id ∧ ∀ new, e ≠ .subscribed queue new) :
    b'.Serves queue id ∧
    b'.due queue id = b.due queue id ++ (e?.bind (·.deliveredOn? queue)).toList ∧
    (b.Spent queue id → b'.Spent queue id) := by
  cases e? with
  | none =>
    cases does with
    | same alike =>
      obtain ⟨hserves, hdue, hspent⟩ := h.alike alike
      exact ⟨hserves, hdue.trans (List.append_nil _).symm, hspent⟩
  | some e =>
    obtain ⟨hother, halone⟩ := spared e rfl
    have hkept : e ≠ .dropped id := by
      rintro rfl
      exact hother rfl
    have hunread : e.receivedFrom? id = none := by
      cases e with
      | received other r => exact if_neg fun heq => hother (congrArg some heq)
      | _ => rfl
    obtain ⟨hserves, hdue, hspent⟩ := h.step hb does hkept halone
    rw [hunread] at hdue
    exact ⟨hserves, hdue, fun h => hspent (.inr h)⟩

/-- A new subscription to a queue on which nobody listens has the queue to itself, and what is in the
backlog is due to it. -/
theorem serves_subscribed (does : Does b b' (some (.subscribed queue id)))
    (nobody : b.listeners queue = []) :
    b'.Serves queue id ∧ b'.due queue id = b.backlog.getD queue [] := by
  cases does with
  | opened _ _ listeners backlog streams =>
    have hnew := (streams id).trans (if_pos rfl)
    have hoffers : (⟨queue, (b.backlog.getD queue []).map .ok⟩ : Stream).Offers
        (b.backlog.getD queue []) [] :=
      (List.append_nil _).symm
    have hback := (backlog queue).trans (if_pos rfl)
    have hlive : b'.listeners queue = [id] := by
      rw [listeners, nobody, if_pos rfl]
      rfl
    refine ⟨⟨?_, _, _, [], hnew, rfl, hoffers, fun _ => ⟨rfl, hback⟩⟩, ?_⟩
    · rw [hlive]
      exact fun other hother => List.mem_singleton.mp hother
    · rw [due, hback, List.append_nil]
      exact buffered_of_offers hnew hoffers

end Listening

end Outbox.Broker
