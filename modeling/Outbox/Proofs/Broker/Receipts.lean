import Outbox.Broker.Basic
import Outbox.Proofs.Table
/-!
# `Proofs.Broker.Receipts` — where the receipts are

A receipt that was delivered on a queue and not read yet is in the backlog of the queue or in the
buffer of a subscription to it. This module says for each operation what it does to the receipts
that are not read yet: a delivery adds one, a reading takes one away, a subscription only moves the
backlog; and who gives a subscription up gives up all that is in its buffer.

Receipts are counted, for the same one may come more than once.
-/

namespace Outbox

/-- The receipts of a queue that a subscription has to offer. -/
def Stream.receipts (queue : String) (s : Stream) : List Receipt :=
  if s.queue = queue then s.buffer.filterMap Except.toOption else []

namespace Broker

/-! ## Views -/

/-- The receipts of a queue in the buffer of a subscription. -/
def buffered (b : Broker) (queue : String) (id : StreamId) : List Receipt :=
  ((b.streams.get? id).map (Stream.receipts queue)).getD []

/-- The receipts that were delivered on a queue and are not read yet. -/
def unread (b : Broker) (queue : String) : List Receipt :=
  b.backlog.getD queue [] ++ b.streams.values.flatMap (Stream.receipts queue)

/-- The queue that a subscription is to. -/
def queueOf? (b : Broker) (id : StreamId) : Option String :=
  (b.streams.get? id).map Stream.queue

/-- The receipts of a queue that were in the buffers of the subscriptions that are gone. -/
def forsaken (b b' : Broker) (queue : String) : List Receipt :=
  (b.streams.keys.filter fun id => !b'.streams.contains id).flatMap (b.buffered queue)

/-- Two brokers agree on the subscriptions and on the receipts. -/
structure Alike (b b' : Broker) : Prop where
  subscribers : b'.subscribers = b.subscribers
  backlog : b'.backlog = b.backlog
  streams : b'.streams = b.streams
  nextStream : b'.nextStream = b.nextStream

/-- Subscriptions have numbers of their own, and a queue lists only its own subscriptions. -/
structure Wired (b : Broker) : Prop where
  nodup : b.streams.keys.Nodup
  /-- The numbers that are still to be given out are not those of subscriptions. -/
  fresh : ∀ id, b.nextStream ≤ id → b.streams.get? id = none
  numbered : ∀ queue, ∀ id ∈ b.subscribers.getD queue [], id < b.nextStream
  routed : ∀ queue, ∀ id ∈ b.subscribers.getD queue [], ∀ s, b.streams.get? id = some s →
    s.queue = queue

section Views

variable {b b' b'' : Broker} {id : StreamId} {s : Stream}

theorem alike_refl (b : Broker) : b.Alike b :=
  ⟨rfl, rfl, rfl, rfl⟩

theorem Alike.trans (h : b.Alike b') (h' : b'.Alike b'') : b.Alike b'' where
  subscribers := h'.subscribers.trans h.subscribers
  backlog := h'.backlog.trans h.backlog
  streams := h'.streams.trans h.streams
  nextStream := h'.nextStream.trans h.nextStream

theorem Alike.unread (h : b.Alike b') (queue : String) : b'.unread queue = b.unread queue := by
  unfold Broker.unread
  rw [h.backlog, h.streams]

theorem Alike.wired (h : b.Alike b') (hb : b.Wired) : b'.Wired := by
  constructor
  · rw [h.streams]
    exact hb.nodup
  · rw [h.streams, h.nextStream]
    exact hb.fresh
  · rw [h.subscribers, h.nextStream]
    exact hb.numbered
  · rw [h.subscribers, h.streams]
    exact hb.routed

theorem Alike.drop (h : b.Alike b') (id : StreamId) : (b.drop id).Alike (b'.drop id) where
  subscribers := h.subscribers
  backlog := h.backlog
  streams := congrArg (·.erase id) h.streams
  nextStream := h.nextStream

theorem Alike.giveUp (h : b.Alike b') (held kept : Option StreamId) :
    (b.giveUp held kept).Alike (b'.giveUp held kept) := by
  unfold Broker.giveUp
  cases held with
  | none => exact h
  | some stream =>
    simp only
    split
    · exact h
    · exact h.drop stream

/-- Who keeps the subscription that it has gives none up. -/
theorem giveUp_of_same (b : Broker) {held kept : Option StreamId}
    (h : held = none ∨ kept = held) : b.giveUp held kept = b := by
  unfold giveUp
  cases held with
  | none => rfl
  | some stream =>
    rcases h with hnone | hsame
    · cases hnone
    · exact if_pos hsame

theorem buffered_of_get (h : b.streams.get? id = some s) (queue : String) :
    b.buffered queue id = s.receipts queue := by
  rw [buffered, h]
  rfl

theorem count_buffered (b : Broker) (queue : String) (id : StreamId) (r : Receipt) :
    (b.buffered queue id).count r =
      ((b.streams.get? id).map fun s => (s.receipts queue).count r).getD 0 := by
  unfold buffered
  cases b.streams.get? id <;> rfl

/-- How often a receipt is unread. -/
theorem count_unread (b : Broker) (queue : String) (r : Receipt) :
    (b.unread queue).count r =
      (b.backlog.getD queue []).count r +
        (b.streams.values.map fun s => (s.receipts queue).count r).sum := by
  rw [unread, List.count_append, List.count_flatMap]
  rfl

/-- What is unread when one subscription changes. -/
theorem count_unread_of_put (h : b'.streams = b.streams.put id s) (queue : String) (r : Receipt) :
    (b'.unread queue).count r + (b.backlog.getD queue []).count r +
        (b.buffered queue id).count r =
      (b.unread queue).count r + (b'.backlog.getD queue []).count r +
        (s.receipts queue).count r := by
  have hsum := b.streams.sum_put id s fun s => (s.receipts queue).count r
  rw [count_unread, count_unread, count_buffered, h]
  omega

end Views

/-! ## Operations -/

section Operations

variable {b b' : Broker} {queue : String} {id : StreamId} {r : Receipt}
  {answer : Except BrokerFailure StreamId}

/-- A delivery puts the receipt in the backlog, or in the buffer of a subscription to the queue. -/
theorem deliver_cases (hb : b.Wired) (queue : String) (r : Receipt) :
    (b.deliver queue r =
      { b with
        subscribers := b.subscribers.put queue (b.listeners queue)
        backlog := b.backlog.put queue (b.backlog.getD queue [] ++ [r]) }) ∨
    ∃ id s, b.streams.get? id = some s ∧ s.queue = queue ∧
      b.deliver queue r =
        { b with
          subscribers := b.subscribers.put queue (b.listeners queue)
          streams := b.streams.put id { s with buffer := s.buffer ++ [.ok r] } } := by
  unfold deliver
  -- only the first subscription that is still there gets the receipt
  cases hlive : b.listeners queue with
  | nil => exact .inl rfl
  | cons first rest =>
    have hfirst : first ∈ b.listeners queue := by simp [hlive]
    obtain ⟨hmem, hthere⟩ := List.mem_filter.mp hfirst
    obtain ⟨s, hs⟩ := Option.isSome_iff_exists.mp hthere
    refine .inr ⟨first, s, hs, hb.routed queue first hmem s hs, ?_⟩
    simp only [push, hs]

/-- A subscription that is made gets a number of its own and the backlog of its queue. -/
theorem subscribe_cases (h : b.subscribe queue = (answer, b')) :
    ((∃ failure, answer = .error failure) ∧ b' = b) ∨
    (answer = .ok b.nextStream ∧
      b' = { b with
        streams := b.streams.put b.nextStream ⟨queue, (b.backlog.getD queue []).map .ok⟩
        backlog := b.backlog.erase queue
        subscribers := b.subscribers.put queue (b.subscribers.getD queue [] ++ [b.nextStream])
        nextStream := b.nextStream + 1 }) := by
  unfold subscribe at h
  split at h
  · cases h
    exact .inl ⟨⟨_, rfl⟩, rfl⟩
  · cases h
    exact .inr ⟨rfl, rfl⟩

/-- A receipt is read from the front of the buffer. -/
theorem receive_receipt (h : b.receive id = (.receipt r, b')) :
    ∃ s rest, b.streams.get? id = some s ∧ s.buffer = .ok r :: rest ∧
      b' = { b with streams := b.streams.put id { s with buffer := rest } } := by
  unfold receive at h
  split at h
  · cases h
  · next s hs =>
    split at h
    · next item rest hbuffer =>
      cases item with
      | ok r' =>
        cases h
        exact ⟨s, rest, hs, hbuffer, rfl⟩
      | error failure => cases h
    · split at h <;> cases h

/-! ## What is unread after an operation -/

theorem receipts_push (s : Stream) (queue : String) (r : Receipt) :
    Stream.receipts queue { s with buffer := s.buffer ++ [.ok r] } =
      s.receipts queue ++ if s.queue = queue then [r] else [] := by
  unfold Stream.receipts
  split
  · simp [Except.toOption]
  · rfl

theorem receipts_backlog (queue other : String) (rs : List Receipt) :
    Stream.receipts other ⟨queue, rs.map .ok⟩ = if queue = other then rs else [] := by
  unfold Stream.receipts
  split
  · rw [List.filterMap_map]
    exact List.filterMap_some
  · rfl

/-- A delivery adds its receipt. -/
theorem count_unread_deliver (hb : b.Wired) (queue other : String) (r x : Receipt) :
    ((b.deliver queue r).unread other).count x =
      (b.unread other).count x + (if queue = other then [r] else []).count x := by
  rcases deliver_cases hb queue r with h | ⟨id, s, hs, hqueue, h⟩
  · rw [h, count_unread, count_unread]
    simp only [Table.getD_put]
    split
    · next heq =>
      subst heq
      rw [List.count_append]
      omega
    · simp
  · have hstreams : (b.deliver queue r).streams =
        b.streams.put id { s with buffer := s.buffer ++ [.ok r] } := by
      rw [h]
    have hback : (b.deliver queue r).backlog = b.backlog := by
      rw [h]
    have hput := count_unread_of_put hstreams other x
    rw [buffered_of_get hs, receipts_push, hqueue, List.count_append, hback] at hput
    omega

/-- To subscribe moves receipts, but neither adds one nor takes one away. -/
theorem count_unread_subscribe (hb : b.Wired) (h : b.subscribe queue = (answer, b'))
    (other : String) (x : Receipt) : (b'.unread other).count x = (b.unread other).count x := by
  rcases subscribe_cases h with ⟨-, rfl⟩ | ⟨-, hb'⟩
  · rfl
  · have hstreams : b'.streams =
        b.streams.put b.nextStream ⟨queue, (b.backlog.getD queue []).map .ok⟩ := by
      rw [hb']
    have hback : b'.backlog = b.backlog.erase queue := by
      rw [hb']
    have hnew : b.buffered other b.nextStream = [] := by
      rw [buffered, hb.fresh _ (Nat.le_refl _)]
      rfl
    have hput := count_unread_of_put hstreams other x
    rw [hnew, receipts_backlog, hback, Table.getD_erase] at hput
    by_cases heq : queue = other
    · subst heq
      simp only [if_true, List.count_nil] at hput
      omega
    · simp only [heq, if_false, List.count_nil] at hput
      omega

/-- To read a receipt takes it away. -/
theorem count_unread_receive (h : b.receive id = (.receipt r, b')) (queue : String) (x : Receipt) :
    (b.unread queue).count x =
      (b'.unread queue).count x + (if b.queueOf? id = some queue then [r] else []).count x := by
  obtain ⟨s, rest, hs, hbuffer, hb'⟩ := receive_receipt h
  have hstreams : b'.streams = b.streams.put id { s with buffer := rest } := by
    rw [hb']
  have hback : b'.backlog = b.backlog := by
    rw [hb']
  have hqueue : b.queueOf? id = some s.queue := by
    rw [queueOf?, hs]
    rfl
  have hput := count_unread_of_put hstreams queue x
  rw [buffered_of_get hs, hback] at hput
  simp only [Stream.receipts, hbuffer, List.filterMap_cons, Except.toOption] at hput
  rw [hqueue]
  -- a subscription to another queue has nothing to offer for this one, before and after
  by_cases heq : s.queue = queue
  · simp only [heq, if_true, List.count_cons, List.count_nil] at hput ⊢
    omega
  · simp only [heq, if_false, Option.some.injEq, List.count_nil] at hput ⊢
    omega

/-- Who gives a subscription up gives up what is in its buffer. -/
theorem count_unread_drop (hb : b.Wired) (id : StreamId) (queue : String) (x : Receipt) :
    (b.unread queue).count x =
      ((b.drop id).unread queue).count x + (b.buffered queue id).count x := by
  have hsum := Table.sum_erase hb.nodup id fun s => (s.receipts queue).count x
  rw [count_unread, count_unread, count_buffered, ← hsum]
  show _ = (b.backlog.getD queue []).count x +
    ((b.streams.erase id).values.map fun s => (s.receipts queue).count x).sum + _
  omega

/-! ## What is forsaken -/

/-- As long as no subscription is given up nothing is forsaken. -/
theorem forsaken_of_kept (h : ∀ id, b.streams.contains id = true → b'.streams.contains id = true)
    (queue : String) : b.forsaken b' queue = [] := by
  have hnone : (b.streams.keys.filter fun id => !b'.streams.contains id) = [] := by
    rw [List.filter_eq_nil_iff]
    intro id hid
    simp [h id (Table.mem_keys_iff.mp hid)]
  rw [forsaken, hnone]
  rfl

/-- When one subscription is given up, what was in its buffer is forsaken. -/
theorem forsaken_of_dropped (hb : b.Wired)
    (h : ∀ other, b'.streams.contains other = (b.streams.contains other && other != id))
    (queue : String) : b.forsaken b' queue = b.buffered queue id := by
  have hgone : (b.streams.keys.filter fun other => !b'.streams.contains other) =
      b.streams.keys.filter (· == id) := by
    refine List.filter_congr fun other hother => ?_
    simp [h, Table.mem_keys_iff.mp hother, bne]
  rw [forsaken, hgone, List.filter_beq]
  -- a number that is not that of a subscription has no buffer
  by_cases hid : id ∈ b.streams.keys
  · rw [List.count_eq_one_of_mem hb.nodup hid]
    simp
  · have hnone : b.streams.get? id = none := by
      rw [Table.mem_keys_iff] at hid
      simpa [Table.contains] using hid
    rw [List.count_eq_zero.mpr hid, buffered, hnone]
    rfl

/-! ## Which subscriptions there are -/

theorem contains_deliver (hb : b.Wired) (queue : String) (r : Receipt) (id : StreamId) :
    (b.deliver queue r).streams.contains id = b.streams.contains id := by
  rcases deliver_cases hb queue r with h | ⟨first, s, hs, -, h⟩
  · rw [h]
  · rw [h]
    exact Table.contains_put_of_get hs id _

theorem contains_receive (h : b.receive id = (.receipt r, b')) (other : StreamId) :
    b'.streams.contains other = b.streams.contains other := by
  obtain ⟨s, rest, hs, -, rfl⟩ := receive_receipt h
  exact Table.contains_put_of_get hs other _

theorem contains_subscribe (h : b.subscribe queue = (.ok id, b')) (other : StreamId) :
    b'.streams.contains other = (other == id || b.streams.contains other) := by
  rcases subscribe_cases h with ⟨⟨_, hfail⟩, -⟩ | ⟨hid, rfl⟩
  · cases hfail
  · cases hid
    exact Table.contains_put ..

theorem contains_drop (b : Broker) (id other : StreamId) :
    (b.drop id).streams.contains other = (b.streams.contains other && other != id) :=
  Table.contains_erase ..

/-! ## Subscriptions with numbers of their own -/

theorem wired_idle : idle.Wired where
  nodup := List.nodup_nil
  fresh _ _ := rfl
  numbered _ _ hmem := absurd hmem List.not_mem_nil
  routed _ _ hmem := absurd hmem List.not_mem_nil

/-- One subscription changes, but not the queue that it is to. -/
theorem Wired.change (hb : b.Wired) {s s' : Stream} (hs : b.streams.get? id = some s)
    (hqueue : s'.queue = s.queue) : ({ b with streams := b.streams.put id s' } : Broker).Wired := by
  constructor
  · exact Table.nodup_put hb.nodup id s'
  · intro other hother
    have hne : id ≠ other := by
      rintro rfl
      cases hs.symm.trans (hb.fresh id hother)
    show (b.streams.put id s').get? other = none
    rw [Table.get?_put, if_neg hne]
    exact hb.fresh other hother
  · exact hb.numbered
  · intro queue other hmem t ht
    change (b.streams.put id s').get? other = some t at ht
    rw [Table.get?_put] at ht
    split at ht
    · next heq =>
      subst heq
      cases ht
      rw [hqueue]
      exact hb.routed queue id hmem s hs
    · exact hb.routed queue other hmem t ht

/-- A queue forgets subscriptions, or has none to forget. -/
theorem Wired.relist (hb : b.Wired) {ids : List StreamId}
    (h : ∀ id ∈ ids, id ∈ b.subscribers.getD queue []) (backlog : Table String (List Receipt)) :
    ({ b with subscribers := b.subscribers.put queue ids, backlog } : Broker).Wired := by
  have hsub {other : String} {id : StreamId}
      (hmem : id ∈ (b.subscribers.put queue ids).getD other []) :
      id ∈ b.subscribers.getD other [] := by
    rw [Table.getD_put] at hmem
    split at hmem
    · next heq => exact heq ▸ h id hmem
    · exact hmem
  exact ⟨hb.nodup, hb.fresh, fun other id hmem => hb.numbered other id (hsub hmem),
    fun other id hmem => hb.routed other id (hsub hmem)⟩

theorem Wired.deliver (hb : b.Wired) (queue : String) (r : Receipt) :
    (b.deliver queue r).Wired := by
  have hlisted : ∀ id ∈ b.listeners queue, id ∈ b.subscribers.getD queue [] := by
    intro id hid
    exact (List.mem_filter.mp hid).1
  rcases deliver_cases hb queue r with h | ⟨id, s, hs, -, h⟩
  · rw [h]
    exact hb.relist hlisted _
  · rw [h]
    exact (hb.relist hlisted b.backlog).change hs rfl

theorem Wired.subscribe (hb : b.Wired) (h : b.subscribe queue = (answer, b')) : b'.Wired := by
  rcases subscribe_cases h with ⟨-, rfl⟩ | ⟨-, rfl⟩
  · exact hb
  · constructor
    · exact Table.nodup_put hb.nodup _ _
    · intro id hid
      have hlt : b.nextStream < id := hid
      simp only [Table.get?_put, if_neg (Nat.ne_of_lt hlt)]
      exact hb.fresh id (Nat.le_of_lt hlt)
    · intro other id hmem
      show id < b.nextStream + 1
      simp only [Table.getD_put] at hmem
      split at hmem
      · rcases List.mem_append.mp hmem with hmem | hmem
        · exact Nat.lt_succ_of_lt (hb.numbered queue id hmem)
        · rw [List.mem_singleton.mp hmem]
          exact Nat.lt_succ_self _
      · exact Nat.lt_succ_of_lt (hb.numbered other id hmem)
    · intro other id hmem s hs
      simp only [Table.getD_put, Table.get?_put] at hmem hs
      split at hs
      · -- the new subscription is not listed elsewhere, for its number was not given out
        next heq =>
        subst heq
        cases hs
        split at hmem
        · next hqueue => exact hqueue
        · exact absurd (hb.numbered other _ hmem) (Nat.lt_irrefl _)
      · next hne =>
        split at hmem
        · next hqueue =>
          subst hqueue
          rcases List.mem_append.mp hmem with hmem | hmem
          · exact hb.routed queue id hmem s hs
          · exact absurd (List.mem_singleton.mp hmem).symm hne
        · exact hb.routed other id hmem s hs

theorem Wired.receive (hb : b.Wired) (h : b.receive id = (.receipt r, b')) : b'.Wired := by
  obtain ⟨s, rest, hs, -, rfl⟩ := receive_receipt h
  exact hb.change hs rfl

theorem Wired.drop (hb : b.Wired) (id : StreamId) : (b.drop id).Wired := by
  have hold {other : StreamId} {s : Stream} (h : (b.drop id).streams.get? other = some s) :
      b.streams.get? other = some s := by
    unfold Broker.drop at h
    rw [Table.get?_erase] at h
    split at h
    · cases h
    · exact h
  constructor
  · exact Table.nodup_erase hb.nodup id
  · intro other hother
    show (b.streams.erase id).get? other = none
    rw [Table.get?_erase, hb.fresh other hother, ite_self]
  · exact hb.numbered
  · intro queue other hmem s hs
    exact hb.routed queue other hmem s (hold hs)

/-! ## Subscriptions that offer receipts only -/

/-- A subscription that was neither closed nor cut. -/
def Open (b : Broker) (id : StreamId) : Prop :=
  ∃ s, b.streams.get? id = some s ∧ id ∈ b.subscribers.getD s.queue [] ∧
    ∀ item ∈ s.buffer, ∃ r, item = .ok r

/-- From a subscription that was neither closed nor cut nothing but receipts is heard. -/
theorem receive_of_open (h : b.Open id) :
    b.receive id = (.nothing, b) ∨ ∃ r b', b.receive id = (.receipt r, b') := by
  obtain ⟨s, hs, hlisted, hitems⟩ := h
  unfold receive
  simp only [hs]
  cases hbuffer : s.buffer with
  | nil =>
    refine .inl ?_
    simp [hlisted]
  | cons item rest =>
    obtain ⟨r, rfl⟩ := hitems item (by simp [hbuffer])
    exact .inr ⟨r, _, rfl⟩

theorem Alike.isOpen (h : b.Alike b') (hopen : b.Open id) : b'.Open id := by
  unfold Open
  rw [h.streams, h.subscribers]
  exact hopen

theorem Open.deliver (hopen : b.Open id) (hb : b.Wired) (queue : String) (r : Receipt) :
    (b.deliver queue r).Open id := by
  obtain ⟨s, hs, hlisted, hitems⟩ := hopen
  have hlisted' : id ∈ (b.subscribers.put queue (b.listeners queue)).getD s.queue [] := by
    rw [Table.getD_put]
    split
    · next heq =>
      subst heq
      exact List.mem_filter.mpr ⟨hlisted, Option.isSome_iff_exists.mpr ⟨s, hs⟩⟩
    · exact hlisted
  rcases deliver_cases hb queue r with h | ⟨first, t, ht, -, h⟩
  · rw [h]
    exact ⟨s, hs, hlisted', hitems⟩
  · rw [h]
    by_cases heq : first = id
    · subst heq
      cases hs.symm.trans ht
      refine ⟨_, (Table.get?_put ..).trans (if_pos rfl), hlisted', ?_⟩
      intro item hitem
      rcases List.mem_append.mp hitem with hitem | hitem
      · exact hitems item hitem
      · exact ⟨r, List.mem_singleton.mp hitem⟩
    · exact ⟨s, ((Table.get?_put ..).trans (if_neg heq)).trans hs, hlisted', hitems⟩

theorem Open.subscribe (hopen : b.Open id) (hb : b.Wired) (h : b.subscribe queue = (answer, b')) :
    b'.Open id := by
  rcases subscribe_cases h with ⟨-, rfl⟩ | ⟨-, rfl⟩
  · exact hopen
  · obtain ⟨s, hs, hlisted, hitems⟩ := hopen
    have hne : b.nextStream ≠ id := Nat.ne_of_gt (hb.numbered _ id hlisted)
    refine ⟨s, ((Table.get?_put ..).trans (if_neg hne)).trans hs, ?_, hitems⟩
    simp only [Table.getD_put]
    split
    · next heq =>
      rw [heq]
      exact List.mem_append_left _ hlisted
    · exact hlisted

/-- A new subscription has nothing but the backlog to offer. -/
theorem isOpen_subscribe (h : b.subscribe queue = (.ok id, b')) : b'.Open id := by
  rcases subscribe_cases h with ⟨⟨_, hfail⟩, -⟩ | ⟨hid, rfl⟩
  · cases hfail
  · cases hid
    refine ⟨_, (Table.get?_put ..).trans (if_pos rfl), ?_, ?_⟩
    · simp
    · intro item hitem
      obtain ⟨r, -, rfl⟩ := List.mem_map.mp hitem
      exact ⟨r, rfl⟩

theorem Open.receive {other : StreamId} (hopen : b.Open id)
    (h : b.receive other = (.receipt r, b')) : b'.Open id := by
  obtain ⟨t, rest, ht, hbuffer, rfl⟩ := receive_receipt h
  obtain ⟨s, hs, hlisted, hitems⟩ := hopen
  by_cases heq : other = id
  · subst heq
    cases hs.symm.trans ht
    refine ⟨_, (Table.get?_put ..).trans (if_pos rfl), hlisted, ?_⟩
    intro item hitem
    exact hitems item (hbuffer ▸ List.mem_cons_of_mem _ hitem)
  · exact ⟨s, ((Table.get?_put ..).trans (if_neg heq)).trans hs, hlisted, hitems⟩

theorem Open.drop {other : StreamId} (hopen : b.Open id) (hne : other ≠ id) :
    (b.drop other).Open id := by
  obtain ⟨s, hs, hlisted, hitems⟩ := hopen
  exact ⟨s, ((Table.get?_erase ..).trans (if_neg hne)).trans hs, hlisted, hitems⟩

end Operations

end Broker

end Outbox
