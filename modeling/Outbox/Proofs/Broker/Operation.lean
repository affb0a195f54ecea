import Outbox.Proofs.Broker.Receipts
/-!
# `Proofs.Broker.Operation` — one operation of the broker after another

An operation has the broker to itself until it is done. So whatever the number of callers, and in
whatever order they come, what happens to the broker is a list of operations, each with its answer. A
subscription has one owner, who alone can read from it and give it up: nobody reads from one that
has been given up.

`Does` says what each operation does to the live subscriptions of the queues, to their backlogs and to
the buffers of the subscriptions; it is all that a theorem on receipts and every list of operations
has to go through.
-/

namespace Outbox

namespace Broker

/-! ## Operations and their answers -/

/-- What a caller can ask of the broker. -/
inductive Operation
  | setReachable (reachable : Bool)
  | reject (id : MessageId)
  | failPublications (n : Nat)
  | publish (exchange : String) (m : Message)
  | take (exchange : String)
  | deliver (queue : String) (r : Receipt)
  | close (queue : String)
  | cut (queue reason : String)
  | subscribe (queue : String)
  | receive (stream : StreamId)
  | drop (stream : StreamId)

/-- What the answer to an operation can be. -/
def Operation.Answer : Operation → Type
  | .publish .. => Except BrokerFailure Unit
  | .take _ => Option Publication
  | .subscribe _ => Except BrokerFailure StreamId
  | .receive _ => Reception
  | .setReachable _ | .reject _ | .failPublications _ | .deliver .. | .close _ | .cut ..
  | .drop _ => Unit

/-- Whether somebody can ask for an operation: a subscription is read from, and given up, by its
owner only. -/
def allows (b : Broker) : Operation → Bool
  | .receive stream | .drop stream => b.streams.contains stream
  | _ => true

/-- Carries out an operation. -/
def perform (b : Broker) : (op : Operation) → op.Answer × Broker
  | .setReachable reachable => ((), b.setReachable reachable)
  | .reject id => ((), b.reject id)
  | .failPublications n => ((), b.failPublications n)
  | .publish exchange m => b.publish exchange m
  | .take exchange => b.take exchange
  | .deliver queue r => ((), b.deliver queue r)
  | .close queue => ((), b.close queue)
  | .cut queue reason => ((), b.cut queue reason)
  | .subscribe queue => b.subscribe queue
  | .receive stream => b.receive stream
  | .drop stream => ((), b.drop stream)

/-- An operation that was carried out, and the answer to it. -/
structure Done where
  operation : Operation
  answer : operation.Answer

/-- Operations have been carried out one after the other, the first of them on a new broker. -/
inductive Performed : List Done → Broker → Prop
  | nil : Performed [] .idle
  | snoc {trace : List Done} {b b' : Broker} {op : Operation} {answer : op.Answer} :
      Performed trace b → b.allows op = true → b.perform op = (answer, b') →
      Performed (trace ++ [⟨op, answer⟩]) b'

/-- Carries out operations one after the other, as long as somebody can ask for them. -/
def performAll? (b : Broker) : List Operation → Option (List Done × Broker)
  | [] => some ([], b)
  | op :: rest =>
    if b.allows op then
      ((b.perform op).2.performAll? rest).map fun (trace, b') =>
        (⟨op, (b.perform op).1⟩ :: trace, b')
    else none

/-- What was computed was carried out. -/
theorem Performed.of_performAll? {before trace : List Done} {b b' : Broker} {ops : List Operation}
    (first : Performed before b) (h : b.performAll? ops = some (trace, b')) :
    Performed (before ++ trace) b' := by
  induction ops generalizing before b trace with
  | nil =>
    cases h
    rw [List.append_nil]
    exact first
  | cons op rest ih =>
    unfold performAll? at h
    split at h
    · next hallowed =>
      obtain ⟨⟨later, last⟩, hrest, h⟩ := Option.map_eq_some_iff.mp h
      cases h
      have hnext := ih (.snoc first hallowed rfl) hrest
      rw [List.append_assoc] at hnext
      exact hnext
    · cases h

/-- What was carried out can be cut short anywhere. -/
theorem Performed.before {before later trace : List Done} {b' : Broker} (h : Performed trace b')
    (cut : trace = before ++ later) : ∃ b, Performed before b := by
  induction h generalizing later with
  | nil =>
    obtain ⟨rfl, -⟩ := List.append_eq_nil_iff.mp cut.symm
    exact ⟨_, .nil⟩
  | @snoc trace b b' op answer hbefore allowed hop ih =>
    rcases List.eq_nil_or_concat later with rfl | ⟨later, done, rfl⟩
    · rw [List.append_nil] at cut
      exact ⟨b', cut ▸ .snoc hbefore allowed hop⟩
    · rw [List.concat_eq_append, ← List.append_assoc] at cut
      exact ih (List.append_inj_left' cut rfl)

/-! ## What the operations do -/

/-- What an operation has done, as far as the receipts are concerned. -/
inductive Event
  | delivered (queue : String) (r : Receipt)
  | subscribed (queue : String) (stream : StreamId)
  /-- The subscriptions of a queue were closed or cut. -/
  | ended (queue : String)
  | received (stream : StreamId) (r : Receipt)
  /-- It was said that a subscription has been cut or is at its end. -/
  | finished (stream : StreamId)
  | dropped (stream : StreamId)
  deriving DecidableEq

/-- What an operation has done, as far as the receipts are concerned. -/
def Done.event? : Done → Option Event
  | ⟨.deliver queue r, _⟩ => some (.delivered queue r)
  | ⟨.subscribe queue, answer⟩ =>
    match (answer : Except BrokerFailure StreamId) with
    | .ok stream => some (.subscribed queue stream)
    | .error _ => none
  | ⟨.close queue, _⟩ | ⟨.cut queue _, _⟩ => some (.ended queue)
  | ⟨.receive stream, answer⟩ =>
    match (answer : Reception) with
    | .receipt r => some (.received stream r)
    | .lost _ | .ended => some (.finished stream)
    | .nothing => none
  | ⟨.drop stream, _⟩ => some (.dropped stream)
  | _ => none

/-- **What an operation does to the receipts.** -/
inductive Does (b b' : Broker) : Option Event → Prop
  /-- A receipt goes to the first live subscription. -/
  | gave {queue : String} {r : Receipt} {first : StreamId} {rest : List StreamId} {s : Stream}
      (live : b.listeners queue = first :: rest) (found : b.streams.get? first = some s)
      (routed : s.queue = queue)
      (listeners : ∀ other, b'.listeners other = b.listeners other)
      (backlog : ∀ other, b'.backlog.getD other [] = b.backlog.getD other [])
      (streams : ∀ id, b'.streams.get? id =
        if first = id then some { s with buffer := s.buffer ++ [.ok r] } else b.streams.get? id) :
      Does b b' (some (.delivered queue r))
  /-- A receipt goes to the backlog. -/
  | kept {queue : String} {r : Receipt} (live : b.listeners queue = [])
      (listeners : ∀ other, b'.listeners other = b.listeners other)
      (backlog : ∀ other, b'.backlog.getD other [] =
        b.backlog.getD other [] ++ if queue = other then [r] else [])
      (streams : b'.streams = b.streams) : Does b b' (some (.delivered queue r))
  /-- A new subscription gets the backlog. -/
  | opened {queue : String} {id : StreamId} (new : b.streams.get? id = none)
      (unlisted : ∀ other, id ∉ b.subscribers.getD other [])
      (listeners : ∀ other, b'.listeners other =
        b.listeners other ++ if queue = other then [id] else [])
      (backlog : ∀ other, b'.backlog.getD other [] =
        if queue = other then [] else b.backlog.getD other [])
      (streams : ∀ other, b'.streams.get? other =
        if id = other then some ⟨queue, (b.backlog.getD queue []).map .ok⟩
        else b.streams.get? other) :
      Does b b' (some (.subscribed queue id))
  /-- The subscriptions of a queue end; to some of them it may be said why. -/
  | ended {queue : String} {said : StreamId → List BrokerFailure}
      (listed : ∀ id, id ∉ b.subscribers.getD queue [] → said id = [])
      (listeners : ∀ other, b'.listeners other = if queue = other then [] else b.listeners other)
      (backlog : ∀ other, b'.backlog.getD other [] = b.backlog.getD other [])
      (streams : ∀ id, b'.streams.get? id = (b.streams.get? id).map fun s =>
        { s with buffer := s.buffer ++ (said id).map .error }) :
      Does b b' (some (.ended queue))
  /-- A receipt is read from the front of a buffer. -/
  | received {id : StreamId} {s : Stream} {r : Receipt} {rest : List (Except BrokerFailure Receipt)}
      (found : b.streams.get? id = some s) (buffer : s.buffer = .ok r :: rest)
      (listeners : ∀ other, b'.listeners other = b.listeners other)
      (backlog : ∀ other, b'.backlog.getD other [] = b.backlog.getD other [])
      (streams : ∀ other, b'.streams.get? other =
        if id = other then some { s with buffer := rest } else b.streams.get? other) :
      Does b b' (some (.received id r))
  /-- It is said that a subscription has been cut. -/
  | lost {id : StreamId} {s : Stream} {failure : BrokerFailure}
      {rest : List (Except BrokerFailure Receipt)} (found : b.streams.get? id = some s)
      (buffer : s.buffer = .error failure :: rest)
      (listeners : ∀ other, b'.listeners other = b.listeners other)
      (backlog : ∀ other, b'.backlog.getD other [] = b.backlog.getD other [])
      (streams : ∀ other, b'.streams.get? other =
        if id = other then some { s with buffer := rest } else b.streams.get? other) :
      Does b b' (some (.finished id))
  /-- It is said that a subscription is at its end. -/
  | exhausted {id : StreamId} {s : Stream} (found : b.streams.get? id = some s) (buffer : s.buffer = [])
      (unlisted : id ∉ b.subscribers.getD s.queue []) (same : b' = b) :
      Does b b' (some (.finished id))
  /-- A subscription is given up, with all that is in its buffer. -/
  | dropped {id : StreamId} {s : Stream} (found : b.streams.get? id = some s)
      (listeners : ∀ other, b'.listeners other = (b.listeners other).filter (· ≠ id))
      (backlog : ∀ other, b'.backlog.getD other [] = b.backlog.getD other [])
      (streams : ∀ other, b'.streams.get? other =
        if id = other then none else b.streams.get? other) :
      Does b b' (some (.dropped id))
  /-- The operation has failed, or has nothing to do with receipts. -/
  | same (alike : b.Alike b') : Does b b' none

section Does

variable {b b' : Broker} {queue : String} {id : StreamId} {r : Receipt}

theorem mem_listeners {id : StreamId} :
    id ∈ b.listeners queue ↔ id ∈ b.subscribers.getD queue [] ∧ b.streams.contains id = true :=
  List.mem_filter

/-- The live subscriptions of the queues depend on who is listed and who is there. -/
theorem listeners_congr (subscribers : ∀ queue, b'.subscribers.getD queue [] = b.subscribers.getD queue [])
    (streams : ∀ id, b'.streams.contains id = b.streams.contains id) (queue : String) :
    b'.listeners queue = b.listeners queue := by
  unfold listeners
  rw [subscribers, show b'.streams.contains = b.streams.contains from funext streams]

/-- To list only the live subscriptions of a queue changes none of those that are live. -/
theorem listeners_relist (queue : String)
    (streams : ∀ id, b'.streams.contains id = b.streams.contains id)
    (subscribers : b'.subscribers = b.subscribers.put queue (b.listeners queue)) (other : String) :
    b'.listeners other = b.listeners other := by
  unfold listeners
  rw [subscribers, show b'.streams.contains = b.streams.contains from funext streams,
    Table.getD_put]
  split
  · next heq =>
    rw [← heq]
    exact List.filter_filter.trans (by simp)
  · rfl

theorem contains_of_get? {t t' : Table StreamId Stream} {s s' : Stream} {first : StreamId}
    (found : t.get? first = some s)
    (get : ∀ id, t'.get? id = if first = id then some s' else t.get? id) (id : StreamId) :
    t'.contains id = t.contains id := by
  unfold Table.contains
  rw [get id]
  split
  · next heq => rw [← heq, found]; rfl
  · rfl

/-- A delivery reaches the first live subscription, or the backlog if there is none. -/
theorem does_deliver (hb : b.Wired) (queue : String) (r : Receipt) :
    Does b (b.deliver queue r) (some (.delivered queue r)) := by
  cases hlive : b.listeners queue with
  | nil =>
    have hdeliver : b.deliver queue r =
        { b with
          subscribers := b.subscribers.put queue []
          backlog := b.backlog.put queue (b.backlog.getD queue [] ++ [r]) } := by
      simp only [deliver, hlive]
    refine .kept hlive ?_ ?_ ?_
    · apply listeners_relist queue
      · intro id
        rw [hdeliver]
      · rw [hdeliver, hlive]
    · intro other
      rw [hdeliver]
      simp only [Table.getD_put]
      split
      · next heq => rw [heq]
      · rw [List.append_nil]
    · rw [hdeliver]
  | cons first rest =>
    have hfirst : first ∈ b.listeners queue := by simp [hlive]
    obtain ⟨hmem, hthere⟩ := mem_listeners.mp hfirst
    obtain ⟨s, hs⟩ := Option.isSome_iff_exists.mp hthere
    have hdeliver : b.deliver queue r =
        { b with
          subscribers := b.subscribers.put queue (first :: rest)
          streams := b.streams.put first { s with buffer := s.buffer ++ [.ok r] } } := by
      simp only [deliver, hlive, push, hs]
    have hstreams (id : StreamId) : (b.deliver queue r).streams.get? id =
        if first = id then some { s with buffer := s.buffer ++ [.ok r] } else b.streams.get? id := by
      rw [hdeliver]
      exact Table.get?_put ..
    refine .gave hlive hs (hb.routed queue first hmem s hs) ?_ ?_ hstreams
    · apply listeners_relist queue
      · exact contains_of_get? hs hstreams
      · rw [hdeliver, hlive]
    · intro other
      rw [hdeliver]

theorem does_subscribe (hb : b.Wired) {answer : Except BrokerFailure StreamId}
    (h : b.subscribe queue = (answer, b')) : Does b b' (Done.event? ⟨.subscribe queue, answer⟩) := by
  rcases subscribe_cases h with ⟨⟨failure, rfl⟩, rfl⟩ | ⟨rfl, rfl⟩
  · exact .same b'.alike_refl
  · have hnew := hb.fresh _ (Nat.le_refl b.nextStream)
    have hunlisted (other : String) : b.nextStream ∉ b.subscribers.getD other [] := by
      intro hmem
      exact Nat.lt_irrefl _ (hb.numbered other _ hmem)
    refine .opened hnew hunlisted ?_ ?_ ?_
    · intro other
      have hfilter (ids : List StreamId) (hids : b.nextStream ∉ ids) :
          ids.filter (b.streams.put b.nextStream
            ⟨queue, (b.backlog.getD queue []).map .ok⟩).contains = ids.filter b.streams.contains := by
        refine List.filter_congr fun id hid => ?_
        rw [Table.contains_put]
        have hne : id ≠ b.nextStream := fun heq => hids (heq ▸ hid)
        simp [hne]
      unfold listeners
      simp only [Table.getD_put]
      split
      · next heq =>
        subst heq
        rw [List.filter_append, hfilter _ (hunlisted queue)]
        congr 1
        simp [Table.contains_put]
      · rw [List.append_nil]
        exact hfilter _ (hunlisted other)
    · intro other
      exact Table.getD_erase ..
    · intro other
      exact Table.get?_put ..

theorem does_close (b : Broker) (queue : String) : Does b (b.close queue) (some (.ended queue)) := by
  refine @Does.ended b _ queue (fun _ => []) (fun _ _ => rfl) ?_ (fun _ => rfl) ?_
  · intro other
    unfold listeners close
    simp only [Table.getD_erase]
    split <;> rfl
  · intro id
    show b.streams.get? id = _
    cases b.streams.get? id <;> simp

/-- What a subscription has to offer after it was added to for every time that it is listed. -/
theorem get?_foldl_push (failure : BrokerFailure) (ids : List StreamId)
    (streams : Table StreamId Stream) (id : StreamId) :
    (ids.foldl (fun streams id => push streams id (.error failure)) streams).get? id =
      (streams.get? id).map fun s =>
        { s with buffer := s.buffer ++ (List.replicate (ids.count id) failure).map .error } := by
  induction ids generalizing streams with
  | nil => cases h : streams.get? id <;> simp [h]
  | cons first rest ih =>
    rw [List.foldl_cons, ih]
    have hpush : (push streams first (.error failure)).get? id =
        if first = id then (streams.get? id).map fun s =>
          { s with buffer := s.buffer ++ [.error failure] } else streams.get? id := by
      unfold push
      by_cases heq : first = id
      · subst heq
        cases hfirst : streams.get? first <;> simp [hfirst]
      · cases streams.get? first <;> simp [heq]
    rw [hpush, List.count_cons]
    by_cases heq : first = id
    · cases streams.get? id <;> simp [heq, List.replicate_succ]
    · simp [heq]

theorem does_cut (b : Broker) (queue reason : String) :
    Does b (b.cut queue reason) (some (.ended queue)) := by
  have hstreams (id : StreamId) := get?_foldl_push (.connectionLost reason)
    (b.subscribers.getD queue []) b.streams id
  refine @Does.ended b _ queue
    (fun id => List.replicate ((b.subscribers.getD queue []).count id) (.connectionLost reason))
    ?_ ?_ (fun _ => rfl) hstreams
  · intro id hid
    rw [List.count_eq_zero.mpr hid]
    rfl
  · intro other
    have hthere (id : StreamId) : (b.cut queue reason).streams.contains id = b.streams.contains id := by
      unfold Table.contains
      rw [show (b.cut queue reason).streams.get? id = _ from hstreams id, Option.isSome_map]
    unfold listeners
    rw [show (b.cut queue reason).streams.contains = b.streams.contains from funext hthere]
    show ((b.subscribers.erase queue).getD other []).filter _ = _
    rw [Table.getD_erase]
    split <;> rfl

theorem does_receive (allowed : b.streams.contains id = true) {answer : Reception}
    (h : b.receive id = (answer, b')) : Does b b' (Done.event? ⟨.receive id, answer⟩) := by
  obtain ⟨s, hs⟩ := Option.isSome_iff_exists.mp allowed
  unfold receive at h
  simp only [hs] at h
  split at h
  · next item rest hbuffer =>
    have hget (other : StreamId) : (b.streams.put id { s with buffer := rest }).get? other =
        if id = other then some { s with buffer := rest } else b.streams.get? other :=
      Table.get?_put ..
    have hthere := contains_of_get? hs hget
    have hlisteners (other : String) :
        ({ b with streams := b.streams.put id { s with buffer := rest } } : Broker).listeners other =
          b.listeners other := by
      refine listeners_congr ?_ hthere other
      exact fun _ => rfl
    cases item with
    | ok r =>
      cases h
      exact .received hs hbuffer hlisteners (fun _ => rfl) hget
    | error failure =>
      cases h
      exact .lost hs hbuffer hlisteners (fun _ => rfl) hget
  · next hbuffer =>
    split at h
    · cases h
      exact .same b.alike_refl
    · next hunlisted =>
      cases h
      refine .exhausted hs hbuffer ?_ rfl
      simpa using hunlisted

theorem does_drop (allowed : b.streams.contains id = true) :
    Does b (b.drop id) (some (.dropped id)) := by
  obtain ⟨s, hs⟩ := Option.isSome_iff_exists.mp allowed
  refine .dropped hs ?_ (fun _ => rfl) fun other => Table.get?_erase ..
  intro other
  unfold listeners
  rw [List.filter_filter]
  refine List.filter_congr fun id' _ => ?_
  rw [contains_drop, Bool.and_comm]
  simp [bne]
  rfl

theorem alike_publish (b : Broker) (exchange : String) (m : Message) :
    b.Alike (b.publish exchange m).2 := by
  unfold publish
  split
  · exact b.alike_refl
  · split
    · exact ⟨rfl, rfl, rfl, rfl⟩
    · split <;> exact ⟨rfl, rfl, rfl, rfl⟩

theorem alike_take (b : Broker) (exchange : String) : b.Alike (b.take exchange).2 := by
  unfold take
  split <;> exact ⟨rfl, rfl, rfl, rfl⟩

/-- Every operation does what `Does` says of it. -/
theorem does_of_perform {op : Operation} {answer : op.Answer} (hb : b.Wired)
    (allowed : b.allows op = true) (h : b.perform op = (answer, b')) :
    Does b b' (Done.event? ⟨op, answer⟩) := by
  cases op with
  | setReachable | reject | failPublications =>
    cases h
    exact .same ⟨rfl, rfl, rfl, rfl⟩
  | publish exchange m =>
    have hb' : (b.publish exchange m).2 = b' := congrArg Prod.snd h
    exact .same (hb' ▸ b.alike_publish exchange m)
  | take exchange =>
    have hb' : (b.take exchange).2 = b' := congrArg Prod.snd h
    exact .same (hb' ▸ b.alike_take exchange)
  | deliver queue r =>
    cases h
    exact does_deliver hb queue r
  | close queue =>
    cases h
    exact does_close b queue
  | cut queue reason =>
    cases h
    exact does_cut b queue reason
  | subscribe queue => exact does_subscribe hb h
  | receive stream => exact does_receive allowed h
  | drop stream =>
    cases h
    exact does_drop allowed

/-! ## Subscriptions with numbers of their own -/

theorem Wired.push (hb : b.Wired) (id : StreamId) (item : Except BrokerFailure Receipt) :
    ({ b with streams := Broker.push b.streams id item } : Broker).Wired := by
  unfold Broker.push
  split
  · next s hs => exact hb.change hs rfl
  · exact hb

theorem Wired.close (hb : b.Wired) (queue : String) : (b.close queue).Wired := by
  have hsub {other : String} {id : StreamId} (hmem : id ∈ (b.subscribers.erase queue).getD other []) :
      id ∈ b.subscribers.getD other [] := by
    rw [Table.getD_erase] at hmem
    split at hmem
    · cases hmem
    · exact hmem
  exact ⟨hb.nodup, hb.fresh, fun other id hmem => hb.numbered other id (hsub hmem),
    fun other id hmem => hb.routed other id (hsub hmem)⟩

theorem Wired.cut (hb : b.Wired) (queue reason : String) : (b.cut queue reason).Wired := by
  have hpushed := List.foldlRecOn (motive := fun streams => ({ b with streams } : Broker).Wired)
    (b.subscribers.getD queue []) _ hb fun streams hstreams id _ =>
      hstreams.push id (.error (.connectionLost reason))
  exact hpushed.close queue

theorem Wired.receives (hb : b.Wired) {answer : Reception} (h : b.receive id = (answer, b')) :
    b'.Wired := by
  unfold Broker.receive at h
  split at h
  · cases h
    exact hb
  · next s hs =>
    split at h
    · next item rest hbuffer =>
      have hread : ({ b with
          streams := b.streams.put id { s with buffer := rest } } : Broker).Wired :=
        hb.change hs rfl
      cases item <;> cases h <;> exact hread
    · cases h
      exact hb

theorem Wired.perform (hb : b.Wired) {op : Operation} {answer : op.Answer}
    (h : b.perform op = (answer, b')) : b'.Wired := by
  cases op with
  | setReachable | reject | failPublications =>
    cases h
    exact ⟨hb.nodup, hb.fresh, hb.numbered, hb.routed⟩
  | publish exchange m =>
    have hb' : (b.publish exchange m).2 = b' := congrArg Prod.snd h
    exact hb' ▸ (b.alike_publish exchange m).wired hb
  | take exchange =>
    have hb' : (b.take exchange).2 = b' := congrArg Prod.snd h
    exact hb' ▸ (b.alike_take exchange).wired hb
  | deliver queue r =>
    cases h
    exact hb.deliver queue r
  | close queue =>
    cases h
    exact hb.close queue
  | cut queue reason =>
    cases h
    exact hb.cut queue reason
  | subscribe queue => exact hb.subscribe h
  | receive stream => exact hb.receives h
  | drop stream =>
    cases h
    exact hb.drop stream

theorem Performed.wired {trace : List Done} (h : Performed trace b) : b.Wired := by
  induction h with
  | nil => exact wired_idle
  | snoc _ _ hop ih => exact ih.perform hop

/-- What an operation does that was carried out after others. -/
theorem Performed.does {trace : List Done} {op : Operation} {answer : op.Answer}
    (h : Performed trace b) (allowed : b.allows op = true) (hop : b.perform op = (answer, b')) :
    Does b b' (Done.event? ⟨op, answer⟩) :=
  does_of_perform h.wired allowed hop

/-- A subscription that is made has the number that was next; no other operation gives one out. -/
theorem nextStream_of_perform {op : Operation} {answer : op.Answer}
    (h : b.perform op = (answer, b')) :
    (∃ queue, Done.event? ⟨op, answer⟩ = some (.subscribed queue b.nextStream) ∧
      b'.nextStream = b.nextStream + 1) ∨
    ((∀ queue id, Done.event? ⟨op, answer⟩ ≠ some (.subscribed queue id)) ∧
      b'.nextStream = b.nextStream) := by
  cases op with
  | subscribe queue =>
    rcases subscribe_cases h with ⟨⟨failure, rfl⟩, rfl⟩ | ⟨rfl, rfl⟩
    · exact .inr ⟨fun _ _ h => (nomatch h), rfl⟩
    · exact .inl ⟨queue, rfl, rfl⟩
  | publish exchange m =>
    have hb' : (b.publish exchange m).2 = b' := congrArg Prod.snd h
    exact .inr ⟨fun _ _ h => (nomatch h), hb' ▸ (b.alike_publish exchange m).nextStream⟩
  | take exchange =>
    have hb' : (b.take exchange).2 = b' := congrArg Prod.snd h
    exact .inr ⟨fun _ _ h => (nomatch h), hb' ▸ (b.alike_take exchange).nextStream⟩
  | deliver queue r =>
    cases h
    refine .inr ⟨fun _ _ h => (nomatch h), ?_⟩
    unfold Broker.deliver
    dsimp only
    split <;> rfl
  | receive stream =>
    have h : b.receive stream = (answer, b') := h
    have hnext : b'.nextStream = b.nextStream := by
      have hb' : (b.receive stream).2 = b' := congrArg Prod.snd h
      rw [← hb']
      unfold Broker.receive
      split
      · rfl
      · split
        · split <;> rfl
        · rfl
    refine .inr ⟨fun queue id hevent => ?_, hnext⟩
    change Reception at answer
    cases answer <;> cases hevent
  | setReachable | reject | failPublications | close | cut | drop =>
    cases h
    exact .inr ⟨fun _ _ h => (nomatch h), rfl⟩

end Does

/-! ## What a subscription has to offer -/

/-- The receipt that was delivered on a queue. -/
def Event.deliveredOn? (queue : String) : Event → Option Receipt
  | .delivered other r => if other = queue then some r else none
  | _ => none

/-- The receipt that was read from a subscription. -/
def Event.receivedFrom? (id : StreamId) : Event → Option Receipt
  | .received other r => if other = id then some r else none
  | _ => none

/-- The subscription that somebody has read from or given up. -/
def Event.readerOf? : Event → Option StreamId
  | .received id _ | .finished id | .dropped id => some id
  | .delivered .. | .subscribed .. | .ended _ => none

/-- The receipts of a queue that a subscription is given, if these are live: it must be the first. -/
def Event.givenTo (queue : String) (live : List StreamId) (id : StreamId) : Event → List Receipt
  | .delivered other r => if other = queue ∧ live.head? = some id then [r] else []
  | _ => []

end Broker

/-- A subscription has receipts to offer, and then the reasons for which it was cut. -/
def Stream.Offers (s : Stream) (rs : List Receipt) (failures : List BrokerFailure) : Prop :=
  s.buffer = List.map .ok rs ++ List.map .error failures

theorem Stream.Offers.receipts {s : Stream} {rs : List Receipt} {failures : List BrokerFailure}
    (h : s.Offers rs failures) : s.receipts s.queue = rs := by
  unfold Stream.receipts
  rw [if_pos rfl, h, List.filterMap_append, List.filterMap_map, List.filterMap_map]
  simp [Function.comp_def, Except.toOption]

namespace Broker

section Offers

variable {b b' : Broker} {id : StreamId} {s : Stream} {e : Event} {rs : List Receipt}
  {failures : List BrokerFailure}

/-- Nobody reads from a subscription, or gives it up, that is not there. -/
theorem Does.reader (does : Does b b' (some e)) (h : e.readerOf? = some id) :
    ∃ s, b.streams.get? id = some s := by
  cases does with
  | gave | kept | opened | ended => cases h
  | received found | lost found | exhausted found | dropped found =>
    cases h
    exact ⟨_, found⟩

/-- No operation but a new subscription brings one that is not there. -/
theorem Does.gone (does : Does b b' (some e)) (gone : b.streams.get? id = none)
    (fresh : ∀ queue, e ≠ .subscribed queue id) : b'.streams.get? id = none := by
  have hne {other : StreamId} {s : Stream} (found : b.streams.get? other = some s) :
      ¬ other = id := by
    rintro rfl
    cases found.symm.trans gone
  cases does with
  | gave _ found _ _ _ streams | received found _ _ _ streams | lost found _ _ _ streams
  | dropped found _ _ streams => rw [streams id, if_neg (hne found), gone]
  | kept _ _ _ streams => rw [streams, gone]
  | @opened queue new _ _ _ _ streams =>
    have hother : ¬ new = id := fun heq => fresh queue (heq ▸ rfl)
    rw [streams id, if_neg hother, gone]
  | ended _ _ _ streams =>
    rw [streams id, gone]
    rfl
  | exhausted _ _ _ same => rw [same, gone]

/-- **What an operation does to a subscription.** One that somebody can read from is given up, or is
still there: what is read from it and what it has to offer then is what it had to offer before and
what it is given. When it is said that it has ended, it had nothing to offer. -/
theorem Does.offers (does : Does b b' (some e)) (hb : b.Wired)
    (found : b.streams.get? id = some s) (h : s.Offers rs failures)
    (live : id ∈ b.listeners s.queue → failures = []) :
    (e = .dropped id ∧ b'.streams.get? id = none) ∨
    (e ≠ .dropped id ∧ ∃ s' rs' failures', b'.streams.get? id = some s' ∧ s'.queue = s.queue ∧
      s'.Offers rs' failures' ∧ (id ∈ b'.listeners s.queue → failures' = []) ∧
      (e.receivedFrom? id).toList ++ rs' = rs ++ e.givenTo s.queue (b.listeners s.queue) id ∧
      (e = .finished id → rs = [] ∧ id ∉ b.listeners s.queue)) := by
  have hne {other : StreamId} {t : Stream} (hfound : b.streams.get? other = some t)
      (hid : other = id) : t = s := by
    subst hid
    exact Option.some.inj (hfound.symm.trans found)
  cases does with
  | @gave queue r first rest t hlive hfirst routed listeners _ streams =>
    refine .inr ⟨by simp, ?_⟩
    simp only [Event.givenTo, Event.receivedFrom?, listeners, streams id, reduceCtorEq]
    split
    · next heq =>
      -- the receipt is at the back of the buffer, and no failure stands before it
      obtain rfl := hne hfirst heq
      subst heq routed
      have hnone := live (by simp [hlive])
      subst hnone
      refine ⟨_, rs ++ [r], [], rfl, rfl, ?_, fun _ => rfl, ?_, False.elim⟩
      · unfold Stream.Offers at h ⊢
        simp [h]
      · simp [hlive]
    · next hother =>
      refine ⟨s, rs, failures, found, rfl, h, live, ?_, False.elim⟩
      rw [if_neg]
      · simp
      · rintro ⟨rfl, hhead⟩
        rw [hlive] at hhead
        exact hother (Option.some.inj hhead)
  | @kept queue r hlive listeners _ streams =>
    refine .inr ⟨by simp, s, rs, failures, by rw [streams, found], rfl, h,
      listeners s.queue ▸ live, ?_, by simp⟩
    simp only [Event.givenTo, Event.receivedFrom?]
    rw [if_neg]
    · simp
    · rintro ⟨rfl, hhead⟩
      rw [hlive] at hhead
      cases hhead
  | @opened queue new absent unlisted listeners _ streams =>
    have hother : ¬ new = id := by
      rintro rfl
      cases found.symm.trans absent
    refine .inr ⟨by simp, s, rs, failures, (streams id).trans ((if_neg hother).trans found), rfl, h,
      ?_, (List.append_nil rs).symm, by simp⟩
    rw [listeners]
    intro hid
    rcases List.mem_append.mp hid with hid | hid
    · exact live hid
    · split at hid
      · exact absurd (List.mem_singleton.mp hid).symm hother
      · cases hid
  | @ended queue said listed listeners _ streams =>
    refine .inr ⟨by simp, { s with buffer := s.buffer ++ (said id).map .error }, rs,
      failures ++ said id, by rw [streams id, found]; rfl, rfl, ?_, ?_, (List.append_nil rs).symm, by simp⟩
    · unfold Stream.Offers at h ⊢
      simp [h]
    · rw [listeners]
      intro hid
      split at hid
      · cases hid
      · next hqueue =>
        rw [live hid, listed id]
        · rfl
        · exact fun hmem => hqueue (hb.routed queue id hmem s found).symm
  | @received other t r rest hfound buffer listeners _ streams =>
    refine .inr ⟨by simp, ?_⟩
    simp only [Event.givenTo, Event.receivedFrom?, listeners, streams id, reduceCtorEq]
    split
    · next heq =>
      obtain rfl := hne hfound heq
      unfold Stream.Offers at h
      rw [buffer] at h
      cases rs with
      | nil => cases failures <;> cases h
      | cons first rs =>
        obtain ⟨hr, hrest⟩ := List.cons.inj h
        cases hr
        exact ⟨_, rs, failures, rfl, rfl, hrest, live, (List.append_nil _).symm, False.elim⟩
    · exact ⟨s, rs, failures, found, rfl, h, live, (List.append_nil _).symm, False.elim⟩
  | @lost other t failure rest hfound buffer listeners _ streams =>
    refine .inr ⟨by simp, ?_⟩
    simp only [Event.givenTo, Event.receivedFrom?, listeners, streams id]
    split
    · next heq =>
      obtain rfl := hne hfound heq
      unfold Stream.Offers at h
      rw [buffer] at h
      cases rs with
      | cons first rs => cases h
      | nil =>
        -- a failure is at the front, so the subscription is not live
        cases failures with
        | nil => cases h
        | cons first failures =>
          have hdead : id ∉ b.listeners t.queue := fun hid => List.cons_ne_nil _ _ (live hid)
          exact ⟨_, [], failures, rfl, rfl, (List.cons.inj h).2, fun hid => absurd hid hdead, rfl,
            fun _ => ⟨rfl, hdead⟩⟩
    · next hother =>
      refine ⟨s, rs, failures, found, rfl, h, live, (List.append_nil _).symm, fun heq => ?_⟩
      cases heq
      exact absurd rfl hother
  | @exhausted other t hfound buffer unlisted same =>
    subst same
    refine .inr ⟨by simp, s, rs, failures, found, rfl, h, live, (List.append_nil _).symm,
      fun heq => ?_⟩
    cases heq
    obtain rfl := hne hfound rfl
    refine ⟨?_, fun hid => unlisted (mem_listeners.mp hid).1⟩
    unfold Stream.Offers at h
    rw [buffer] at h
    exact List.map_eq_nil_iff.mp (List.append_eq_nil_iff.mp h.symm).1
  | @dropped other t hfound listeners _ streams =>
    by_cases heq : other = id
    · exact .inl ⟨by rw [heq], (streams id).trans (if_pos heq)⟩
    · refine .inr ⟨fun h => heq (Event.dropped.inj h), s, rs, failures,
        (streams id).trans ((if_neg heq).trans found), rfl, h, ?_, (List.append_nil _).symm, by simp⟩
      rw [listeners]
      exact fun hid => live (List.mem_of_mem_filter hid)

end Offers

end Broker

end Outbox
