import Mathlib.Data.List.Perm.Subperm
import Outbox.Proofs.OldestFirst
/-!
# `Proofs.AgreeingCollections` — the list, the messages and the claims of a store agree

A store keeps three collections side by side: the list of what was inserted, the messages by
identifier, and the claims. No operation changes all three. An insertion leaves the claims alone,
even where it replaces a message that is claimed or whose life has ended; a step leaves the list
alone and takes its message out of the claims; a fetch and a release touch the claims only. The three
agree all the same after any operations, failed ones included: what is listed is what there is, and
only pending messages are claimed.

So no pending message is out of reach. One that is not claimed waits in the queue, and fetches that
go on until one of them returns nothing have emptied the queue.
-/

namespace Outbox.Store

/-- The collections of a store agree. -/
structure Agreeing (s : Store) : Prop where
  /-- What is listed is what there is. -/
  listed : ∀ id, id ∈ s.order ↔ id ∈ s.messages.keys
  keyed : s.Keyed
  /-- What is claimed is there, and pending. -/
  pending : ∀ id ∈ s.claimed, ∃ m, s.messages.get? id = some m ∧ m.status = .pending
  keysOnce : s.messages.keys.Nodup
  claimsOnce : s.claimed.Nodup

/-- Messages are all those that are pending and not claimed, each of them once. -/
structure Gathered (s : Store) (ms : List Message) : Prop where
  once : (ms.map Message.id).Nodup
  all : ∀ m, m ∈ ms ↔ s.messages.get? m.id = some m ∧ m.status = .pending ∧ m.id ∉ s.claimed

section Agreeing

variable {s s' : Store} {done : Done} {trace : List Done} {m : Message}

theorem agreeing_empty : empty.Agreeing where
  listed _ := Iff.rfl
  keyed := keyed_empty
  pending _ hid := absurd hid List.not_mem_nil
  keysOnce := List.nodup_nil
  claimsOnce := List.nodup_nil

/-! ## What every operation keeps -/

/-- A pending message is one whose status is that. -/
theorem status?_eq_pending {id : MessageId} : s.status? id = some .pending ↔
    ∃ m, s.messages.get? id = some m ∧ m.status = .pending :=
  Option.map_eq_some_iff

/-- An operation that touches the claims only. -/
theorem Agreeing.claim (hs : s.Agreeing) (messages : s'.messages = s.messages)
    (order : s'.order = s.order) (pending : ∀ id ∈ s'.claimed, s.status? id = some .pending)
    (once : s'.claimed.Nodup) : s'.Agreeing where
  listed id := by
    rw [order, messages]
    exact hs.listed id
  keyed := hs.keyed.of_messages messages
  pending id hid := by
    rw [messages]
    exact status?_eq_pending.mp (pending id hid)
  keysOnce := messages ▸ hs.keysOnce
  claimsOnce := once

/-- An operation that puts a message into the place of its identifier, and leaves no claims on others
than pending messages. -/
theorem Agreeing.put (hs : s.Agreeing) (messages : s'.messages = s.messages.put m.id m)
    (order : ∀ id, id ∈ s'.order ↔ id = m.id ∨ id ∈ s.order)
    (pending : ∀ id ∈ s'.claimed, s'.status? id = some .pending) (once : s'.claimed.Nodup) :
    s'.Agreeing where
  listed id := by
    rw [order, hs.listed, messages, Table.mem_keys_iff, Table.mem_keys_iff, Table.contains_put,
      Bool.or_eq_true, beq_iff_eq]
  keyed := hs.keyed.put messages
  pending id hid := status?_eq_pending.mp (pending id hid)
  keysOnce := messages ▸ Table.nodup_put hs.keysOnce _ _
  claimsOnce := once

theorem Placed.agreeing (h : Placed s m s') (hs : s.Agreeing) : s'.Agreeing := by
  refine hs.put h.messages (fun id => ?_) (fun id hid => ?_) (h.claimed ▸ hs.claimsOnce)
  · rw [h.order, List.mem_append, List.mem_singleton, or_comm]
  · -- a message that is replaced by a pending one may keep its claim
    rw [h.status?]
    split
    · rfl
    · exact status?_eq_pending.mpr (hs.pending id (h.claimed ▸ hid))

theorem Drawn.agreeing {limit : Nat} {batch : List Message} (h : Drawn s limit batch s')
    (hs : s.Agreeing) : s'.Agreeing := by
  refine hs.claim h.messages h.order (fun id hid => ?_) ?_
  · rw [h.claimed] at hid
    rcases List.mem_append.mp hid with hclaimed | hdrawn
    · exact status?_eq_pending.mpr (hs.pending id hclaimed)
    · exact (mem_available.mp (h.was_available hdrawn)).2.1
  · rw [h.claimed]
    refine List.nodup_append.mpr ⟨hs.claimsOnce, h.nodup, ?_⟩
    rintro id hclaimed other hdrawn rfl
    exact (mem_available.mp (h.was_available hdrawn)).2.2 hclaimed

theorem Moved.agreeing {id : MessageId} {old new : Status} (h : Moved s id old new s')
    (hs : s.Agreeing) : s'.Agreeing := by
  obtain ⟨m, rfl, -, hmessages⟩ := h.message
  have hthere : m.id ∈ s.order := by
    obtain ⟨found, hfound, -⟩ := Option.map_eq_some_iff.mp h.was
    exact (hs.listed m.id).mpr (Table.mem_keys_of_get? hfound)
  refine hs.put hmessages (fun other => ?_) (fun other hother => ?_) ?_
  · rw [h.order]
    exact ⟨.inr, fun hother => hother.elim (fun heq => heq ▸ hthere) id⟩
  · obtain ⟨hclaimed, hne⟩ := h.mem_claimed.mp hother
    rw [h.status?, if_neg (Ne.symm hne)]
    exact status?_eq_pending.mpr (hs.pending other hclaimed)
  · rw [h.claimed]
    exact hs.claimsOnce.filter _

theorem Released.agreeing {ids : List MessageId} (h : Released s ids s') (hs : s.Agreeing) :
    s'.Agreeing := by
  refine hs.claim h.messages h.order (fun id hid => ?_) ?_
  · exact status?_eq_pending.mpr (hs.pending id (h.mem_claimed.mp hid).1)
  · rw [h.claimed]
    exact hs.claimsOnce.filter _

/-- **Every operation leaves the collections agreeing.** -/
theorem Does.agreeing (h : Does s s' done) (hs : s.Agreeing) : s'.Agreeing := by
  cases h with
  | placed h => exact h.agreeing hs
  | drawn h => exact h.agreeing hs
  | moved h => exact h.agreeing hs
  | released h => exact h.agreeing hs
  | same h =>
    refine hs.claim h.messages h.order (fun id hid => ?_) (h.claimed ▸ hs.claimsOnce)
    exact status?_eq_pending.mpr (hs.pending id (h.claimed ▸ hid))

theorem Performed.agreeing (h : Performed .empty trace s) : s.Agreeing :=
  h.invariant keyed_empty agreeing_empty fun _ hdoes hs => hdoes.agreeing hs

/-! ## Nothing is out of reach -/

/-- The queue holds all that is pending and not claimed. -/
theorem Agreeing.gathered (hs : s.Agreeing) : s.Gathered (s.waiting s.order) where
  once := nodup_waiting hs.keyed
  all m := by
    rw [mem_waiting hs.keyed]
    exact ⟨And.right, fun hm => ⟨(hs.listed m.id).mpr (Table.mem_keys_of_get? hm.1), hm⟩⟩

/-- No more messages can be in the queue than there are. -/
theorem Agreeing.length_waiting_le (hs : s.Agreeing) :
    (s.waiting s.order).length ≤ s.messages.keys.length := by
  have hthere : (s.waiting s.order).map Message.id ⊆ s.messages.keys := fun id hid => by
    obtain ⟨m, hm, rfl⟩ := List.mem_map.mp hid
    exact Table.mem_keys_of_get? ((hs.gathered.all m).mp hm).1
  have hle := (List.subperm_of_subset hs.gathered.once hthere).length_le
  rwa [List.length_map] at hle

/-- Fetches again and again, with one limit after the other, until a fetch returns nothing. Gives all
that was fetched, unless the limits do not suffice or there is no room for one of them. A fetch that
fails is made up for by the next. -/
def drain (s : Store) : (limits : List Nat) → Option (List Message)
  | [] => none
  | limit :: limits =>
    match s.fetch? limit with
    | none => none
    | some (.error _, s) => s.drain limits
    | some (.ok [], _) => some []
    | some (.ok (m :: batch), s) => (s.drain limits).map (m :: batch ++ ·)

/-- **What is fetched until there is nothing left is the queue**, and a fetch for each message, one
more, and one for each that fails suffice, if there is room for all of them. -/
theorem drain_eq (hs : s.Keyed) {limits : List Nat} (positive : ∀ limit ∈ limits, 0 < limit) :
    (∀ {ms}, s.drain limits = some ms → ms = s.waiting s.order) ∧
    ((∀ limit ∈ limits, limit ≤ room) →
      s.failures + (s.waiting s.order).length < limits.length → (s.drain limits).isSome = true) := by
  induction limits generalizing s with
  | nil =>
    exact ⟨fun {ms} h => absurd h (Option.some_ne_none ms).symm,
      fun _ h => absurd h (Nat.not_lt_zero _)⟩
  | cons limit limits ih =>
    obtain ⟨hlimit, hlimits⟩ := List.forall_mem_cons.mp positive
    rw [drain, List.length_cons]
    rcases s.fetch?_cases limit with ⟨hcrash, hlacks⟩ | hfetched
    · rw [hcrash]
      refine ⟨nofun, fun fits => ?_⟩
      exact absurd hlacks (Nat.not_lt_of_le (fits limit List.mem_cons_self))
    rw [hfetched]
    by_cases hfails : 0 < s.failures
    · -- nothing is fetched, and one fault is used up
      obtain ⟨heq, hsome⟩ := ih (s := { s with failures := s.failures - 1 }) (hs.of_messages rfl)
        hlimits
      rw [fetch, attempt, if_pos hfails]
      refine ⟨heq, fun fits hmore => hsome (List.forall_mem_cons.mp fits).2 ?_⟩
      show s.failures - 1 + (s.waiting s.order).length < limits.length
      omega
    · have hquiet : s.failures = 0 := Nat.eq_zero_of_not_pos hfails
      have hleft : ({ s with claimed := s.claimed ++
            ((s.waiting s.order).take limit).map Message.id } : Store).waiting s.order =
          (s.waiting s.order).drop limit := waiting_taken hs limit
      rw [fetch_waiting hs hquiet rfl]
      generalize s.waiting s.order = queue at hleft ⊢
      cases queue with
      | nil =>
        rw [List.take_nil]
        exact ⟨fun h => (Option.some.inj h).symm, fun _ _ => rfl⟩
      | cons m queue =>
        obtain ⟨limit, rfl⟩ := Nat.exists_eq_add_one.mpr hlimit
        rw [List.take_succ_cons] at hleft ⊢
        obtain ⟨heq, hsome⟩ := ih (s := { s with
          claimed := s.claimed ++ (m :: queue.take limit).map Message.id }) (hs.of_messages rfl)
          hlimits
        rw [hleft, List.drop_succ_cons] at heq hsome
        refine ⟨fun {ms} h => ?_, fun fits hmore => ?_⟩
        · obtain ⟨rest, hrest, rfl⟩ := Option.map_eq_some_iff.mp h
          rw [heq hrest, List.cons_append, List.take_append_drop]
        · rw [Option.isSome_map]
          refine hsome (List.forall_mem_cons.mp fits).2 ?_
          simp only [List.length_cons, List.length_drop] at hmore ⊢
          omega

end Agreeing

/-- **The collections of a store always agree.** Whatever is done to an empty store, with any
identifiers and any faults: the list has the identifiers of the messages that there are, each message
is kept under its own, only pending messages are claimed, and if no identifier was given out twice
none is listed twice. So unless it is made to fail, a fetch of as many messages as there are returns
every pending message that is not claimed, if there is room for it; and fetches that go on until one
returns nothing, which comes to pass if there is room for each, return each of these messages once
between them, whatever the limits and failures on the way. -/
theorem collections_agree {trace : List Done} {s : Store} (h : Performed .empty trace s) :
    s.Agreeing ∧
    ((insertions trace).Nodup → s.order.Nodup) ∧
    (∀ limit, s.failures = 0 → s.messages.keys.length ≤ limit → limit ≤ room →
      ∃ batch s', s.fetch? limit = some (.ok batch, s') ∧ s.Gathered batch ∧
        ∀ id m, s.messages.get? id = some m → m.status = .pending →
          (m ∈ batch ↔ id ∉ s.claimed)) ∧
    ∀ limits : List Nat, (∀ limit ∈ limits, 0 < limit) →
      (∀ {ms}, s.drain limits = some ms → s.Gathered ms) ∧
      ((∀ limit ∈ limits, limit ≤ room) →
        s.failures + s.messages.keys.length < limits.length → (s.drain limits).isSome = true) := by
  have hs := h.agreeing
  have hqueue := hs.gathered
  have hlength := hs.length_waiting_le
  refine ⟨hs, fun distinct => ?_, fun limit quiet enough fits => ?_, fun limits positive => ?_⟩
  · have hlisted : s.order = insertions trace := h.order keyed_empty
    exact hlisted ▸ distinct
  · have hfetch := fetch_waiting hs.keyed quiet rfl limit
    rw [List.take_of_length_le (Nat.le_trans hlength enough)] at hfetch
    refine ⟨_, _, (fetch?_of_le fits).trans (congrArg some hfetch), hqueue,
      fun id m hfound hpending => ?_⟩
    obtain rfl : m.id = id := hs.keyed id m hfound
    rw [hqueue.all]
    exact ⟨fun hm => hm.2.2, fun hfree => ⟨hfound, hpending, hfree⟩⟩
  · obtain ⟨heq, hsome⟩ := drain_eq hs.keyed positive
    exact ⟨fun h => heq h ▸ hqueue, fun fits enough => hsome fits (by omega)⟩

/-- Identifiers are given out again for a message that is claimed and for one that was published, and
two fetches are going to fail. -/
def replaced : List Done :=
  let m (n : Nat) := Message.ofDraft (.ofNat n) default .epoch
  [⟨.insert (.ofNat 1) default .epoch, m 1⟩,
    ⟨.insert (.ofNat 2) default .epoch, m 2⟩,
    ⟨.fetch 1, Except.ok [m 1]⟩,
    ⟨.update (.ofNat 2) .enqueued .epoch, Except.ok ⟨.ofNat 2, .pending, .enqueued⟩⟩,
    ⟨.insert (.ofNat 1) default .epoch, m 1⟩,
    ⟨.insert (.ofNat 3) default .epoch, m 3⟩,
    ⟨.insert (.ofNat 2) default .epoch, m 2⟩,
    ⟨.failOperations 2, ()⟩]

theorem collections_agree_replaced : ∃ s, Performed .empty replaced s ∧ s.Agreeing ∧
    s.order = [.ofNat 1, .ofNat 2, .ofNat 1, .ofNat 3, .ofNat 2] ∧ s.claimed = [.ofNat 1] ∧
    (∃ ms, s.drain [1, 1, 1, 1, 1] = some ms ∧ s.Gathered ms ∧
      ms.map Message.id = [.ofNat 2, .ofNat 3]) ∧
    (s.drain (List.replicate 6 1)).isSome = true := by
  have h : Performed .empty replaced _ :=
    .cons rfl (.cons rfl (.cons rfl (.cons rfl (.cons rfl (.cons rfl (.cons rfl (.cons rfl .nil)))))))
  obtain ⟨hs, -, -, hdrain⟩ := collections_agree h
  refine ⟨_, h, hs, rfl, by decide +kernel, ⟨_, rfl, ?_, by decide +kernel⟩, ?_⟩
  · exact (hdrain [1, 1, 1, 1, 1] (by decide)).1 rfl
  · exact (hdrain (List.replicate 6 1) (by decide)).2 (by decide) (by decide +kernel)

end Outbox.Store
