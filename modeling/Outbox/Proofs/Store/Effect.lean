import Outbox.Store
import Mathlib.Data.List.Nodup
/-!
# `Proofs.Store.Effect` — what the operations of the store do

An operation of the store either fails, and then all stays as it is but for the counts of faults to
come, or it does one of four things: it puts a new message in, claims the oldest messages that are
available, moves one message by a legal step and ends the claim on it, or ends some claims. Each of
them is a relation between the store before and the store after, and each keeps a store sound. What
a later proof needs to know of an operation is in the lemma that gives its relation.
-/

namespace Outbox.Store

/-! ## Views -/

/-- The status of a message. -/
def status? (s : Store) (id : MessageId) : Option Status :=
  (s.messages.get? id).map Message.status

/-- The messages that a fetch could claim, the oldest first. -/
def available (s : Store) : List MessageId :=
  s.order.filter fun id => s.status? id = some .pending ∧ id ∉ s.claimed

theorem mem_available {s : Store} {id : MessageId} :
    id ∈ s.available ↔ id ∈ s.order ∧ s.status? id = some .pending ∧ id ∉ s.claimed := by
  simp [available]

/-- A store in which every message is kept under its own identifier. -/
def Keyed (s : Store) : Prop :=
  ∀ id m, s.messages.get? id = some m → m.id = id

/-- A store in which every message is kept under its own identifier and listed once, and in which
only pending messages are claimed. -/
structure Sound (s : Store) : Prop where
  keyed : s.Keyed
  listed : ∀ {id}, id ∈ s.order ↔ (s.status? id).isSome
  once : s.order.Nodup
  pending : ∀ {id}, id ∈ s.claimed → s.status? id = some .pending

theorem keyed_empty : empty.Keyed := by
  intro id m h
  cases h

theorem sound_empty : empty.Sound := by
  refine ⟨keyed_empty, ?_, List.nodup_nil, ?_⟩
  · intro id
    exact ⟨fun h => absurd h List.not_mem_nil, fun h => absurd h Bool.false_ne_true⟩
  · intro id h
    exact absurd h List.not_mem_nil

/-! ## Effects -/

/-- Nothing has changed but the counts of faults to come. -/
structure Same (s s' : Store) : Prop where
  messages : s'.messages = s.messages
  order : s'.order = s.order
  claimed : s'.claimed = s.claimed
  writes : s'.writes = s.writes

/-- A new message has been put in. -/
structure Inserted (s : Store) (m : Message) (s' : Store) : Prop where
  fresh : s.status? m.id = none
  pending : m.status = .pending
  messages : s'.messages = s.messages.put m.id m
  order : s'.order = s.order ++ [m.id]
  claimed : s'.claimed = s.claimed
  writes : s'.writes = s.writes

/-- The oldest available messages have been claimed. -/
structure Fetched (s : Store) (limit : Nat) (batch : List Message) (s' : Store) : Prop where
  ids : batch.map Message.id = s.available.take limit
  messages : s'.messages = s.messages
  order : s'.order = s.order
  claimed : s'.claimed = s.claimed ++ batch.map Message.id
  writes : s'.writes = s.writes

/-- A message has made a legal step, which ended the claim on it. -/
structure Moved (s : Store) (id : MessageId) (old new : Status) (s' : Store) : Prop where
  legal : Status.Step old new
  was : s.status? id = some old
  message : ∃ m : Message, m.id = id ∧ m.status = new ∧ s'.messages = s.messages.put id m
  order : s'.order = s.order
  claimed : s'.claimed = s.claimed.filter (· ≠ id)
  writes : s'.writes = s.writes + 1

/-- The claims on some messages have ended. -/
structure Released (s : Store) (ids : List MessageId) (s' : Store) : Prop where
  messages : s'.messages = s.messages
  order : s'.order = s.order
  claimed : s'.claimed = s.claimed.filter (!ids.contains ·)
  writes : s'.writes = s.writes

section Views

variable {s s' : Store} {m : Message} {id other : MessageId} {old new : Status} {limit : Nat}
  {batch : List Message} {ids : List MessageId}

theorem Same.refl (s : Store) : Same s s :=
  ⟨rfl, rfl, rfl, rfl⟩

theorem status?_of_messages (h : s'.messages = s.messages) (id : MessageId) :
    s'.status? id = s.status? id := by
  rw [status?, status?, h]

theorem Same.status? (h : Same s s') (id : MessageId) : s'.status? id = s.status? id :=
  status?_of_messages h.messages id

theorem Fetched.status? (h : Fetched s limit batch s') (id : MessageId) :
    s'.status? id = s.status? id :=
  status?_of_messages h.messages id

theorem Released.status? (h : Released s ids s') (id : MessageId) : s'.status? id = s.status? id :=
  status?_of_messages h.messages id

theorem Inserted.status? (h : Inserted s m s') (id : MessageId) :
    s'.status? id = if m.id = id then some .pending else s.status? id := by
  rw [Store.status?, h.messages, Table.get?_put]
  split
  · simp [h.pending]
  · rfl

theorem Moved.status? (h : Moved s id old new s') (other : MessageId) :
    s'.status? other = if id = other then some new else s.status? other := by
  obtain ⟨m, -, hm, hmessages⟩ := h.message
  rw [Store.status?, hmessages, Table.get?_put]
  split
  · simp [hm]
  · rfl

theorem Moved.mem_claimed (h : Moved s id old new s') :
    other ∈ s'.claimed ↔ other ∈ s.claimed ∧ other ≠ id := by
  simp [h.claimed]

theorem Released.mem_claimed (h : Released s ids s') :
    other ∈ s'.claimed ↔ other ∈ s.claimed ∧ other ∉ ids := by
  simp [h.claimed]

theorem Fetched.mem_claimed (h : Fetched s limit batch s') :
    other ∈ s'.claimed ↔ other ∈ s.claimed ∨ other ∈ batch.map Message.id := by
  rw [h.claimed, List.mem_append]

/-- What a fetch claims was available. -/
theorem Fetched.was_available (h : Fetched s limit batch s') (hid : id ∈ batch.map Message.id) :
    s.status? id = some .pending ∧ id ∉ s.claimed := by
  rw [h.ids] at hid
  exact (mem_available.mp (List.mem_of_mem_take hid)).2

theorem Fetched.nodup (h : Fetched s limit batch s') (hs : s.Sound) :
    (batch.map Message.id).Nodup := by
  rw [h.ids]
  exact (hs.once.filter _).sublist (List.take_sublist ..)

/-! ### Soundness is kept -/

theorem Keyed.of_messages (hs : s.Keyed) (h : s'.messages = s.messages) : s'.Keyed := by
  intro id m hm
  exact hs id m (h ▸ hm)

theorem Keyed.put (hs : s.Keyed) (h : s'.messages = s.messages.put m.id m) : s'.Keyed := by
  intro id n hn
  rw [h, Table.get?_put] at hn
  split at hn
  · next hid =>
    cases hn
    exact hid
  · exact hs id n hn

theorem Same.sound (h : Same s s') (hs : s.Sound) : s'.Sound := by
  refine ⟨?_, ?_, ?_, ?_⟩
  · exact hs.keyed.of_messages h.messages
  · intro id
    rw [h.order, h.status?]
    exact hs.listed
  · rw [h.order]
    exact hs.once
  · intro id hid
    rw [h.status?]
    exact hs.pending (h.claimed ▸ hid)

theorem Inserted.sound (h : Inserted s m s') (hs : s.Sound) : s'.Sound := by
  refine ⟨?_, ?_, ?_, ?_⟩
  · exact hs.keyed.put h.messages
  · intro id
    rw [h.status?, h.order, List.mem_append, List.mem_singleton, hs.listed]
    split
    · next hid => simp [hid]
    · next hid => simp [Ne.symm hid]
  · have hm : m.id ∉ s.order := by
      rw [hs.listed, h.fresh]
      exact Bool.false_ne_true
    rw [h.order]
    refine List.nodup_append.mpr ⟨hs.once, List.nodup_singleton _, ?_⟩
    intro id hid other hother heq
    rw [List.mem_singleton] at hother
    subst heq hother
    exact hm hid
  · intro id hid
    rw [h.status?]
    split
    · rfl
    · exact hs.pending (h.claimed ▸ hid)

theorem Fetched.sound (h : Fetched s limit batch s') (hs : s.Sound) : s'.Sound := by
  refine ⟨?_, ?_, ?_, ?_⟩
  · exact hs.keyed.of_messages h.messages
  · intro id
    rw [h.order, h.status?]
    exact hs.listed
  · rw [h.order]
    exact hs.once
  · intro id hid
    rw [h.status?]
    rcases h.mem_claimed.mp hid with hid | hid
    · exact hs.pending hid
    · exact (h.was_available hid).1

theorem Moved.sound (h : Moved s id old new s') (hs : s.Sound) : s'.Sound := by
  obtain ⟨m, hid, -, hmessages⟩ := h.message
  refine ⟨?_, ?_, ?_, ?_⟩
  · exact hs.keyed.put (hid ▸ hmessages)
  · intro other
    rw [h.order, h.status?, hs.listed]
    split
    · next heq => simp [← heq, h.was]
    · rfl
  · rw [h.order]
    exact hs.once
  · intro other hother
    obtain ⟨hclaimed, hne⟩ := h.mem_claimed.mp hother
    rw [h.status?, if_neg (Ne.symm hne)]
    exact hs.pending hclaimed

theorem Released.sound (h : Released s ids s') (hs : s.Sound) : s'.Sound := by
  refine ⟨?_, ?_, ?_, ?_⟩
  · exact hs.keyed.of_messages h.messages
  · intro id
    rw [h.order, h.status?]
    exact hs.listed
  · rw [h.order]
    exact hs.once
  · intro id hid
    rw [h.status?]
    exact hs.pending (h.mem_claimed.mp hid).1

/-- A new message is not claimed. -/
theorem Inserted.unclaimed (h : Inserted s m s') (hs : s.Sound) : m.id ∉ s'.claimed := by
  intro hm
  have hpending := hs.pending (h.claimed ▸ hm)
  rw [h.fresh] at hpending
  cases hpending

end Views

/-! ## Operations -/

section Operations

variable {s s' : Store} {α : Type} {operation : Store → Except StoreFailure α × Store}
  {answer : Except StoreFailure α}

/-- An operation is made to fail, or it is done. -/
theorem attempt_cases (h : s.attempt operation = (answer, s')) :
    (∃ reason, answer = .error (.unavailable reason) ∧ Same s s') ∨
      operation s = (answer, s') := by
  simp only [attempt] at h
  split at h
  · cases h
    exact .inl ⟨_, rfl, ⟨rfl, rfl, rfl, rfl⟩⟩
  · exact .inr h

/-- **Claiming takes the oldest.** Going through identifiers, `claim` takes the first available ones,
each once, and adds them to the claims. -/
theorem claim_ids (hs : s.Keyed) (limit : Nat) (ids claimed : List MessageId) :
    (claim s.messages limit ids claimed).1.map Message.id =
      (ids.filter fun id => s.status? id = some .pending ∧ id ∉ claimed).eraseDups.take limit ∧
    (claim s.messages limit ids claimed).2 =
      claimed ++ (claim s.messages limit ids claimed).1.map Message.id := by
  induction ids generalizing limit claimed with
  | nil => cases limit <;> simp [claim]
  | cons id rest ih =>
    cases limit with
    | zero => simp [claim]
    | succ limit =>
      rw [claim]
      by_cases hclaimed : id ∈ claimed
      · simpa [hclaimed] using ih (limit + 1) claimed
      · cases hm : s.messages.get? id with
        | none => simpa [hclaimed, hm, Store.status?] using ih (limit + 1) claimed
        | some m =>
          by_cases hpending : m.status = .pending
          · have hkey : m.id = id := hs id m hm
            have hrec := ih limit (claimed ++ [id])
            -- the new claim hides the later places of the identifier
            have hfilter : (rest.filter fun other =>
                  s.status? other = some .pending ∧ other ∉ claimed ++ [id]) =
                (rest.filter fun other => s.status? other = some .pending ∧ other ∉ claimed).filter
                  fun other => !other == id := by
              rw [List.filter_filter]
              refine List.filter_congr fun other _ => ?_
              by_cases hother : other = id <;> simp [hother]
            rw [hfilter] at hrec
            have hstatus : s.status? id = some .pending := by simp [Store.status?, hm, hpending]
            simp only [hclaimed, hpending, hkey, hstatus, hrec.1, List.contains_eq_mem,
              decide_false, Bool.false_eq_true, if_false, if_true, List.map_cons, not_false_iff,
              and_self, decide_true, List.filter_cons_of_pos, List.eraseDups_cons,
              List.take_succ_cons, true_and]
            rw [hrec.2, hrec.1, List.append_assoc, List.singleton_append]
          · simpa [hclaimed, hm, hpending, Store.status?] using ih (limit + 1) claimed

/-- A list without repeats stays as it is when the repeats are taken out. -/
theorem eraseDups_of_nodup {ids : List MessageId} (h : ids.Nodup) : ids.eraseDups = ids := by
  induction ids with
  | nil => rfl
  | cons id rest ih =>
    obtain ⟨hid, hrest⟩ := List.nodup_cons.mp h
    have hothers : rest.filter (fun other => !other == id) = rest := by
      refine List.filter_eq_self.mpr fun other hother => ?_
      have hne : other ≠ id := fun heq => hid (heq ▸ hother)
      simpa using hne
    rw [List.eraseDups_cons, hothers, ih hrest]

/-- A fetch crashes its caller for want of room, or it has its answer. -/
theorem fetch?_cases (s : Store) (limit : Nat) :
    s.fetch? limit = none ∧ room < limit ∨ s.fetch? limit = some (s.fetch limit) := by
  unfold fetch?
  split
  · next lacks => exact .inl ⟨rfl, lacks.2⟩
  · exact .inr rfl

/-- A fetch for which there is room has its answer. -/
theorem fetch?_of_le {limit : Nat} (fits : limit ≤ room) :
    s.fetch? limit = some (s.fetch limit) :=
  (s.fetch?_cases limit).resolve_left fun lacks => Nat.not_lt_of_le fits lacks.2

/-- A fetch crashes its caller if it is not to fail and there is no room for so many messages. -/
theorem fetch?_eq_none_iff {limit : Nat} :
    s.fetch? limit = none ↔ s.failures = 0 ∧ room < limit := by
  unfold fetch?
  split
  · next lacks => exact iff_of_true rfl lacks
  · next fits => exact iff_of_false (Option.some_ne_none _) fits

/-- A fetch that does not crash its caller has the answer of one for which there is room. -/
theorem fetch_of_fetch? {limit : Nat} {answer : Except StoreFailure (List Message)}
    (h : s.fetch? limit = some (answer, s')) : s.fetch limit = (answer, s') := by
  rcases s.fetch?_cases limit with ⟨hcrash, -⟩ | hfetch
  · cases hcrash.symm.trans h
  · exact Option.some.inj (hfetch.symm.trans h)

/-- What a fetch does. -/
theorem fetch_cases {limit : Nat} {answer : Except StoreFailure (List Message)} (hs : s.Sound)
    (h : s.fetch limit = (answer, s')) :
    (∃ reason, answer = .error (.unavailable reason) ∧ Same s s') ∨
      ∃ batch, answer = .ok batch ∧ Fetched s limit batch s' := by
  rcases attempt_cases h with h | h
  · exact .inl h
  · obtain ⟨hids, hclaimed⟩ := claim_ids hs.keyed limit s.order s.claimed
    have hnodup : s.available.Nodup := hs.once.filter _
    rw [← available, eraseDups_of_nodup hnodup] at hids
    cases h
    exact .inr ⟨_, rfl, hids, rfl, rfl, hclaimed, rfl⟩

/-- What an update does. -/
theorem update_cases {id : MessageId} {status : Status} {now : Instant}
    {answer : Except StoreFailure Transition} (hs : s.Keyed)
    (h : s.update id status now = (answer, s')) :
    (∃ reason, answer = .error (.unavailable reason) ∧ Same s s') ∨
    (answer = .error (.notFound id) ∧ s.status? id = none ∧ Same s s') ∨
    (∃ current, answer = .error (.conflict id current status) ∧ s.status? id = some current ∧
      ¬ Status.Step current status ∧ Same s s') ∨
    ∃ old, answer = .ok ⟨id, old, status⟩ ∧ Moved s id old status s' := by
  rcases attempt_cases h with h | h
  · exact .inl h
  · split at h
    · cases h
      exact .inl ⟨_, rfl, rfl, rfl, rfl, rfl⟩
    · split at h
      · next hm =>
        cases h
        exact .inr (.inl ⟨rfl, by simp [Store.status?, hm], .refl _⟩)
      · next m hm =>
        have hstatus : s.status? id = some m.status := by simp [Store.status?, hm]
        split at h
        · next hlegal =>
          have hkey : m.id = id := hs id m hm
          cases h
          refine .inr (.inr (.inr ⟨m.status, rfl, ?_⟩))
          refine ⟨Status.canBecome_iff.mp hlegal, hstatus, ?_, rfl, rfl, rfl⟩
          exact ⟨{ m with status, updatedAt := now }, hkey, rfl, rfl⟩
        · next hlegal =>
          cases h
          refine .inr (.inr (.inl ⟨m.status, rfl, hstatus, ?_, .refl _⟩))
          rwa [← Status.canBecome_iff]

/-- What a release does. -/
theorem release_cases {ids : List MessageId} {answer : Except StoreFailure Unit}
    (h : s.release ids = (answer, s')) :
    (∃ reason, answer = .error (.unavailable reason) ∧ Same s s') ∨
      (answer = .ok () ∧ Released s ids s') := by
  rcases attempt_cases h with h | h
  · exact .inl h
  · cases h
    exact .inr ⟨rfl, rfl, rfl, rfl, rfl⟩

/-- Putting a message in that is not there yet. -/
theorem inserted_insert {m : Message} (hfresh : s.messages.contains m.id = false)
    (hpending : m.status = .pending) : Inserted s m (s.insert m) := by
  refine ⟨?_, hpending, rfl, rfl, rfl, rfl⟩
  rw [status?, Option.map_eq_none_iff]
  simpa [Table.contains] using hfresh

/-- Counting the messages changes nothing. -/
theorem same_tally (s : Store) : Same s s.tally.2 := by
  have h : s.tally = (s.tally.1, s.tally.2) := rfl
  rcases attempt_cases h with ⟨-, -, hsame⟩ | hdone
  · exact hsame
  · rw [show s.tally.2 = s from congrArg Prod.snd hdone.symm]
    exact .refl s

end Operations

end Outbox.Store
