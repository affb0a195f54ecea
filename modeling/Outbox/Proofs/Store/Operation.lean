import Outbox.Proofs.Store.Effect
/-!
# `Proofs.Store.Operation` — one operation of the store after another

An operation has the store to itself until it is done. So whatever the number of callers, and in
whatever order they come, what happens to the store is a list of operations, each with its answer.
All that comes from outside is part of the operation: the identifier that was given out for a
message, which may be one that was given out before, and what the clock reads. A fetch that crashes its
caller for want of room leaves the store as it is, so it is no operation here.

`Does` says what each operation does, in terms of the effects; it is all that a theorem about every
list of operations has to go through.
-/

namespace Outbox.Store

/-! ## Operations and their answers -/

/-- What a caller can ask of the store. -/
inductive Operation
  /-- To put in the message of a draft under the identifier that was given out for it. -/
  | insert (id : MessageId) (draft : Draft) (now : Instant)
  | fetch (limit : Nat)
  | update (id : MessageId) (status : Status) (now : Instant)
  | release (ids : List MessageId)
  | get (id : MessageId)
  | tally
  | failOperations (n : Nat)
  | failUpdates (n : Nat)

/-- What the answer to an operation can be. -/
def Operation.Answer : Operation → Type
  | .insert .. => Message
  | .fetch _ => Except StoreFailure (List Message)
  | .update .. => Except StoreFailure Transition
  | .release _ => Except StoreFailure Unit
  | .get _ => Except StoreFailure (Option Message)
  | .tally => Except StoreFailure Tally
  | .failOperations _ | .failUpdates _ => Unit

/-- Carries out an operation. -/
def perform (s : Store) : (op : Operation) → op.Answer × Store
  | .insert id draft now =>
    let m := Message.ofDraft id draft now
    (m, s.insert m)
  | .fetch limit => s.fetch limit
  | .update id status now => s.update id status now
  | .release ids => s.release ids
  | .get id => s.get id
  | .tally => s.tally
  | .failOperations n => ((), s.failOperations n)
  | .failUpdates n => ((), s.failUpdates n)

/-- An operation that was carried out, and the answer to it. -/
structure Done where
  operation : Operation
  answer : operation.Answer

/-- The identifiers of the messages that a fetch has returned. -/
def Done.fetched : Done → List MessageId
  | ⟨.fetch _, answer⟩ =>
    match (answer : Except StoreFailure (List Message)) with
    | .ok batch => batch.map Message.id
    | .error _ => []
  | _ => []

/-- Operations have been carried out one after the other. -/
inductive Performed : Store → List Done → Store → Prop
  | nil {s : Store} : Performed s [] s
  | cons {s s₁ s' : Store} {op : Operation} {answer : op.Answer} {trace : List Done} :
      s.perform op = (answer, s₁) → Performed s₁ trace s' → Performed s (⟨op, answer⟩ :: trace) s'

/-- What was carried out can be cut in two anywhere. -/
theorem Performed.split {s s' : Store} {before later : List Done}
    (h : Performed s (before ++ later) s') :
    ∃ mid, Performed s before mid ∧ Performed mid later s' := by
  induction before generalizing s with
  | nil => exact ⟨s, .nil, h⟩
  | cons done before ih =>
    cases h with
    | cons hdone hrest =>
      obtain ⟨mid, hbefore, hlater⟩ := ih hrest
      exact ⟨mid, .cons hdone hbefore, hlater⟩

/-! ## What the operations do -/

/-- A message has been put in, under an identifier that may have been used before. -/
structure Placed (s : Store) (m : Message) (s' : Store) : Prop where
  pending : m.status = .pending
  messages : s'.messages = s.messages.put m.id m
  order : s'.order = s.order ++ [m.id]
  claimed : s'.claimed = s.claimed
  writes : s'.writes = s.writes

/-- The oldest available messages have been claimed, each once, though one whose identifier was used
again is listed again. -/
structure Drawn (s : Store) (limit : Nat) (batch : List Message) (s' : Store) : Prop where
  ids : batch.map Message.id = s.available.eraseDups.take limit
  messages : s'.messages = s.messages
  order : s'.order = s.order
  claimed : s'.claimed = s.claimed ++ batch.map Message.id
  writes : s'.writes = s.writes

/-- **What an operation does.** -/
inductive Does (s s' : Store) : Done → Prop
  | placed {id : MessageId} {draft : Draft} {now : Instant}
      (h : Placed s (.ofDraft id draft now) s') :
      Does s s' ⟨.insert id draft now, Message.ofDraft id draft now⟩
  | drawn {limit : Nat} {batch : List Message} (h : Drawn s limit batch s') :
      Does s s' ⟨.fetch limit, Except.ok batch⟩
  | moved {id : MessageId} {old new : Status} {now : Instant} (h : Moved s id old new s') :
      Does s s' ⟨.update id new now, Except.ok ⟨id, old, new⟩⟩
  | released {ids : List MessageId} (h : Released s ids s') :
      Does s s' ⟨.release ids, Except.ok ()⟩
  /-- The operation has failed, or it is one that only looks or sets faults. -/
  | same {done : Done} (h : Same s s') (fetched : done.fetched = []) : Does s s' done

section Does

variable {s s' : Store} {done : Done} {trace : List Done} {id : MessageId} {m : Message}

theorem Placed.status? (h : Placed s m s') (id : MessageId) :
    s'.status? id = if m.id = id then some .pending else s.status? id := by
  rw [Store.status?, h.messages, Table.get?_put]
  split
  · rw [Option.map_some, h.pending]
  · rfl

theorem Drawn.status? {limit : Nat} {batch : List Message} (h : Drawn s limit batch s')
    (id : MessageId) : s'.status? id = s.status? id :=
  status?_of_messages h.messages id

/-- Once the repeats are taken out of a list, none are left. -/
theorem nodup_eraseDups (ids : List MessageId) : ids.eraseDups.Nodup := by
  cases ids with
  | nil => exact List.nodup_nil
  | cons id rest =>
    rw [List.eraseDups_cons]
    refine List.nodup_cons.mpr ⟨?_, nodup_eraseDups (rest.filter fun other => !other == id)⟩
    simp [List.mem_eraseDups]
termination_by ids.length
decreasing_by exact Nat.lt_succ_of_le (List.length_filter_le ..)

theorem Drawn.nodup {limit : Nat} {batch : List Message} (h : Drawn s limit batch s') :
    (batch.map Message.id).Nodup := by
  rw [h.ids]
  exact (nodup_eraseDups _).sublist (List.take_sublist ..)

/-- What a fetch claims was available. -/
theorem Drawn.was_available {limit : Nat} {batch : List Message} (h : Drawn s limit batch s')
    (hid : id ∈ batch.map Message.id) : id ∈ s.available := by
  rw [h.ids] at hid
  exact List.mem_eraseDups.mp (List.mem_of_mem_take hid)

theorem drawn_cases {limit : Nat} {answer : Except StoreFailure (List Message)} (hs : s.Keyed)
    (h : s.fetch limit = (answer, s')) :
    (∃ reason, answer = .error (.unavailable reason) ∧ Same s s') ∨
      ∃ batch, answer = .ok batch ∧ Drawn s limit batch s' := by
  rcases attempt_cases h with h | h
  · exact .inl h
  · obtain ⟨hids, hclaimed⟩ := claim_ids hs limit s.order s.claimed
    cases h
    exact .inr ⟨_, rfl, hids, rfl, rfl, hclaimed, rfl⟩

/-- Looking a message up changes nothing. -/
theorem same_get (s : Store) (id : MessageId) : Same s (s.get id).2 := by
  have h : s.get id = ((s.get id).1, (s.get id).2) := rfl
  rcases attempt_cases h with ⟨-, -, hsame⟩ | hdone
  · exact hsame
  · rw [show (s.get id).2 = s from congrArg Prod.snd hdone.symm]
    exact .refl s

/-- Every operation does what `Does` says of it. -/
theorem does_of_perform {op : Operation} {answer : op.Answer} (hs : s.Keyed)
    (h : s.perform op = (answer, s')) : Does s s' ⟨op, answer⟩ := by
  cases op with
  | insert id draft now =>
    cases h
    exact .placed ⟨rfl, rfl, rfl, rfl, rfl⟩
  | fetch limit =>
    rcases drawn_cases hs h with ⟨reason, rfl, hsame⟩ | ⟨batch, rfl, hdrawn⟩
    · exact .same hsame rfl
    · exact .drawn hdrawn
  | update id status now =>
    rcases update_cases hs h with ⟨reason, rfl, hsame⟩ | ⟨rfl, -, hsame⟩ |
      ⟨current, rfl, -, -, hsame⟩ | ⟨old, rfl, hmoved⟩
    · exact .same hsame rfl
    · exact .same hsame rfl
    · exact .same hsame rfl
    · exact .moved hmoved
  | release ids =>
    rcases release_cases h with ⟨reason, rfl, hsame⟩ | ⟨rfl, hreleased⟩
    · exact .same hsame rfl
    · exact .released hreleased
  | get id =>
    have hstore : (s.get id).2 = s' := congrArg Prod.snd h
    exact .same (hstore ▸ same_get s id) rfl
  | tally =>
    have hstore : s.tally.2 = s' := congrArg Prod.snd h
    exact .same (hstore ▸ same_tally s) rfl
  | failOperations n =>
    cases h
    exact .same ⟨rfl, rfl, rfl, rfl⟩ rfl
  | failUpdates n =>
    cases h
    exact .same ⟨rfl, rfl, rfl, rfl⟩ rfl

/-! ## Every message under its own identifier -/

theorem Does.keyed (h : Does s s' done) (hs : s.Keyed) : s'.Keyed := by
  cases h with
  | placed h => exact hs.put h.messages
  | moved h =>
    obtain ⟨m, rfl, -, hmessages⟩ := h.message
    exact hs.put hmessages
  | drawn h => exact hs.of_messages h.messages
  | released h => exact hs.of_messages h.messages
  | same h => exact hs.of_messages h.messages

theorem Performed.keyed (h : Performed s trace s') (hs : s.Keyed) : s'.Keyed := by
  induction h with
  | nil => exact hs
  | cons hdone _ ih => exact ih ((does_of_perform hs hdone).keyed hs)

/-- What every operation keeps holds after any number of them. -/
theorem Performed.invariant {I : Store → Prop} (h : Performed s trace s') (hs : s.Keyed)
    (first : I s) (step : ∀ {s s' done}, done ∈ trace → Does s s' done → I s → I s') : I s' := by
  induction h with
  | nil => exact first
  | cons hdone _ ih =>
    have hdoes := does_of_perform hs hdone
    refine ih (hdoes.keyed hs) (step List.mem_cons_self hdoes first) ?_
    exact fun hmem => step (List.mem_cons_of_mem _ hmem)

/-- What an operation did in the midst of others. -/
theorem Performed.within {before later : List Done}
    (h : Performed s (before ++ done :: later) s') (hs : s.Keyed) :
    ∃ s₁ s₂, Performed s before s₁ ∧ Does s₁ s₂ done ∧ s₂.Keyed ∧ Performed s₂ later s' := by
  obtain ⟨s₁, hbefore, hrest⟩ := h.split
  have hs₁ := hbefore.keyed hs
  cases hrest with
  | @cons _ s₂ _ _ _ _ hdone hlater =>
    have hdoes := does_of_perform hs₁ hdone
    exact ⟨s₁, s₂, hbefore, hdoes, hdoes.keyed hs₁, hlater⟩

end Does

end Outbox.Store
