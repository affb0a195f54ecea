import Outbox.Proofs.Interplay.Doing
import Mathlib.Data.List.Perm.Subperm
/-!
# `Proofs.Interplay.Ownership` — whose a claimed message is

However the turns of the calls are interleaved, a message that a publisher holds is held in one
place only, in the hands of one call or among the outcomes that one publisher carries, and as long
as it is pending it is claimed. So no two calls ever work on the same message, and nobody fetches a
message that somebody holds.
-/

namespace Outbox.Interplay

/-- A place where messages are held: the hands of a call, or the carried outcomes of a publisher. -/
inductive Holder
  | call (t : TaskId)
  | publisher (p : PublisherId)
  deriving DecidableEq

/-- The messages that are held in a place. -/
def System.holding (s : System) : Holder → List MessageId
  | .call t => (s.handOf t).ids
  | .publisher p => (s.carriedOf p).map Outcome.id

section Holding

variable {s : System} {t : TaskId} {p : PublisherId} {holder : Holder} {outcome : Outcome}
  {id : MessageId}

theorem holds_of_unsent (h : id ∈ (s.handOf t).unsent) : id ∈ s.holding (.call t) :=
  Hand.mem_ids.mpr (.inl h)

theorem holds_of_outcome (h : (s.handOf t).outcome = some outcome) :
    outcome.id ∈ s.holding (.call t) :=
  Hand.mem_ids.mpr (.inr (.inl ⟨outcome, h, rfl⟩))

theorem holds_of_leaving (h : id ∈ (s.handOf t).leaving) : id ∈ s.holding (.call t) :=
  Hand.mem_ids.mpr (.inr (.inr h))

theorem holds_of_carried (h : outcome ∈ s.carriedOf p) : outcome.id ∈ s.holding (.publisher p) :=
  List.mem_map_of_mem h

/-- What a call or its publisher holds is among what both hold together. -/
theorem mem_pool (hpair : holder = .call t ∨ holder = .publisher p) (h : id ∈ s.holding holder) :
    id ∈ s.holding (.call t) ++ s.holding (.publisher p) := by
  rcases hpair with rfl | rfl
  · exact List.mem_append_left _ h
  · exact List.mem_append_right _ h

end Holding

/-- Every message is held once at most, and one that is held and pending is claimed. -/
structure Owned (s : System) : Prop where
  once : ∀ holder, (s.holding holder).Nodup
  alone : ∀ {holder other id}, id ∈ s.holding holder → id ∈ s.holding other → holder = other
  known : ∀ {holder id}, id ∈ s.holding holder → (s.store.status? id).isSome
  claimed : ∀ {holder id}, id ∈ s.holding holder → s.store.status? id = some .pending →
    id ∈ s.store.claimed

section Lists

variable {α : Type} {l l' : List α}

theorem nodup_of_subperm (h : l.Subperm l') (hnodup : l'.Nodup) : l.Nodup := by
  obtain ⟨l₁, hperm, hsub⟩ := h
  exact hperm.nodup_iff.mp (hnodup.sublist hsub)

end Lists

section Transfers

variable {s s' : System} {t : TaskId} {p : PublisherId}

theorem owned_initial : Owned .initial := by
  have hempty (holder : Holder) : System.initial.holding holder = [] := by
    cases holder <;> rfl
  refine ⟨?_, ?_, ?_, ?_⟩
  · intro holder
    rw [hempty]
    exact List.nodup_nil
  all_goals
    intros
    simp_all

/-- What a call and its publisher hold together is held once. -/
theorem Owned.nodup_pool (ho : Owned s) (t : TaskId) (p : PublisherId) :
    (s.holding (.call t) ++ s.holding (.publisher p)).Nodup := by
  refine List.nodup_append.mpr ⟨ho.once _, ho.once _, ?_⟩
  rintro id hcall _ hlist rfl
  have heq := ho.alone hcall hlist
  cases heq

/-- **A call passes messages on.** If a call and its publisher together hold no more messages than
before, and all others hold what they held, every message is still held once at most. -/
theorem Owned.of_transfer (ho : Owned s)
    (hothers : ∀ holder, holder ≠ .call t → holder ≠ .publisher p →
      s'.holding holder = s.holding holder)
    (hpool : (s'.holding (.call t) ++ s'.holding (.publisher p)).Subperm
      (s.holding (.call t) ++ s.holding (.publisher p)))
    (hknown : ∀ {id}, (s.store.status? id).isSome → (s'.store.status? id).isSome)
    (hpending : ∀ {id}, (s.store.status? id).isSome → s'.store.status? id = some .pending →
      s.store.status? id = some .pending)
    (hclaimed : ∀ {holder id}, id ∈ s'.holding holder → id ∈ s.store.claimed →
      s'.store.status? id = some .pending → id ∈ s'.store.claimed) : Owned s' := by
  -- whoever holds a message now held it before, or got it from the call or its publisher
  have hbefore {holder : Holder} {id : MessageId} (h : id ∈ s'.holding holder) :
      ∃ other, id ∈ s.holding other ∧ (other = holder ∨
        ((holder = .call t ∨ holder = .publisher p) ∧ (other = .call t ∨ other = .publisher p))) := by
    by_cases hpair : holder = .call t ∨ holder = .publisher p
    · rcases List.mem_append.mp (hpool.subset (mem_pool hpair h)) with hmem | hmem
      · exact ⟨_, hmem, .inr ⟨hpair, .inl rfl⟩⟩
      · exact ⟨_, hmem, .inr ⟨hpair, .inr rfl⟩⟩
    · rw [not_or] at hpair
      exact ⟨holder, hothers holder hpair.1 hpair.2 ▸ h, .inl rfl⟩
  have hnodup := nodup_of_subperm hpool (ho.nodup_pool t p)
  obtain ⟨hcall, hlist, hdisjoint⟩ := List.nodup_append.mp hnodup
  refine ⟨?_, ?_, ?_, ?_⟩
  · intro holder
    by_cases hc : holder = .call t
    · exact hc ▸ hcall
    · by_cases hl : holder = .publisher p
      · exact hl ▸ hlist
      · rw [hothers holder hc hl]
        exact ho.once holder
  · -- two holders of a message have it from one place, and the call and its publisher share none
    intro holder other id h hother
    obtain ⟨g, hg, hgh⟩ := hbefore h
    obtain ⟨g', hg', hgo⟩ := hbefore hother
    obtain rfl := ho.alone hg hg'
    have hpair : holder = other ∨ ((holder = .call t ∨ holder = .publisher p) ∧
        (other = .call t ∨ other = .publisher p)) := by
      rcases hgh with rfl | ⟨hholder, hg⟩ <;> rcases hgo with rfl | ⟨hother, hg'⟩
      · exact .inl rfl
      · exact .inr ⟨hg', hother⟩
      · exact .inr ⟨hholder, hg⟩
      · exact .inr ⟨hholder, hother⟩
    rcases hpair with rfl | ⟨rfl | rfl, rfl | rfl⟩
    · rfl
    · rfl
    · exact absurd rfl (hdisjoint id h id hother)
    · exact absurd rfl (hdisjoint id hother id h)
    · rfl
  · intro holder id h
    obtain ⟨g, hg, -⟩ := hbefore h
    exact hknown (ho.known hg)
  · intro holder id h hstatus
    obtain ⟨g, hg, -⟩ := hbefore h
    exact hclaimed h (ho.claimed hg (hpending (ho.known hg) hstatus)) hstatus

/-- **A call takes new messages.** They were held by nobody, since those that are held are claimed.
-/
theorem Owned.of_fetch (ho : Owned s) (hs : s.store.Sound) {limit : Nat} {batch : List Message}
    (hfetched : s.store.Fetched limit batch s'.store)
    (hothers : ∀ holder, holder ≠ .call t → s'.holding holder = s.holding holder)
    (hcall : s'.holding (.call t) = batch.map Message.id) : Owned s' := by
  have hnew {holder : Holder} {id : MessageId} (h : id ∈ s.holding holder) :
      id ∉ batch.map Message.id := by
    intro hmem
    obtain ⟨hstatus, hunclaimed⟩ := hfetched.was_available hmem
    exact hunclaimed (ho.claimed h hstatus)
  have hcases {holder : Holder} {id : MessageId} (h : id ∈ s'.holding holder) :
      (holder = .call t ∧ id ∈ batch.map Message.id) ∨
        (holder ≠ .call t ∧ id ∈ s.holding holder) := by
    by_cases hc : holder = .call t
    · subst hc
      exact .inl ⟨rfl, hcall ▸ h⟩
    · exact .inr ⟨hc, hothers holder hc ▸ h⟩
  refine ⟨?_, ?_, ?_, ?_⟩
  · intro holder
    by_cases hc : holder = .call t
    · rw [hc, hcall]
      exact hfetched.nodup hs
    · rw [hothers holder hc]
      exact ho.once holder
  · intro holder other id h hother
    rcases hcases h with ⟨rfl, hid⟩ | ⟨-, hid⟩ <;>
      rcases hcases hother with ⟨rfl, hid'⟩ | ⟨-, hid'⟩
    · rfl
    · exact absurd hid (hnew hid')
    · exact absurd hid' (hnew hid)
    · exact ho.alone hid hid'
  · intro holder id h
    rw [hfetched.status?]
    rcases hcases h with ⟨-, hid⟩ | ⟨-, hid⟩
    · rw [(hfetched.was_available hid).1]
      rfl
    · exact ho.known hid
  · intro holder id h hstatus
    rw [hfetched.status?] at hstatus
    rw [hfetched.mem_claimed]
    rcases hcases h with ⟨-, hid⟩ | ⟨-, hid⟩
    · exact .inr hid
    · exact .inl (ho.claimed hid hstatus)

end Transfers

/-! ## Deeds pass messages on -/

section Deeds

variable {s s' : Store} {accepted : Option MessageId} {unreleased : List MessageId}
  {stopping : Bool} {carried carried' : List Outcome} {hand hand' : Hand}

/-- A deed claims new messages, or the publisher and the call hold no more together than before. -/
theorem Deed.pool (h : Deed s s' accepted unreleased stopping carried hand carried' hand') :
    (∃ limit batch, s.Fetched limit batch s' ∧ hand.ids = [] ∧
      hand'.ids = batch.map Message.id ∧ carried' = carried) ∨
    (hand'.ids ++ carried'.map Outcome.id).Subperm (hand.ids ++ carried.map Outcome.id) := by
  cases h with
  | fetches hfetched =>
    left
    exact ⟨_, _, hfetched, rfl, by simp [Hand.ids], rfl⟩
  | rests | moves => exact .inr (.refl _)
  | @sends id rest outcome hid =>
    right
    refine List.Perm.subperm ?_
    simp only [Hand.ids, Option.map_some, Option.toList_some, Option.map_none, Option.toList_none,
      List.append_nil, hid]
    exact (List.perm_append_singleton id rest).append_right _
  | settles _ _ hsplit =>
    right
    refine List.Sublist.subperm ?_
    rcases hsplit with ⟨rfl, rfl⟩ | ⟨rfl, rfl⟩ <;> simp [Hand.ids]
  | @keeps outcome rest =>
    right
    refine List.Perm.subperm ?_
    simp only [Hand.ids, Option.map_some, Option.toList_some, Option.map_none, Option.toList_none,
      List.append_nil, List.nil_append, List.map_append, List.map_cons, List.map_nil,
      List.append_assoc]
    exact List.perm_append_comm.append_left rest
  | recovers hhead =>
    right
    refine List.Sublist.subperm ?_
    exact (List.tail_sublist _).map _
  | @withdraws outcome hhead =>
    right
    obtain ⟨later, rfl⟩ : ∃ later, carried = outcome :: later := by
      cases carried with
      | nil => cases hhead
      | cons first later =>
        cases hhead
        exact ⟨later, rfl⟩
    exact .refl _
  | @releases ids | @strands ids =>
    right
    exact (List.sublist_append_right ids _).subperm
  | abandons =>
    right
    exact (List.Perm.of_eq (List.append_nil _)).subperm

/-- What a deed does to the store. -/
theorem Deed.store_cases (h : Deed s s' accepted unreleased stopping carried hand carried' hand') :
    s.Same s' ∨ (∃ limit batch, s.Fetched limit batch s') ∨ (∃ id old new, s.Moved id old new s') ∨
      (s.Released hand.ids s' ∧ hand'.ids = [] ∧ carried' = carried) := by
  cases h with
  | rests hsame | settles _ hsame | keeps hsame | recovers _ _ hsame | withdraws _ _ hsame
  | strands hsame | abandons _ hsame => exact .inl hsame
  | sends _ _ hsame => exact .inl hsame
  | fetches hfetched => exact .inr (.inl ⟨_, _, hfetched⟩)
  | moves _ hmoved => exact .inr (.inr (.inl ⟨_, _, _, hmoved⟩))
  | releases hreleased => exact .inr (.inr (.inr ⟨hreleased, rfl, rfl⟩))

/-- A legal step leads away from the pending messages, and all other messages stay what they are. -/
theorem pending_of_moved {id other : MessageId} {old new : Status} (h : s.Moved id old new s')
    (hpending : s'.status? other = some .pending) :
    s.status? other = some .pending ∧ other ≠ id := by
  rw [h.status?] at hpending
  split at hpending
  · next hid =>
    have hlegal := h.legal
    rw [Option.some.inj hpending] at hlegal
    cases hlegal
  · next hid => exact ⟨hpending, Ne.symm hid⟩

theorem known_of_moved {id other : MessageId} {old new : Status} (h : s.Moved id old new s')
    (hknown : (s.status? other).isSome) : (s'.status? other).isSome := by
  rw [h.status?]
  split
  · rfl
  · exact hknown

/-- A deed forgets no message. -/
theorem Deed.known (h : Deed s s' accepted unreleased stopping carried hand carried' hand')
    {id : MessageId} (hknown : (s.status? id).isSome) : (s'.status? id).isSome := by
  rcases h.store_cases with hsame | ⟨_, _, hfetched⟩ | ⟨_, _, _, hmoved⟩ | ⟨hreleased, -, -⟩
  · rwa [hsame.status?]
  · rwa [hfetched.status?]
  · exact known_of_moved hmoved hknown
  · rwa [hreleased.status?]

/-- A deed makes no message pending. -/
theorem Deed.was_pending (h : Deed s s' accepted unreleased stopping carried hand carried' hand')
    {id : MessageId} (hpending : s'.status? id = some .pending) : s.status? id = some .pending := by
  rcases h.store_cases with hsame | ⟨_, _, hfetched⟩ | ⟨_, _, _, hmoved⟩ | ⟨hreleased, -, -⟩
  · rwa [← hsame.status?]
  · rwa [← hfetched.status?]
  · exact (pending_of_moved hmoved hpending).1
  · rwa [← hreleased.status?]

/-- A deed ends the claim on a pending message only if the call that does it had the message in hand
and then lets go of all that it had. -/
theorem Deed.still_claimed (h : Deed s s' accepted unreleased stopping carried hand carried' hand')
    {id : MessageId} (hclaimed : id ∈ s.claimed) (hpending : s'.status? id = some .pending) :
    id ∈ s'.claimed ∨ (id ∈ hand.ids ∧ hand'.ids = [] ∧ carried' = carried) := by
  rcases h.store_cases with hsame | ⟨_, _, hfetched⟩ | ⟨_, _, _, hmoved⟩ |
    ⟨hreleased, hempty, hkept⟩
  · left
    rw [hsame.claimed]
    exact hclaimed
  · left
    exact hfetched.mem_claimed.mpr (.inl hclaimed)
  · left
    exact hmoved.mem_claimed.mpr ⟨hclaimed, (pending_of_moved hmoved hpending).2⟩
  · by_cases hid : id ∈ hand.ids
    · exact .inr ⟨hid, hempty, hkept⟩
    · exact .inl (hreleased.mem_claimed.mpr ⟨hclaimed, hid⟩)

end Deeds

/-! ## Ownership is kept -/

section Owned

variable {s s' : System} {e : Event} {trace : List Moment}

/-- What is held where neither hands nor carried outcomes change. -/
theorem holding_of_same (hands : ∀ t, s'.handOf t = s.handOf t)
    (hcarried : ∀ p, s'.carriedOf p = s.carriedOf p) (holder : Holder) :
    s'.holding holder = s.holding holder := by
  cases holder with
  | call t => rw [System.holding, hands, System.holding]
  | publisher p => rw [System.holding, hcarried, System.holding]

/-- What the others hold when a call of a publisher takes its turn. -/
theorem holding_of_others {t : TaskId} {p : PublisherId}
    (hands : ∀ u, u ≠ t → s'.handOf u = s.handOf u)
    (hcarried : ∀ q, q ≠ p → s'.carriedOf q = s.carriedOf q) (holder : Holder)
    (hc : holder ≠ .call t) (hp : holder ≠ .publisher p) :
    s'.holding holder = s.holding holder := by
  cases holder with
  | call u => rw [System.holding, hands u (fun h => hc (h ▸ rfl)), System.holding]
  | publisher q => rw [System.holding, hcarried q (fun h => hp (h ▸ rfl)), System.holding]

/-- When a call has let go of all that it had in hand, and nothing else has changed hands, whoever
holds a message is another one, and held it before. -/
theorem holding_of_emptied {t : TaskId} {p : PublisherId} {holder : Holder} {id : MessageId}
    (hothers : ∀ holder, holder ≠ .call t → holder ≠ .publisher p →
      s'.holding holder = s.holding holder)
    (hempty : (s'.handOf t).ids = []) (hkept : s'.carriedOf p = s.carriedOf p)
    (h : id ∈ s'.holding holder) : holder ≠ .call t ∧ id ∈ s.holding holder := by
  have hne : holder ≠ .call t := by
    rintro rfl
    rw [System.holding, hempty] at h
    cases h
  refine ⟨hne, ?_⟩
  by_cases hp : holder = .publisher p
  · subst hp
    rw [System.holding, hkept] at h
    exact h
  · rwa [hothers holder hne hp] at h

/-- Nobody passes anything on. -/
theorem Owned.of_same (ho : Owned s) (hholding : ∀ holder, s'.holding holder = s.holding holder)
    (hknown : ∀ {id}, (s.store.status? id).isSome → (s'.store.status? id).isSome)
    (hpending : ∀ {id}, (s.store.status? id).isSome → s'.store.status? id = some .pending →
      s.store.status? id = some .pending)
    (hclaimed : ∀ {id}, id ∈ s.store.claimed → s'.store.status? id = some .pending →
      id ∈ s'.store.claimed) : Owned s' := by
  refine ho.of_transfer (t := 0) (p := 0) (fun holder _ _ => hholding holder) ?_ hknown hpending ?_
  · rw [hholding, hholding]
  · exact fun _ => hclaimed

theorem Owned.step (ho : Owned s) (hs : s.store.Sound) (h : Doing s s' e) : Owned s' := by
  cases h with
  | aside hands hcarried hstore =>
    have hholding := holding_of_same hands hcarried
    rcases hstore with hsame | ⟨m, hinserted⟩
    · refine ho.of_same hholding ?_ ?_ ?_
      · intro id h
        rwa [hsame.status?]
      · intro id _ h
        rwa [← hsame.status?]
      · intro id h _
        rw [hsame.claimed]
        exact h
    · refine ho.of_same hholding ?_ ?_ ?_
      · intro id h
        rw [hinserted.status?]
        split
        · rfl
        · exact h
      · intro id hknown h
        rw [hinserted.status?] at h
        split at h
        · next hid =>
          subst hid
          rw [hinserted.fresh] at hknown
          cases hknown
        · exact h
      · intro id h _
        rw [hinserted.claimed]
        exact h
  | records _ _ _ hmoved hands hcarried =>
    have hholding := holding_of_same hands hcarried
    refine ho.of_same hholding (known_of_moved hmoved) ?_ ?_
    · exact fun _ h => (pending_of_moved hmoved h).1
    · exact fun h hpending => hmoved.mem_claimed.mpr ⟨h, (pending_of_moved hmoved hpending).2⟩
  | @publishes t p call _ _ _ _ _ hands hcarried hdeed =>
    have hothers := holding_of_others hands hcarried
    rcases hdeed.pool with ⟨limit, batch, hfetched, -, hids, hkept⟩ | hpool
    · refine ho.of_fetch hs hfetched (fun holder hc => ?_) hids
      by_cases hp : holder = .publisher p
      · subst hp
        rw [System.holding, hkept, System.holding]
      · exact hothers holder hc hp
    · refine ho.of_transfer hothers hpool hdeed.known (fun _ => hdeed.was_pending) ?_
      intro holder id hid hclaimed hpending
      refine (hdeed.still_claimed hclaimed hpending).resolve_right ?_
      -- the call lets go of all that it had in hand, so nobody else holds the message
      rintro ⟨hhand, hempty, hkept⟩
      have hcall : id ∈ s.holding (.call t) := hhand
      obtain ⟨hne, hbefore⟩ := holding_of_emptied hothers hempty hkept hid
      exact hne (ho.alone hbefore hcall)

/-- **Whose a claimed message is.** In every state of a run, every message is held in one place at
most, and one that is held and pending is claimed. -/
theorem Run.owned (run : Run .initial trace s) : Owned s := by
  induction run with
  | nil => exact owned_initial
  | snoc run h ih => exact ih.step run.sound (run.doing h)

end Owned

end Outbox.Interplay
