import Outbox.Proofs.Store.Operation
/-!
# `Proofs.ExclusiveClaims` — no two callers get the same message

A fetch returns messages that are *open*: pending, and not claimed. By returning one it claims it,
and with that the message is no longer open. Two operations end claims. An update does so by a step,
which leaves the message in a status that is never fetched; a release opens the message again. A
message that is put in is pending, so it may be open even if another one had its identifier before.
Nothing else opens a message, whether the operation succeeds or fails.
-/

namespace Outbox.Store

/-- A message that a fetch could claim. -/
def IsOpen (s : Store) (id : MessageId) : Prop :=
  s.status? id = some .pending ∧ id ∉ s.claimed

/-- The identifiers that a release has let go, or that a message was put in under. -/
def Done.opened : Done → List MessageId
  | ⟨.insert id _ _, _⟩ => [id]
  | ⟨.release ids, answer⟩ =>
    match (answer : Except StoreFailure Unit) with
    | .ok () => ids
    | .error _ => []
  | _ => []

section Open

variable {s s' : Store} {done : Done} {trace : List Done} {id : MessageId}

/-- **Only a release or an insertion opens a message.** -/
theorem Does.was_open (h : Does s s' done) (hid : id ∉ done.opened) (hopen : s'.IsOpen id) :
    s.IsOpen id := by
  obtain ⟨hpending, hfree⟩ := hopen
  cases h with
  | @placed other draft now h =>
    have hne : (Message.ofDraft other draft now).id ≠ id :=
      fun heq => hid (heq ▸ List.mem_singleton_self _)
    rw [h.status?, if_neg hne] at hpending
    rw [h.claimed] at hfree
    exact ⟨hpending, hfree⟩
  | drawn h =>
    rw [h.status?] at hpending
    rw [h.claimed, List.mem_append, not_or] at hfree
    exact ⟨hpending, hfree.1⟩
  | @moved other old new now h =>
    rw [h.status?] at hpending
    split at hpending
    · -- no step leads back to the beginning
      have hlegal := h.legal
      rw [Option.some.inj hpending] at hlegal
      cases hlegal
    · next hne =>
      refine ⟨hpending, fun hclaimed => hfree ?_⟩
      exact h.mem_claimed.mpr ⟨hclaimed, Ne.symm hne⟩
  | released h =>
    rw [h.status?] at hpending
    exact ⟨hpending, fun hclaimed => hfree (h.mem_claimed.mpr ⟨hclaimed, hid⟩)⟩
  | same h =>
    rw [h.status?] at hpending
    rw [h.claimed] at hfree
    exact ⟨hpending, hfree⟩

theorem Performed.was_open (h : Performed s trace s') (hs : s.Keyed)
    (hid : ∀ done ∈ trace, id ∉ done.opened) (hopen : s'.IsOpen id) : s.IsOpen id := by
  by_contra hclosed
  -- a message that is not open stays so
  have hstep {s s' : Store} {done : Done} (hmem : done ∈ trace) (h : Does s s' done)
      (hclosed : ¬ s.IsOpen id) : ¬ s'.IsOpen id :=
    fun hopen => hclosed (h.was_open (hid done hmem) hopen)
  exact h.invariant (I := fun s => ¬ s.IsOpen id) hs hclosed hstep hopen

/-- A message that a fetch returns was open, and is not any more. -/
theorem Does.closes (h : Does s s' done) (hid : id ∈ done.fetched) :
    s.IsOpen id ∧ ¬ s'.IsOpen id := by
  cases h with
  | drawn h =>
    obtain ⟨-, hopen⟩ := mem_available.mp (h.was_available hid)
    refine ⟨hopen, fun hstill => hstill.2 ?_⟩
    rw [h.claimed]
    exact List.mem_append_right _ hid
  | same _ hfetched =>
    rw [hfetched] at hid
    cases hid
  | placed | moved | released => cases hid

theorem Does.nodup_fetched (h : Does s s' done) : done.fetched.Nodup := by
  cases h with
  | drawn h => exact h.nodup
  | same _ hfetched =>
    rw [hfetched]
    exact List.nodup_nil
  | placed | moved | released => exact List.nodup_nil

end Open

/-- **Claims are exclusive.** Whatever is done to an empty store, by whomever and in whatever order,
and even if identifiers are given out again: no batch holds a message twice, and between two fetches
that return the same message there was a release of it, or another message was put in under its
identifier. -/
theorem claims_exclusive {trace : List Done} {s : Store} (h : Performed .empty trace s) :
    (∀ done ∈ trace, done.fetched.Nodup) ∧
    ∀ {before between later : List Done} {first second : Done} {id : MessageId},
      trace = before ++ first :: (between ++ second :: later) →
      id ∈ first.fetched → id ∈ second.fetched → ∃ done ∈ between, id ∈ done.opened := by
  constructor
  · intro done hmem
    obtain ⟨before, later, rfl⟩ := List.append_of_mem hmem
    obtain ⟨_, _, -, hdoes, -, -⟩ := h.within keyed_empty
    exact hdoes.nodup_fetched
  · rintro before between later first second id rfl hfirst hsecond
    obtain ⟨_, s₁, -, hone, hs₁, hrest⟩ := h.within keyed_empty
    obtain ⟨s₂, _, hbetween, hother, -, -⟩ := hrest.within hs₁
    have hclosed : ¬ s₁.IsOpen id := (hone.closes hfirst).2
    have hopen : s₂.IsOpen id := (hother.closes hsecond).1
    by_contra hnone
    have hidle : ∀ done ∈ between, id ∉ done.opened :=
      fun done hmem hid => hnone ⟨done, hmem, hid⟩
    exact hclosed (hbetween.was_open hs₁ hidle hopen)

/-- A message is fetched and published; its identifier is given out again, and the message that was
put in under it is fetched as well. -/
def reuse : List Done :=
  let m := Message.ofDraft (.ofNat 1) default .epoch
  [⟨.insert (.ofNat 1) default .epoch, m⟩,
    ⟨.fetch 2, Except.ok [m]⟩,
    ⟨.update (.ofNat 1) .enqueued .epoch, Except.ok ⟨.ofNat 1, .pending, .enqueued⟩⟩,
    ⟨.insert (.ofNat 1) default .epoch, m⟩,
    ⟨.fetch 2, Except.ok [m]⟩]

theorem claims_exclusive_reuse : (∃ s, Performed .empty reuse s) ∧
    (∀ done ∈ reuse, done.fetched.Nodup) ∧
    ∃ done ∈ (reuse.drop 2).take 2, .ofNat 1 ∈ done.opened := by
  have h : Performed .empty reuse _ :=
    .cons rfl (.cons rfl (.cons rfl (.cons rfl (.cons rfl .nil))))
  obtain ⟨hnodup, hbetween⟩ := claims_exclusive h
  have hcut : reuse = reuse.take 1 ++ reuse[1] :: ((reuse.drop 2).take 2 ++ reuse[4] :: []) := rfl
  exact ⟨⟨_, h⟩, hnodup, hbetween hcut (by decide) (by decide)⟩

end Outbox.Store
