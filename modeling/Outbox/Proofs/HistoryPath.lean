import Outbox.Proofs.Interplay.Ledger
/-!
# `Proofs.HistoryPath` — the history of a message

A recording moves the status first and writes the entry later, and between the two another call may
record the next step of the same message and write its entry. So what the history says of a message
are the steps that it has made, each once, but not always in the order in which it made them: the
entry for its delivery may come before the entry for its publication. The entries form a path of the
life of a message exactly when that has not happened.
-/

namespace Outbox

namespace Interplay

/-- No entry was lost, since every entry could be added to the history. -/
def EntriesKept (trace : List Moment) : Prop :=
  ∀ moment ∈ trace, moment.event.failsAppend = false

instance (trace : List Moment) : Decidable (EntriesKept trace) :=
  inferInstanceAs (Decidable (∀ _ ∈ trace, _))

/-! ## Every step is written or has yet to be -/

/-- The history says what the store says, but for the entries that the calls have yet to write. -/
structure Accounted (s : System) : Prop where
  /-- An entry to be written is for a step that was made. -/
  due_passed : ∀ {t entry}, s.dueOf t = some entry → entry.status ∈ s.passed entry.messageId
  /-- An entry to be written is not there yet. -/
  due_missing : ∀ {t entry}, s.dueOf t = some entry →
    entry.status ∉ s.recorded entry.messageId
  /-- No two tasks are to write the entry for one step. -/
  due_once : ∀ {t u entry other}, s.dueOf t = some entry → s.dueOf u = some other →
    entry.messageId = other.messageId → entry.status = other.status → t = u
  /-- An entry is for a step that was made. -/
  recorded_passed : ∀ {id status}, status ∈ s.recorded id → status ∈ s.passed id
  /-- No step has two entries. -/
  recorded_once : ∀ id, (s.recorded id).Nodup
  /-- A step that was made has its entry, or some task is to write it. -/
  passed_recorded : ∀ {id status}, status ∈ s.passed id → status ∈ s.recorded id ∨
    ∃ t entry, s.dueOf t = some entry ∧ entry.messageId = id ∧ entry.status = status

section Accounted

variable {trace : List Moment} {s : System}

theorem givenUpAfter_of_kept (past : List Moment) (kept : EntriesKept trace) :
    givenUpAfter past trace = [] := by
  induction trace generalizing past with
  | nil => rfl
  | cons moment later ih =>
    have hfails := kept moment List.mem_cons_self
    have hrefused : moment.event.refused? = none := by
      rw [Option.eq_none_iff_forall_ne_some]
      intro entry h
      cases hevent : moment.event with
      | turn =>
        rw [hevent] at h hfails
        exact absurd (Request.failsAppend_of_refused h) (Bool.eq_false_iff.mp hfails)
      | outside | start =>
        rw [hevent] at h
        cases h
    rw [givenUpAfter, Moment.givesUp?, hrefused]
    exact ih _ fun moment hmem => kept moment (List.mem_cons_of_mem _ hmem)

/-- If no entry is lost, every entry is in the history or due. -/
theorem Run.accounted (run : Run .initial trace s) (kept : EntriesKept trace) : Accounted s := by
  have hs := run.ledger
  have hnodup := run.nodup_calls
  have hperm (id : MessageId) : (s.passed id).Perm (s.recorded id ++ statusesOf id s.due) := by
    have h := hs.passed_perm id
    rw [givenUp, givenUpAfter_of_kept [] kept] at h
    exact h.trans (List.append_nil _ ▸ .refl _)
  have hparts (id : MessageId) := List.nodup_append.mp ((hperm id).nodup_iff.mp (nodup_passed s id))
  have hdue {t : TaskId} {entry : HistoryEntry} (h : s.dueOf t = some entry) :
      entry.status ∈ statusesOf entry.messageId s.due :=
    mem_statusesOf.mpr ⟨entry, (mem_due hnodup).mpr ⟨t, h⟩, rfl, rfl⟩
  refine ⟨?_, ?_, ?_, ?_, fun id => (hparts id).1, ?_⟩
  · intro t entry h
    exact (hperm _).mem_iff.mpr (List.mem_append_right _ (hdue h))
  · intro t entry h hmem
    exact (hparts _).2.2 _ hmem _ (hdue h) rfl
  · intro t u entry other ht hu hid hstatus
    have hsame : entry = other := by
      refine eq_of_statusesOf (hparts _).2.1 ?_ ?_ hid hstatus
      · exact (mem_due hnodup).mpr ⟨t, ht⟩
      · exact (mem_due hnodup).mpr ⟨u, hu⟩
    exact eq_of_dueOf hnodup hs.nodup_due ht (hsame ▸ hu)
  · intro id status h
    exact (hperm id).mem_iff.mpr (List.mem_append_left _ h)
  · intro id status h
    rcases List.mem_append.mp ((hperm id).mem_iff.mp h) with h | h
    · exact .inl h
    · obtain ⟨entry, hentry, hid, hstatus⟩ := mem_statusesOf.mp h
      obtain ⟨t, ht⟩ := (mem_due hnodup).mp hentry
      exact .inr ⟨t, entry, ht, hid, hstatus⟩

end Accounted

/-! ## Entries that come too early -/

/-- A call writes the entry for what became of a message while another call has yet to write the one
for its publication. -/
def Moment.Overtakes (moment : Moment) (id : MessageId) : Prop :=
  ∃ entry, moment.event.appended? = some entry ∧ entry.messageId = id ∧
    (entry.status = .delivered ∨ entry.status = .deliveredFailed) ∧
    ∃ t earlier, moment.before.dueOf t = some earlier ∧ earlier.messageId = id ∧
      earlier.status = .enqueued

/-- At some moment the entry for what became of a message overtook the one for its publication. -/
def Overtaken (trace : List Moment) (id : MessageId) : Prop :=
  ∃ moment ∈ trace, moment.Overtakes id

theorem overtaken_snoc {trace : List Moment} {moment : Moment} {id : MessageId} :
    Overtaken (trace ++ [moment]) id ↔ Overtaken trace id ∨ moment.Overtakes id :=
  exists_mem_snoc

theorem nil_or_singleton {α : Type} {l : List α} {a : α} (hnodup : l.Nodup)
    (hmem : ∀ x ∈ l, x = a) : l = [] ∨ l = [a] := by
  cases l with
  | nil => exact .inl rfl
  | cons x rest =>
    obtain rfl : x = a := hmem x List.mem_cons_self
    cases rest with
    | nil => exact .inr rfl
    | cons y rest =>
      obtain rfl : y = x := hmem y (by simp)
      simp at hnodup

/-- The statuses that are recorded of a message when the entry for another one is about to be
written. -/
theorem Accounted.recorded_before {s : System} (hs : Accounted s) {t : TaskId}
    {entry : HistoryEntry} (hdue : s.dueOf t = some entry) :
    (entry.status = .notEnqueued ∧ s.recorded entry.messageId = []) ∨
    (entry.status = .enqueued ∧ (s.recorded entry.messageId = [] ∨
      s.recorded entry.messageId = [.delivered] ∨
      s.recorded entry.messageId = [.deliveredFailed])) ∨
    ((entry.status = .delivered ∨ entry.status = .deliveredFailed) ∧
      .enqueued ∈ s.passed entry.messageId ∧
      (s.recorded entry.messageId = [] ∨ s.recorded entry.messageId = [.enqueued])) := by
  have hpassed := hs.due_passed hdue
  have hmissing := hs.due_missing hdue
  have hnodup := hs.recorded_once entry.messageId
  have hsub : ∀ status ∈ s.recorded entry.messageId, status ∈ s.passed entry.messageId :=
    fun status h => hs.recorded_passed h
  -- what is recorded is part of a life of at most two statuses, and does not hold the one to come
  have hrest (other : Status) (hlife : ∀ status ∈ s.passed entry.messageId,
      status = entry.status ∨ status = other) :
      s.recorded entry.messageId = [] ∨ s.recorded entry.messageId = [other] := by
    refine nil_or_singleton hnodup fun status h => ?_
    refine (hlife status (hsub status h)).resolve_left ?_
    rintro rfl
    exact hmissing h
  rw [System.passed] at hpassed hrest ⊢
  cases hstatus : s.store.status? entry.messageId with
  | none =>
    rw [hstatus] at hpassed
    cases hpassed
  | some status =>
    rw [hstatus] at hpassed hrest
    cases status with
    | pending => cases hpassed
    | enqueued =>
      have htarget : entry.status = .enqueued := by simpa [Status.life] using hpassed
      have hnone := hrest .enqueued (by simp [Status.life])
      rw [htarget] at hmissing
      refine .inr (.inl ⟨htarget, .inl (hnone.resolve_right ?_)⟩)
      intro h
      exact hmissing (h ▸ List.mem_singleton_self _)
    | notEnqueued =>
      have htarget : entry.status = .notEnqueued := by simpa [Status.life] using hpassed
      have hnone := hrest .notEnqueued (by simp [Status.life])
      rw [htarget] at hmissing
      refine .inl ⟨htarget, hnone.resolve_right ?_⟩
      intro h
      exact hmissing (h ▸ List.mem_singleton_self _)
    | delivered =>
      have htarget : entry.status = .enqueued ∨ entry.status = .delivered := by
        simpa [Status.life] using hpassed
      rcases htarget with htarget | htarget
      · have hshape := hrest .delivered (by simp [Status.life, htarget])
        exact .inr (.inl ⟨htarget, hshape.imp_right .inl⟩)
      · have hshape := hrest .enqueued (by simp [Status.life, htarget])
        exact .inr (.inr ⟨.inl htarget, by simp [Status.life], hshape⟩)
    | deliveredFailed =>
      have htarget : entry.status = .enqueued ∨ entry.status = .deliveredFailed := by
        simpa [Status.life] using hpassed
      rcases htarget with htarget | htarget
      · have hshape := hrest .deliveredFailed (by simp [Status.life, htarget])
        exact .inr (.inl ⟨htarget, hshape.imp_right .inr⟩)
      · have hshape := hrest .enqueued (by simp [Status.life, htarget])
        exact .inr (.inr ⟨.inr htarget, by simp [Status.life], hshape⟩)

/-- What the history says of a message when an entry has overtaken another. -/
def OutOfOrder (statuses : List Status) : Prop :=
  statuses = [.delivered] ∨ statuses = [.delivered, .enqueued] ∨
    statuses = [.deliveredFailed] ∨ statuses = [.deliveredFailed, .enqueued]

/-- A task writes its entry: the history of the message stays in order, unless the entry overtakes
another one now. -/
theorem Accounted.order {s s' : System} {e : Event} {t : TaskId} {entry : HistoryEntry}
    {overtaken : Prop} (hs : Accounted s) (hdue : s.dueOf t = some entry)
    (happended : e.appended? = some entry)
    (hrecorded : s'.recorded entry.messageId = s.recorded entry.messageId ++ [entry.status])
    (ih : (¬ overtaken ∧ Status.Path .pending (s.recorded entry.messageId)) ∨
      (overtaken ∧ OutOfOrder (s.recorded entry.messageId))) :
    (¬ (overtaken ∨ Moment.Overtakes ⟨s, e⟩ entry.messageId) ∧
        Status.Path .pending (s'.recorded entry.messageId)) ∨
      ((overtaken ∨ Moment.Overtakes ⟨s, e⟩ entry.messageId) ∧
        OutOfOrder (s'.recorded entry.messageId)) := by
  -- an entry that is not for what became of the message overtakes nothing
  have hharmless (h : entry.status = .enqueued ∨ entry.status = .notEnqueued) :
      ¬ Moment.Overtakes ⟨s, e⟩ entry.messageId := by
    rintro ⟨other, hother, -, hstatus, -⟩
    obtain rfl : entry = other := Option.some.inj (happended.symm.trans hother)
    rcases h with h | h <;> rw [h] at hstatus <;> simp at hstatus
  have hempty (h : s.recorded entry.messageId = []) : ¬ overtaken := by
    intro hov
    rcases ih with ⟨hnot, -⟩ | ⟨-, horder⟩
    · exact hnot hov
    · rw [h] at horder
      simp [OutOfOrder] at horder
  rw [hrecorded]
  rcases hs.recorded_before hdue with ⟨hstatus, hnone⟩ | ⟨hstatus, hshape⟩ |
    ⟨hstatus, hpassed, hshape⟩
  · left
    rw [hnone, hstatus]
    exact ⟨not_or.mpr ⟨hempty hnone, hharmless (.inr hstatus)⟩, by decide⟩
  · rcases hshape with hnone | hshape
    · left
      rw [hnone, hstatus]
      exact ⟨not_or.mpr ⟨hempty hnone, hharmless (.inl hstatus)⟩, by decide⟩
    · right
      rw [hstatus]
      rcases ih with ⟨-, hpath⟩ | ⟨hov, -⟩
      · rcases hshape with h | h <;> rw [h] at hpath <;> exact absurd hpath (by decide)
      · refine ⟨.inl hov, ?_⟩
        rcases hshape with h | h <;> rw [h] <;> simp [OutOfOrder]
  · rcases hshape with hnone | hone
    · right
      rcases hs.passed_recorded hpassed with h | ⟨u, earlier, hu, hid, hearlier⟩
      · rw [hnone] at h
        cases h
      · refine ⟨.inr ⟨entry, happended, rfl, hstatus, u, earlier, hu, hid, hearlier⟩, ?_⟩
        rw [hnone]
        rcases hstatus with h | h <;> rw [h] <;> simp [OutOfOrder]
    · left
      have hnot : ¬ Moment.Overtakes ⟨s, e⟩ entry.messageId := by
        rintro ⟨-, -, -, -, u, earlier, hu, hid, hearlier⟩
        have hmissing := hs.due_missing hu
        rw [hid, hone, hearlier] at hmissing
        exact hmissing (List.mem_singleton_self _)
      have hbefore : ¬ overtaken := by
        intro hov
        rcases ih with ⟨h, -⟩ | ⟨-, horder⟩
        · exact h hov
        · rw [hone] at horder
          simp [OutOfOrder] at horder
      refine ⟨not_or.mpr ⟨hbefore, hnot⟩, ?_⟩
      rw [hone]
      rcases hstatus with h | h <;> rw [h] <;> decide

theorem Run.order {trace : List Moment} {s : System} (run : Run .initial trace s)
    (kept : EntriesKept trace) (id : MessageId) :
    (¬ Overtaken trace id ∧ Status.Path .pending (s.recorded id)) ∨
      (Overtaken trace id ∧ OutOfOrder (s.recorded id)) := by
  induction run with
  | nil =>
    left
    refine ⟨?_, trivial⟩
    rintro ⟨moment, hmem, -⟩
    cases hmem
  | @snoc trace s s' e run h ih =>
    obtain ⟨hkept, -⟩ := forall_mem_snoc.mp kept
    have hs := run.accounted hkept
    replace ih := ih hkept
    obtain ⟨t, -, hwritten⟩ := h.written run.sound
    rw [overtaken_snoc]
    -- as long as no entry of the message is written, its history stays as it is
    have hidle (hrecorded : s'.recorded id = s.recorded id)
        (happended : ∀ entry, e.appended? = some entry → entry.messageId ≠ id) :
        (¬ (Overtaken trace id ∨ Moment.Overtakes ⟨s, e⟩ id) ∧
            Status.Path .pending (s'.recorded id)) ∨
          ((Overtaken trace id ∨ Moment.Overtakes ⟨s, e⟩ id) ∧ OutOfOrder (s'.recorded id)) := by
      have hnot : ¬ Moment.Overtakes ⟨s, e⟩ id := by
        rintro ⟨entry, hentry, hid, -⟩
        exact happended entry hentry hid
      rw [hrecorded]
      exact ih.imp (fun h => ⟨not_or.mpr ⟨h.1, hnot⟩, h.2⟩) fun h => ⟨.inl h.1, h.2⟩
    generalize hbefore : s.dueOf t = before at hwritten
    generalize s'.dueOf t = after at hwritten
    cases hwritten with
    | nothing _ hhistory happended | status _ hhistory happended | lost _ hhistory happended =>
      refine hidle (recorded_of_history hhistory id) fun entry hentry => ?_
      rw [happended] at hentry
      cases hentry
    | @entry entry _ hhistory happended =>
      have hrecorded := recorded_append hhistory
      by_cases hid : entry.messageId = id
      · subst hid
        refine hs.order hbefore happended ?_ ih
        rw [hrecorded, if_pos rfl]
      · refine hidle ?_ fun other hother => ?_
        · rw [hrecorded, if_neg hid, List.append_nil]
        · rw [happended] at hother
          cases hother
          exact hid

/-- The paths that begin with a pending message. -/
theorem path_pending_iff {statuses : List Status} : Status.Path .pending statuses ↔
    statuses = [] ∨ statuses = [.enqueued] ∨ statuses = [.notEnqueued] ∨
      statuses = [.enqueued, .delivered] ∨ statuses = [.enqueued, .deliveredFailed] := by
  refine ⟨fun h => ?_, ?_⟩
  · match statuses, h with
    | [], _ => exact .inl rfl
    | [first], ⟨hfirst, _⟩ => cases hfirst <;> simp
    | [first, second], ⟨hfirst, hsecond, _⟩ => cases hfirst <;> cases hsecond <;> simp
    | first :: second :: third :: rest, ⟨hfirst, hsecond, hthird, _⟩ =>
      cases hfirst <;> cases hsecond <;> cases hthird
  · rintro (rfl | rfl | rfl | rfl | rfl) <;> decide

/-- **The history of a message is a path unless an entry was overtaken.** In every run in which no
entry is lost, and for every message: as long as no entry for what became of the message was written
while another call had yet to write the entry for its publication, the statuses of its entries are a
path of its life. Once that has happened they are not, and the entry for the publication comes
second or is still missing. -/
theorem history_in_order_iff {trace : List Moment} {s : System} (run : Run .initial trace s)
    (kept : EntriesKept trace) (id : MessageId) :
    (¬ Overtaken trace id ↔ Status.Path .pending (s.recorded id)) ∧
    (Overtaken trace id ↔ OutOfOrder (s.recorded id)) := by
  have hdisjoint : OutOfOrder (s.recorded id) → ¬ Status.Path .pending (s.recorded id) := by
    rintro (h | h | h | h) <;> rw [h] <;> decide
  rcases run.order kept id with ⟨hnot, hpath⟩ | ⟨hov, horder⟩
  · refine ⟨⟨fun _ => hpath, fun _ => hnot⟩, ⟨fun hov => absurd hov hnot, fun horder => ?_⟩⟩
    exact absurd hpath (hdisjoint horder)
  · refine ⟨⟨fun hnot => absurd hov hnot, fun hpath => ?_⟩, ⟨fun _ => horder, fun _ => hov⟩⟩
    exact absurd hpath (hdisjoint horder)

/-- A publisher records that a message was enqueued, and a consumer that it was delivered, one after
the other. -/
def orderlyMoves : List Move :=
  [.outside (.insert (.ofNat 1) default .epoch),
    .start 0 .default (.record ⟨.ofNat 1, .enqueued, none⟩),
    .turn 0 (.served .epoch default) false,
    .turn 0 (.served .epoch default) false,
    .start 1 .default (.record ⟨.ofNat 1, .delivered, none⟩),
    .turn 1 (.served .epoch default) false,
    .turn 1 (.served .epoch default) false]

theorem history_in_order_iff_orderlyMoves : ∃ trace s, Run .initial trace s ∧
    EntriesKept trace ∧ s.recorded (.ofNat 1) = [.enqueued, .delivered] ∧
    (¬ Overtaken trace (.ofNat 1) ↔ Status.Path .pending (s.recorded (.ofNat 1))) ∧
    (Overtaken trace (.ofNat 1) ↔ OutOfOrder (s.recorded (.ofNat 1))) := by
  obtain ⟨trace, s, run, kept, hrecorded⟩ :=
    exists_run orderlyMoves (s := .initial) (P := fun trace s =>
      EntriesKept trace ∧ s.recorded (.ofNat 1) = [.enqueued, .delivered]) (by decide)
  exact ⟨trace, s, run, kept, hrecorded, history_in_order_iff run kept (.ofNat 1)⟩

/-- The same two calls at the same time: the status moves in the right order, but the entry for the
delivery is written first. -/
def overtakingMoves : List Move :=
  [.outside (.insert (.ofNat 1) default .epoch),
    .start 0 .default (.record ⟨.ofNat 1, .enqueued, none⟩),
    .turn 0 (.served .epoch default) false,
    .start 1 .default (.record ⟨.ofNat 1, .delivered, none⟩),
    .turn 1 (.served .epoch default) false,
    .turn 1 (.served .epoch default) false,
    .turn 0 (.served .epoch default) false]

/-- Not every history is a path. -/
theorem not_forall_history_in_order : ¬ ∀ {trace : List Moment} {s : System},
    Run .initial trace s → EntriesKept trace → ∀ id, Status.Path .pending (s.recorded id) := by
  intro h
  obtain ⟨trace, s, run, kept, hrecorded⟩ :=
    exists_run overtakingMoves (s := .initial) (P := fun trace s =>
      EntriesKept trace ∧ s.recorded (.ofNat 1) = [.delivered, .enqueued]) (by decide)
  have hpath := h run kept (.ofNat 1)
  rw [hrecorded] at hpath
  exact absurd hpath (by decide)

end Interplay

end Outbox
