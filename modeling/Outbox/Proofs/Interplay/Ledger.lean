import Outbox.Proofs.Interplay.Record
import Outbox.Proofs.Table
/-!
# `Proofs.Interplay.Ledger` — where the entries are

For every step of a message an entry is made. From then on the entry is in one of three places: a
call holds it and has yet to write it, or it is part of the history, or it was given up. This module
keeps the books on that. An entry is given up when it was refused once more in a row than its call
tries again, so the books can be read off what the history has answered, without a look into the
calls; and the statuses that a message has had are those of the entries that were made for it.
-/

namespace Outbox

/-- The statuses that a message has had after its first one. -/
def Status.life : Status → List Status
  | .pending => []
  | .enqueued => [.enqueued]
  | .notEnqueued => [.notEnqueued]
  | .delivered => [.enqueued, .delivered]
  | .deliveredFailed => [.enqueued, .deliveredFailed]

/-- A legal step makes the life longer by one status, which is new to it. -/
theorem Status.Step.life {old new : Status} (h : Status.Step old new) :
    new.life = old.life ++ [new] ∧ new ∉ old.life := by
  cases h <;> decide

theorem Status.nodup_life (status : Status) : status.life.Nodup := by
  cases status <;> decide

namespace Interplay

/-! ## Views -/

/-- The statuses of the entries of a message, the oldest first. -/
def System.recorded (s : System) (id : MessageId) : List Status :=
  (s.history.entriesOf id).map HistoryEntry.status

/-- The statuses that a message has had after its first one. -/
def System.passed (s : System) (id : MessageId) : List Status :=
  match s.store.status? id with
  | some status => status.life
  | none => []

/-- The entries that the calls have yet to write. -/
def System.due (s : System) : List HistoryEntry :=
  s.calls.values.filterMap fun call => call.work.due?

/-- The statuses of the entries of a message. -/
def statusesOf (id : MessageId) (entries : List HistoryEntry) : List Status :=
  (entries.filter fun entry => entry.messageId = id).map HistoryEntry.status

/-- The entries for the steps of messages that were made, in the order of the steps. -/
def madeIn (trace : List Moment) : List HistoryEntry :=
  trace.filterMap fun moment => moment.event.made?

/-- How many times in a row an entry could not be added to the history. -/
def refusals (entry : HistoryEntry) (trace : List Moment) : Nat :=
  trace.foldl (fun n moment =>
    if moment.event.refused? = some entry then n + 1
    else if moment.event.appended? = some entry then 0
    else n) 0

/-- The entry that a call gives up, which was refused once more in a row than the call tries again;
`past` is what happened before. -/
def Moment.givesUp? (past : List Moment) (moment : Moment) : Option HistoryEntry :=
  moment.event.refused?.filter fun entry => moment.event.retries ≤ refusals entry past

/-- The entries that were given up after what happened first. -/
def givenUpAfter (past : List Moment) : List Moment → List HistoryEntry
  | [] => []
  | moment :: later => (moment.givesUp? past).toList ++ givenUpAfter (past ++ [moment]) later

/-- The entries that were given up. -/
def givenUp (trace : List Moment) : List HistoryEntry :=
  givenUpAfter [] trace

section Views

variable {s s' : System} {entry : HistoryEntry} {trace : List Moment} {moment : Moment}

theorem passed_of_quiet (h : Quiet s.store s'.store) (id : MessageId) :
    s'.passed id = s.passed id := by
  rcases h id with h | ⟨hbefore, hafter⟩
  · rw [System.passed, System.passed, h]
  · rw [System.passed, System.passed, hbefore, hafter]
    rfl

theorem passed_of_moved {id : MessageId} {old new : Status}
    (h : s.store.Moved id old new s'.store) (other : MessageId) :
    s'.passed other = s.passed other ++ if id = other then [new] else [] := by
  rw [System.passed, System.passed, h.status?]
  by_cases hid : id = other
  · rw [if_pos hid, if_pos hid, ← hid, h.was]
    exact h.legal.life.1
  · rw [if_neg hid, if_neg hid, List.append_nil]

theorem not_mem_passed_of_moved {id : MessageId} {old new : Status}
    (h : s.store.Moved id old new s'.store) : new ∉ s.passed id := by
  rw [System.passed, h.was]
  exact h.legal.life.2

theorem nodup_passed (s : System) (id : MessageId) : (s.passed id).Nodup := by
  rw [System.passed]
  split
  · exact Status.nodup_life _
  · exact List.nodup_nil

theorem recorded_append (h : s'.history = s.history.append entry) (id : MessageId) :
    s'.recorded id = s.recorded id ++ if entry.messageId = id then [entry.status] else [] := by
  rw [System.recorded, h, History.entriesOf_append, List.map_append, System.recorded]
  split <;> rfl

theorem recorded_of_history (h : s'.history = s.history) (id : MessageId) :
    s'.recorded id = s.recorded id := by
  rw [System.recorded, h, System.recorded]

theorem statusesOf_append (id : MessageId) (entries later : List HistoryEntry) :
    statusesOf id (entries ++ later) = statusesOf id entries ++ statusesOf id later := by
  rw [statusesOf, List.filter_append, List.map_append, statusesOf, statusesOf]

theorem statusesOf_singleton (id : MessageId) (entry : HistoryEntry) :
    statusesOf id [entry] = if entry.messageId = id then [entry.status] else [] := by
  by_cases hid : entry.messageId = id <;> simp [statusesOf, hid]

theorem mem_statusesOf {id : MessageId} {status : Status} {entries : List HistoryEntry} :
    status ∈ statusesOf id entries ↔
      ∃ entry ∈ entries, entry.messageId = id ∧ entry.status = status := by
  simp [statusesOf, and_assoc]

theorem eq_of_statusesOf {entries : List HistoryEntry} {entry other : HistoryEntry}
    (h : (statusesOf entry.messageId entries).Nodup) (hentry : entry ∈ entries)
    (hother : other ∈ entries) (hid : entry.messageId = other.messageId)
    (hstatus : entry.status = other.status) : entry = other := by
  refine List.inj_on_of_nodup_map h ?_ ?_ hstatus
  · simpa using hentry
  · simpa [hid] using hother

/-- Entries are told apart by their messages and statuses, if no message has two with one status. -/
theorem nodup_of_statusesOf {entries : List HistoryEntry}
    (h : ∀ id, (statusesOf id entries).Nodup) : entries.Nodup := by
  induction entries with
  | nil => exact List.nodup_nil
  | cons entry rest ih =>
    have hcons (id : MessageId) : statusesOf id (entry :: rest) =
        statusesOf id [entry] ++ statusesOf id rest := statusesOf_append id [entry] rest
    refine List.nodup_cons.mpr ⟨fun hmem => ?_, ih fun id => ?_⟩
    · have hnodup := h entry.messageId
      rw [hcons, statusesOf_singleton, if_pos rfl, List.singleton_append] at hnodup
      exact (List.nodup_cons.mp hnodup).1 (mem_statusesOf.mpr ⟨entry, hmem, rfl, rfl⟩)
    · have hnodup := h id
      rw [hcons] at hnodup
      exact (List.nodup_append.mp hnodup).2.1

theorem madeIn_snoc (trace : List Moment) (moment : Moment) :
    madeIn (trace ++ [moment]) = madeIn trace ++ moment.event.made?.toList := by
  rw [madeIn, List.filterMap_append, madeIn]
  cases h : moment.event.made? <;> simp [h]

theorem refusals_snoc (entry : HistoryEntry) (trace : List Moment) (moment : Moment) :
    refusals entry (trace ++ [moment]) =
      if moment.event.refused? = some entry then refusals entry trace + 1
      else if moment.event.appended? = some entry then 0
      else refusals entry trace := by
  rw [refusals, List.foldl_append]
  rfl

theorem givenUpAfter_snoc (past trace : List Moment) (moment : Moment) :
    givenUpAfter past (trace ++ [moment]) =
      givenUpAfter past trace ++ (moment.givesUp? (past ++ trace)).toList := by
  induction trace generalizing past with
  | nil => simp [givenUpAfter]
  | cons first rest ih =>
    rw [List.cons_append, givenUpAfter, givenUpAfter, ih, List.append_assoc, List.append_assoc,
      List.singleton_append]

theorem givenUp_snoc (trace : List Moment) (moment : Moment) :
    givenUp (trace ++ [moment]) = givenUp trace ++ (moment.givesUp? trace).toList :=
  givenUpAfter_snoc [] trace moment

end Views

/-! ## The calls in progress -/

section Calls

variable {s s' : System} {e : Event} {trace : List Moment} {t u : TaskId} {entry : HistoryEntry}

/-- No step lists a task twice. -/
theorem Step.nodup_calls (h : Step s e s') (hs : s.calls.keys.Nodup) : s'.calls.keys.Nodup := by
  obtain ⟨move, h⟩ := h
  cases move with
  | outside o =>
    simp only [System.perform?] at h
    split at h
    · next hallowed =>
      cases h
      exact (outside_cases hallowed).2.2.1 ▸ hs
    · cases h
  | start t c job =>
    simp only [System.perform?] at h
    split at h
    · cases h
    · cases h
      exact Table.nodup_put hs ..
  | turn t fate stop =>
    simp only [System.perform?, Option.bind_eq_bind, Option.bind_eq_some_iff] at h
    obtain ⟨call, -, ⟨answer, mid⟩, hanswer, h⟩ := h
    have hmid : mid.calls.keys.Nodup := (answer?_frame hanswer).2.2 ▸ hs
    have hsettle (m : System) (hm : m.calls.keys.Nodup) (progress : Progress Work Result) :
        (m.settle t call progress).2.calls.keys.Nodup := by
      cases progress with
      | waiting => exact Table.nodup_put hm ..
      | finished => exact Table.nodup_erase hm _
    cases h
    simp only [System.resume]
    split
    · exact hsettle _ hmid _
    · refine hsettle _ ?_ _
      exact hmid

theorem Run.nodup_calls (run : Run .initial trace s) : s.calls.keys.Nodup :=
  run.invariant (I := fun _ s => s.calls.keys.Nodup) List.nodup_nil fun _ hs h => h.nodup_calls hs

/-- What the calls show, all together. -/
def System.gather {α : Type} (s : System) (f : Work → Option α) : List α :=
  s.calls.values.filterMap fun call => f call.work

/-- What the other calls show. -/
def System.beside {α : Type} (s : System) (f : Work → Option α) (t : TaskId) : List α :=
  (s.calls.erase t).values.filterMap fun call => f call.work

/-- What the calls show is what one task shows and what the others show. -/
theorem gather_perm {α : Type} (hs : s.calls.keys.Nodup) (f : Work → Option α) (t : TaskId) :
    (s.gather f).Perm ((s.look f none t).toList ++ s.beside f t) := by
  have h := (Table.values_perm_erase hs t).filterMap fun call => f call.work
  rw [List.filterMap_append] at h
  have hone : (s.calls.get? t).toList.filterMap (fun call => f call.work) =
      (s.look f none t).toList := by
    rw [System.look]
    cases s.calls.get? t with
    | none => rfl
    | some call => cases h : f call.work <;> simp [h]
  rw [hone] at h
  exact h

theorem beside_perm {α : Type} (hs : s.calls.keys.Nodup) (hs' : s'.calls.keys.Nodup)
    (hothers : ∀ u, u ≠ t → s'.calls.get? u = s.calls.get? u) (f : Work → Option α) :
    (s'.beside f t).Perm (s.beside f t) := by
  refine (Table.values_perm (Table.nodup_erase hs' t) (Table.nodup_erase hs t) fun u => ?_).filterMap _
  rw [Table.get?_erase, Table.get?_erase]
  split
  · rfl
  · next hu => exact hothers u (Ne.symm hu)

/-- The entries that the other calls have yet to write. -/
def System.dueBeside (s : System) (t : TaskId) : List HistoryEntry :=
  (s.calls.erase t).values.filterMap fun call => call.work.due?

theorem due_perm (hs : s.calls.keys.Nodup) (t : TaskId) :
    s.due.Perm ((s.dueOf t).toList ++ s.dueBeside t) :=
  gather_perm hs Work.due? t

theorem dueBeside_perm (hs : s.calls.keys.Nodup) (hs' : s'.calls.keys.Nodup)
    (hothers : ∀ u, u ≠ t → s'.calls.get? u = s.calls.get? u) :
    (s'.dueBeside t).Perm (s.dueBeside t) :=
  beside_perm hs hs' hothers Work.due?

theorem mem_due (hs : s.calls.keys.Nodup) : entry ∈ s.due ↔ ∃ t, s.dueOf t = some entry := by
  constructor
  · intro h
    obtain ⟨call, hcall, hdue⟩ := List.mem_filterMap.mp h
    obtain ⟨⟨t, _⟩, hmem, rfl⟩ := List.mem_map.mp hcall
    refine ⟨t, ?_⟩
    rw [System.dueOf, System.look_of_found (Table.get?_of_mem_entries hs hmem)]
    exact hdue
  · rintro ⟨t, ht⟩
    rw [(due_perm hs t).mem_iff, ht]
    exact List.mem_cons_self

/-- Different calls do not have the same entry to write, if no entry is due twice. -/
theorem eq_of_dueOf (hs : s.calls.keys.Nodup) (hnodup : s.due.Nodup)
    (ht : s.dueOf t = some entry) (hu : s.dueOf u = some entry) : t = u := by
  by_contra hne
  have hbeside : entry ∈ s.dueBeside t := by
    rcases s.look_cases Work.due? none u with ⟨call, hcall, hlook⟩ | ⟨-, hlook⟩
    · refine List.mem_filterMap.mpr ⟨call, ?_, hlook.symm.trans hu⟩
      have hget : (s.calls.erase t).get? u = some call := by
        rw [Table.get?_erase, if_neg hne, hcall]
      exact List.mem_map_of_mem (Table.mem_entries_of_get? hget)
    · cases hlook.symm.trans hu
  rw [(due_perm hs t).nodup_iff, ht] at hnodup
  exact (List.nodup_cons.mp hnodup).1 hbeside

end Calls

/-! ## The books -/

/-- The books on what has happened. -/
structure Ledger (trace : List Moment) (s : System) : Prop where
  /-- An entry that was made is in the history, in a call, or given up. -/
  made : (madeIn trace).Perm (s.history.entries ++ s.due ++ givenUp trace)
  /-- The steps of a message are those that an entry was made for. -/
  passed : ∀ id, statusesOf id (madeIn trace) = s.passed id
  writes : s.store.writes = (madeIn trace).length
  /-- No entry is refused before it was made. -/
  refused : ∀ {entry}, refusals entry trace ≠ 0 → entry ∈ madeIn trace
  /-- What a call tries again was refused as often. -/
  efforts : ∀ {t entry tries}, s.effortOf t = some (entry, tries) → refusals entry trace = tries

section Ledger

variable {s s' : System} {e : Event} {trace : List Moment} {t u : TaskId} {entry : HistoryEntry}
  {tries : Nat}

theorem ledger_initial : Ledger [] .initial := by
  refine ⟨List.Perm.refl _, fun _ => rfl, rfl, fun h => absurd rfl h, ?_⟩
  intro t entry tries h
  cases h

theorem Ledger.nodup_made (hs : Ledger trace s) : (madeIn trace).Nodup := by
  refine nodup_of_statusesOf fun id => ?_
  rw [hs.passed]
  exact nodup_passed s id

theorem Ledger.nodup_due (hs : Ledger trace s) : s.due.Nodup := by
  have h := hs.made.nodup_iff.mp hs.nodup_made
  exact (List.nodup_append.mp (List.nodup_append.mp h).1).2.1

theorem dueOf_of_effortOf (h : s.effortOf t = some (entry, tries)) : s.dueOf t = some entry := by
  rw [System.dueOf_eq_effortOf, h]
  rfl

/-- An entry that a call has yet to write was made. -/
theorem Ledger.due_made (hs : Ledger trace s) (hnodup : s.calls.keys.Nodup)
    (h : s.dueOf t = some entry) : entry ∈ madeIn trace := by
  rw [hs.made.mem_iff]
  refine List.mem_append_left _ (List.mem_append_right _ ?_)
  exact (mem_due hnodup).mpr ⟨t, h⟩

namespace Booked

variable {retries : Nat} {made appended refused : Option HistoryEntry}
  {before after : Option (HistoryEntry × Nat)}

/-- An entry that a step added, or could not add, was one that its task had yet to write. -/
theorem mine (h : Booked retries s s' made appended refused before after)
    (hentry : appended = some entry ∨ refused = some entry) :
    ∃ tries, before = some (entry, tries) := by
  cases h with
  | nothing | made => rcases hentry with h | h <;> cases h
  | @appended _ tries | @refused _ tries | @givenUp _ tries =>
    rcases hentry with h | h <;> cases h
    exact ⟨tries, rfl⟩

/-- Every entry stays where it is, or goes on from being made to the task, and from the task to the
history or to what is given up. `refs` tells how often it was refused. -/
theorem count_eq {refs : HistoryEntry → Nat}
    (h : Booked retries s s' made appended refused before after)
    (hrefs : ∀ {entry tries}, before = some (entry, tries) → refs entry = tries)
    (a : HistoryEntry) :
    made.toList.count a + s.history.entries.count a + (before.map Prod.fst).toList.count a =
      s'.history.entries.count a + (after.map Prod.fst).toList.count a +
        (refused.filter fun entry => retries ≤ refs entry).toList.count a := by
  cases h with
  | nothing _ _ hhistory =>
    rw [hhistory, Option.filter_none]
    exact congrArg (· + _) (Nat.zero_add _)
  | made _ hhistory =>
    rw [hhistory, Option.filter_none]
    exact congrArg (· + _) (Nat.add_comm _ _)
  | appended _ _ hhistory =>
    rw [hhistory, Option.filter_none, History.append, List.count_append]
    simp only [Option.toList_none, Option.map_none, Option.map_some, Option.toList_some,
      List.count_nil]
    omega
  | refused hagain _ _ hhistory =>
    rw [hhistory, Option.filter_some, hrefs rfl, if_neg (by simpa using hagain)]
    exact congrArg (· + _) (Nat.zero_add _)
  | givenUp hlast _ _ hhistory =>
    rw [hhistory, Option.filter_some, hrefs rfl, if_pos (decide_eq_true hlast)]
    exact congrArg (· + _) (Nat.zero_add _)

theorem passed_eq (h : Booked retries s s' made appended refused before after) (id : MessageId) :
    s'.passed id = s.passed id ++ statusesOf id made.toList := by
  cases h with
  | made hmoved => rw [Option.toList_some, statusesOf_singleton, passed_of_moved hmoved]
  | nothing hquiet | appended hquiet | refused _ hquiet | givenUp _ hquiet =>
    rw [passed_of_quiet hquiet]
    exact (List.append_nil _).symm

theorem writes_eq (h : Booked retries s s' made appended refused before after) :
    s'.store.writes = s.store.writes + made.toList.length := by
  cases h with
  | made hmoved => exact hmoved.writes
  | nothing _ hwrites | appended _ hwrites | refused _ _ hwrites | givenUp _ _ hwrites =>
    exact hwrites

/-- What is added to the history is what a step adds. -/
theorem entries_eq (h : Booked retries s s' made appended refused before after) :
    s'.history.entries = s.history.entries ++ appended.toList := by
  cases h with
  | appended _ _ hhistory =>
    rw [hhistory]
    rfl
  | nothing _ _ hhistory | made _ hhistory | refused _ _ _ hhistory | givenUp _ _ _ hhistory =>
    rw [hhistory]
    exact (List.append_nil _).symm

/-- An entry is made when its message moves. -/
theorem moved_of_made (h : Booked retries s s' made appended refused before after)
    (hmade : made = some entry) :
    ∃ old, s.store.Moved entry.messageId old entry.status s'.store := by
  cases h with
  | made hmoved =>
    cases hmade
    exact ⟨_, hmoved⟩
  | _ => cases hmade

/-- What a task tries again after a step was refused as often, if it was before. -/
theorem effort_eq {refs : HistoryEntry → Nat}
    (h : Booked retries s s' made appended refused before (some (entry, tries)))
    (hrefs : ∀ {entry tries}, before = some (entry, tries) → refs entry = tries)
    (hfresh : refs entry ≠ 0 → entry.status ∈ s.passed entry.messageId) :
    (if refused = some entry then refs entry + 1
      else if appended = some entry then 0 else refs entry) = tries := by
  cases h with
  | nothing => exact hrefs rfl
  | made hmoved =>
    -- the message has not been in this status before, so there was no entry to refuse
    by_contra hrefused
    exact not_mem_passed_of_moved hmoved (hfresh hrefused)
  | refused =>
    rw [if_pos rfl]
    exact congrArg (· + 1) (hrefs rfl)

end Booked

section Step

variable (hs : Ledger trace s)
  (hbooked : Booked e.retries s s' e.made? e.appended? e.refused? (s.effortOf t) (s'.effortOf t))
  (hnodup : s.calls.keys.Nodup) (hothers : ∀ u, u ≠ t → s'.calls.get? u = s.calls.get? u)

include hs hbooked hnodup

theorem Ledger.step_refused (hentry : refusals entry (trace ++ [⟨s, e⟩]) ≠ 0) :
    entry ∈ madeIn (trace ++ [⟨s, e⟩]) := by
  rw [madeIn_snoc]
  refine List.mem_append_left _ ?_
  rw [refusals_snoc] at hentry
  split at hentry
  · next hrefused =>
    obtain ⟨tries, heffort⟩ := hbooked.mine (.inr hrefused)
    exact hs.due_made hnodup (dueOf_of_effortOf heffort)
  · split at hentry
    · exact absurd rfl hentry
    · exact hs.refused hentry

include hothers

theorem Ledger.step_made (hnodup' : s'.calls.keys.Nodup) :
    (madeIn (trace ++ [⟨s, e⟩])).Perm
      (s'.history.entries ++ s'.due ++ givenUp (trace ++ [⟨s, e⟩])) := by
  rw [madeIn_snoc, givenUp_snoc]
  refine List.perm_iff_count.mpr fun a => ?_
  -- what is due is counted as that of the task and that of the others, which stays the same
  have hdue := (due_perm hnodup t).count_eq a
  have hdue' := (due_perm hnodup' t).count_eq a
  have hbeside := (dueBeside_perm hnodup hnodup' hothers).count_eq a
  have hbefore := hs.made.count_eq a
  have hnow := hbooked.count_eq hs.efforts a
  rw [System.dueOf_eq_effortOf, List.count_append] at hdue hdue'
  simp only [List.count_append] at hbefore ⊢
  simp only [Moment.givesUp?]
  omega

theorem Ledger.step_efforts (heffort : s'.effortOf u = some (entry, tries)) :
    refusals entry (trace ++ [⟨s, e⟩]) = tries := by
  rw [refusals_snoc]
  by_cases hu : u = t
  · subst hu
    rw [heffort] at hbooked
    refine hbooked.effort_eq hs.efforts fun hrefused => ?_
    rw [← hs.passed]
    exact mem_statusesOf.mpr ⟨entry, hs.refused hrefused, rfl, rfl⟩
  · -- the entry of another task is another one
    have hsame : s.effortOf u = some (entry, tries) :=
      (System.look_congr (hothers u hu) ..).symm.trans heffort
    have hother (hentry : e.appended? = some entry ∨ e.refused? = some entry) : False := by
      obtain ⟨_, ht⟩ := hbooked.mine hentry
      exact hu (eq_of_dueOf hnodup hs.nodup_due (dueOf_of_effortOf hsame) (dueOf_of_effortOf ht))
    rw [if_neg fun h => hother (.inr h), if_neg fun h => hother (.inl h)]
    exact hs.efforts hsame

end Step

/-- **The books are kept by every step.** -/
theorem Ledger.step (hs : Ledger trace s) (hsound : s.store.Sound) (hnodup : s.calls.keys.Nodup)
    (h : Step s e s') : Ledger (trace ++ [⟨s, e⟩]) s' := by
  obtain ⟨t, hothers, hbooked⟩ := h.booked hsound
  constructor
  · exact hs.step_made hbooked hnodup hothers (h.nodup_calls hnodup)
  · intro id
    rw [madeIn_snoc, statusesOf_append, hs.passed, hbooked.passed_eq]
  · rw [madeIn_snoc, List.length_append, ← hs.writes, hbooked.writes_eq]
  · exact hs.step_refused hbooked hnodup
  · exact hs.step_efforts hbooked hnodup hothers

theorem Run.ledger (run : Run .initial trace s) : Ledger trace s :=
  run.invariant ledger_initial fun run hs h => hs.step run.sound run.nodup_calls h

/-- **Where the entries of a message are.** The steps that a message has made are those that the
history tells of, those whose entries the calls have yet to write, and those whose entries were
given up. -/
theorem Ledger.passed_perm (hs : Ledger trace s) (id : MessageId) : (s.passed id).Perm
    (s.recorded id ++ statusesOf id s.due ++ statusesOf id (givenUp trace)) := by
  have h := (hs.made.filter fun entry => entry.messageId = id).map HistoryEntry.status
  rw [List.filter_append, List.filter_append, List.map_append, List.map_append] at h
  rw [← hs.passed]
  exact h

end Ledger

end Interplay

end Outbox
