import Outbox.Proofs.Interplay.Hearing
import Mathlib.Data.Finset.Card
import Mathlib.Data.List.Perm.Basic
/-!
# `Proofs.FirstReceiptWins` — the first receipt for a message wins

The broker may report the same message more than once, and the reports may contradict each other.
Whichever of them the store hears first decides, whatever the calls that handle them do in between:
that one is applied and goes into the history, and all others are repetitions of the status that it
brought about. So it makes no difference to a store whether the repetitions are reported at all, nor
in which order different messages are reported.
-/

namespace Outbox

/-- The first receipt for a message. -/
def first? (id : MessageId) (rs : List Receipt) : Option Receipt :=
  rs.find? fun r => r.messageId = id

/-- The first receipt for each message. -/
def firsts : List Receipt → List Receipt
  | [] => []
  | r :: rest => r :: (firsts rest).filter fun other => other.messageId ≠ r.messageId

/-- The status of a message once the store has heard the first receipt for it, if there is one. -/
def Status.afterFirst : Option Status → Option Receipt → Option Status
  | some .enqueued, some r => some r.target
  | status, _ => status

theorem isTerminal_target (r : Receipt) : r.target.isTerminal = true := by
  rw [Receipt.target]
  split <;> rfl

theorem target_ne_enqueued (r : Receipt) : r.target ≠ .enqueued := by
  rw [Receipt.target]
  split <;> decide

/-- Only an enqueued message changes its status when a receipt is heard. -/
theorem Status.afterFirst_of_not_enqueued {status : Option Status} (h : status ≠ some .enqueued)
    (first : Option Receipt) : afterFirst status first = status := by
  unfold afterFirst
  split
  · exact absurd rfl h
  · rfl

@[simp]
theorem Status.afterFirst_none (status : Option Status) : afterFirst status none = status := by
  unfold afterFirst
  split
  · next h => cases h
  · rfl

theorem Status.pending_of_afterFirst {status : Option Status} {first : Option Receipt}
    (h : afterFirst status first = some .pending) : status = some .pending := by
  unfold afterFirst at h
  split at h
  · next r =>
    have hterminal := isTerminal_target r
    rw [Option.some.inj h] at hterminal
    cases hterminal
  · exact h

section Receipts

variable {id : MessageId} {r : Receipt} {rs rs' : List Receipt}

theorem first?_snoc : first? id (rs ++ [r]) =
    (first? id rs).or (if r.messageId = id then some r else none) := by
  rw [first?, List.find?_append]
  by_cases h : r.messageId = id <;> simp [first?, h]

theorem messageId_of_first (h : first? id rs = some r) : r ∈ rs ∧ r.messageId = id :=
  ⟨List.mem_of_find?_eq_some h, by simpa using List.find?_some h⟩

theorem first?_eq_none : first? id rs = none ↔ ∀ r ∈ rs, r.messageId ≠ id := by
  simp [first?]

/-- Dropping the later receipts for a message does not change which one is the first. -/
theorem first?_firsts (id : MessageId) (rs : List Receipt) : first? id (firsts rs) = first? id rs := by
  induction rs with
  | nil => rfl
  | cons r rest ih =>
    by_cases h : r.messageId = id
    · simp [first?, firsts, h]
    · have hrest : first? id ((firsts rest).filter fun other => other.messageId ≠ r.messageId) =
          first? id (firsts rest) := by
        rw [first?, List.find?_filter]
        refine congrArg (List.find? · _) (funext fun other => ?_)
        by_cases hother : other.messageId = id
        · simp [hother, Ne.symm h]
        · simp [hother]
      rw [first?, firsts, List.find?_cons_of_neg (by simpa using h), ← first?, hrest, ih, first?,
        first?, List.find?_cons_of_neg (by simpa using h)]

/-- Which receipt is the first for a message depends only on the receipts for this message. -/
theorem first?_congr (h : (rs'.filter fun r => r.messageId = id) =
    rs.filter fun r => r.messageId = id) : first? id rs' = first? id rs := by
  rw [first?, first?, ← List.head?_filter, ← List.head?_filter, h]

end Receipts

namespace Interplay

/-! ## What the statement speaks of -/

/-- The receipts whose handling has begun, one after the other. -/
def begun (trace : List Moment) : List Receipt :=
  trace.filterMap fun moment => moment.event.begun?

/-- The receipts about which the store has answered, one after the other. -/
def judged (trace : List Moment) : List Receipt :=
  trace.filterMap fun moment => moment.event.judged?

/-- The receipts that have been handled, and what became of them. -/
def handled (trace : List Moment) : List (Receipt × Disposition) :=
  trace.filterMap fun moment => moment.event.handled?

/-- What became of the receipts for one message. -/
def resultsOf (id : MessageId) (trace : List Moment) : List (Receipt × Disposition) :=
  (handled trace).filter fun result => result.1.messageId = id

/-- How many turns the calls have taken. -/
def turns (trace : List Moment) : Nat :=
  trace.countP fun moment => moment.event.isTurn

/-- The enqueued messages that receipts are about. -/
def System.awaited (s : System) (rs : List Receipt) : Finset MessageId :=
  (rs.map Receipt.messageId).toFinset.filter fun id => s.store.status? id = some .enqueued

/-- No call is in progress, and the store is not made to fail. -/
structure System.Ready (s : System) : Prop where
  idle : s.calls.entries = []
  failures : s.store.failures = 0
  updateFailures : s.store.updateFailures = 0

/-- Nothing but receipts is handled, and nothing fails. -/
def Hearing (trace : List Moment) : Prop :=
  ∀ moment ∈ trace, moment.event.isHearing = true

instance (trace : List Moment) : Decidable (Hearing trace) :=
  inferInstanceAs (Decidable (∀ _ ∈ trace, _))

/-- One call at a time: each begins when no other is in progress. -/
def Sequential (trace : List Moment) : Prop :=
  ∀ moment ∈ trace, moment.event.begun?.isSome → moment.before.calls.entries = []

instance (trace : List Moment) : Decidable (Sequential trace) :=
  inferInstanceAs (Decidable (∀ _ ∈ trace, _))

/-- A task tells the history of a step of a message. -/
def System.Tells (s : System) (id : MessageId) (t : TaskId) : Prop :=
  ∃ r entry, s.stageOf t = some (.telling r entry) ∧ r.messageId = id

/-! ## How matters stand with a message -/

/-- How matters stand with a message, given how they stood at first: what the store holds, what the
history says, what became of the receipts for it, and which of these was judged first. -/
inductive Standing (s₀ s : System) (results : List (Receipt × Disposition)) (id : MessageId) :
    Option Receipt → Prop
  /-- No receipt for the message has been judged. -/
  | unheard (message : s.store.messages.get? id = s₀.store.messages.get? id)
      (entries : s.history.entriesOf id = s₀.history.entriesOf id) (came : results = [])
      (nobody : ∀ t, ¬ s.Tells id t) : Standing s₀ s results id none
  /-- The message was unknown, or its life had ended; nothing has come of the receipts. -/
  | settled {r : Receipt} {d : Disposition}
      (verdict : Refuses (s₀.store.messages.get? id) d)
      (message : s.store.messages.get? id = s₀.store.messages.get? id)
      (entries : s.history.entriesOf id = s₀.history.entriesOf id)
      (came : ∀ result ∈ results, result.2 = d) (nobody : ∀ t, ¬ s.Tells id t) :
      Standing s₀ s results id (some r)
  /-- The message has made the step that the first receipt reports, and the history is told. -/
  | winning {r : Receipt} {m : Message} {now time : Instant} {entryId : EntryId} {t : TaskId}
      (found : s₀.store.messages.get? id = some m) (enqueued : m.status = .enqueued)
      (message : s.store.messages.get? id = some { m with status := r.target, updatedAt := now })
      (entries : s.history.entriesOf id = s₀.history.entriesOf id)
      (came : ∀ result ∈ results, result.2 = .duplicate r.target) (about : r.messageId = id)
      (teller : s.stageOf t = some (.telling r (.make entryId id r.target r.detail time)))
      (alone : ∀ u, s.Tells id u → u = t) : Standing s₀ s results id (some r)
  /-- The first receipt has been applied. -/
  | won {r : Receipt} {m : Message} {now time : Instant} {entryId : EntryId}
      {before after : List (Receipt × Disposition)}
      (found : s₀.store.messages.get? id = some m) (enqueued : m.status = .enqueued)
      (message : s.store.messages.get? id = some { m with status := r.target, updatedAt := now })
      (entries : s.history.entriesOf id =
        s₀.history.entriesOf id ++ [.make entryId id r.target r.detail time])
      (came : results = before ++ (r, .applied r.target) :: after)
      (others : ∀ result ∈ before ++ after, result.2 = .duplicate r.target)
      (nobody : ∀ t, ¬ s.Tells id t) : Standing s₀ s results id (some r)

section Refuses

variable {m : Option Message} {d d' : Disposition}

theorem Refuses.unique (h : Refuses m d) (h' : Refuses m d') : d = d' := by
  cases h <;> cases h' <;> rfl

theorem Refuses.not_enqueued (h : Refuses m d) : m.map Message.status ≠ some .enqueued := by
  cases h with
  | unknown => nofun
  | repeats hterminal =>
    intro henqueued
    rw [Option.some.inj henqueued] at hterminal
    cases hterminal

end Refuses

section Standing

variable {s₀ s s' : System} {results : List (Receipt × Disposition)} {id : MessageId}
  {first : Option Receipt} {t : TaskId}

/-- What is done about other messages does not matter. -/
theorem Standing.of_same (h : Standing s₀ s results id first)
    (hmessage : s'.store.messages.get? id = s.store.messages.get? id)
    (hentries : s'.history.entriesOf id = s.history.entriesOf id)
    (hstage : ∀ {t r entry}, r.messageId = id →
      (s'.stageOf t = some (.telling r entry) ↔ s.stageOf t = some (.telling r entry))) :
    Standing s₀ s' results id first := by
  have htells {t : TaskId} : s'.Tells id t → s.Tells id t := by
    rintro ⟨r, entry, hat, hid⟩
    exact ⟨r, entry, (hstage hid).mp hat, hid⟩
  cases h with
  | unheard message entries came nobody =>
    exact .unheard (hmessage.trans message) (hentries.trans entries) came
      fun t h => nobody t (htells h)
  | settled verdict message entries came nobody =>
    exact .settled verdict (hmessage.trans message) (hentries.trans entries) came
      fun t h => nobody t (htells h)
  | winning found enqueued message entries came about teller alone =>
    exact .winning found enqueued (hmessage.trans message) (hentries.trans entries) came about
      ((hstage about).mpr teller) fun u h => alone u (htells h)
  | won found enqueued message entries came others nobody =>
    exact .won found enqueued (hmessage.trans message) (hentries.trans entries) came others
      fun t h => nobody t (htells h)

/-- The status of the message is that which the first receipt has brought about. -/
theorem Standing.status? (h : Standing s₀ s results id first) :
    s.store.status? id = Status.afterFirst (s₀.store.status? id) first := by
  cases h with
  | unheard message =>
    rw [Store.status?, Store.status?, message, Status.afterFirst_none]
  | settled verdict message =>
    rw [Store.status?, Store.status?, message,
      Status.afterFirst_of_not_enqueued verdict.not_enqueued]
  | winning found enqueued message | won found enqueued message =>
    rw [Store.status?, Store.status?, message, found, Option.map_some, Option.map_some, enqueued]
    rfl

/-- A receipt for the message is judged, and nothing comes of it. -/
theorem Standing.refused (h : Standing s₀ s results id first) (r : Receipt) {d : Disposition}
    (hsaid : Refuses (s.store.messages.get? id) d) :
    Standing s₀ s (results ++ [(r, d)]) id (first.or (some r)) := by
  have snoc {d' : Disposition} (hcame : ∀ result ∈ results, result.2 = d') (hd : d = d') :
      ∀ result ∈ results ++ [(r, d)], result.2 = d' :=
    List.forall_mem_append.mpr ⟨hcame, List.forall_mem_singleton.mpr hd⟩
  cases h with
  | unheard message entries came nobody =>
    subst came
    exact .settled (message ▸ hsaid) message entries
      (snoc (fun _ h => absurd h List.not_mem_nil) rfl) nobody
  | settled verdict message entries came nobody =>
    exact .settled verdict message entries (snoc came ((message ▸ hsaid).unique verdict)) nobody
  | winning found enqueued message entries came about teller alone =>
    rw [message] at hsaid
    have hd := hsaid.unique (.repeats (isTerminal_target _))
    exact .winning found enqueued message entries (snoc came hd) about teller alone
  | @won first m now time entryId before after found enqueued message entries came others nobody =>
    rw [message] at hsaid
    have hd := hsaid.unique (.repeats (isTerminal_target _))
    have hcame : results ++ [(r, d)] =
        before ++ (first, .applied first.target) :: (after ++ [(r, d)]) := by
      rw [came, List.append_assoc, List.cons_append]
    refine .won found enqueued message entries hcame ?_ nobody
    rw [← List.append_assoc]
    exact List.forall_mem_append.mpr ⟨others, List.forall_mem_singleton.mpr hd⟩

/-- The message makes the step that a receipt for it reports. -/
theorem Standing.moved {r : Receipt} {m : Message} {now time : Instant} {entryId : EntryId}
    (h : Standing s₀ s results r.messageId first)
    (hfound : s.store.messages.get? r.messageId = some m) (henqueued : m.status = .enqueued)
    (hmessages : s'.store.messages =
      s.store.messages.put r.messageId { m with status := r.target, updatedAt := now })
    (hhistory : s'.history = s.history)
    (hnext : s'.stageOf t = some (.telling r (.make entryId r.messageId r.target r.detail time)))
    (hothers : ∀ u, u ≠ t → s'.stageOf u = s.stageOf u) :
    first = none ∧ Standing s₀ s' results r.messageId (some r) := by
  cases h with
  | unheard message entries came nobody =>
    subst came
    have hmoved : s'.store.messages.get? r.messageId =
        some { m with status := r.target, updatedAt := now } := by
      rw [hmessages, Table.get?_put, if_pos rfl]
    refine ⟨rfl, .winning (message.symm.trans hfound) henqueued hmoved (hhistory ▸ entries)
      (fun _ h => absurd h List.not_mem_nil) rfl hnext fun u hu => ?_⟩
    by_contra hne
    obtain ⟨other, entry, hat, hid⟩ := hu
    exact nobody u ⟨other, entry, hothers u hne ▸ hat, hid⟩
  | settled verdict message =>
    rw [← message, hfound] at verdict
    cases verdict with
    | repeats hterminal =>
      rw [henqueued] at hterminal
      cases hterminal
  | winning _ _ message | won _ _ message =>
    -- the message would have to be enqueued again
    rw [message] at hfound
    cases hfound
    exact absurd henqueued (target_ne_enqueued _)

/-- Who tells the history of a step tells it the entry for the first receipt. -/
theorem Standing.about {r : Receipt} {entry : HistoryEntry}
    (h : Standing s₀ s results r.messageId first) (hat : s.stageOf t = some (.telling r entry)) :
    entry.messageId = r.messageId := by
  have htells : s.Tells r.messageId t := ⟨r, entry, hat, rfl⟩
  cases h with
  | unheard _ _ _ nobody | settled _ _ _ _ nobody | won _ _ _ _ _ _ nobody =>
    exact absurd htells (nobody t)
  | winning _ _ _ _ _ _ teller alone =>
    obtain rfl := alone t htells
    cases hat.symm.trans teller
    rfl

/-- The history is told of the step. -/
theorem Standing.told {r : Receipt} {entry : HistoryEntry}
    (h : Standing s₀ s results r.messageId first) (hat : s.stageOf t = some (.telling r entry))
    (hends : s'.stageOf t = none) (hstore : s'.store = s.store)
    (hhistory : s'.history = s.history.append entry)
    (hothers : ∀ u, u ≠ t → s'.stageOf u = s.stageOf u) :
    Standing s₀ s' (results ++ [(r, .applied r.target)]) r.messageId first := by
  have htells : s.Tells r.messageId t := ⟨r, entry, hat, rfl⟩
  cases h with
  | unheard _ _ _ nobody | settled _ _ _ _ nobody | won _ _ _ _ _ _ nobody =>
    exact absurd htells (nobody t)
  | @winning _ m now time entryId _ found enqueued message entries came about teller alone =>
    obtain rfl := alone t htells
    cases hat.symm.trans teller
    have hentries : s'.history.entriesOf r.messageId = s₀.history.entriesOf r.messageId ++
        [.make entryId r.messageId r.target r.detail time] := by
      rw [hhistory, History.entriesOf_append, entries]
      exact congrArg _ (if_pos rfl)
    refine .won found enqueued (hstore ▸ message) hentries rfl ?_ fun u hu => ?_
    · rwa [List.append_nil]
    · obtain ⟨other, entry, hnow, hid⟩ := hu
      by_cases hut : u = t
      · subst hut
        rw [hends] at hnow
        cases hnow
      · exact hut (alone u ⟨other, entry, hothers u hut ▸ hnow, hid⟩)

end Standing

/-! ## Runs -/

/-- What holds while receipts are handled, given how it all began. -/
structure Receiving (s₀ : System) (trace : List Moment) (s : System) : Prop where
  /-- Every call in progress handles a receipt. -/
  staged : ∀ {t}, s.stageOf t = none → s.calls.get? t = none
  keys : s.calls.keys.Nodup
  failures : s.store.failures = 0
  updateFailures : s.store.updateFailures = 0
  /-- Of the receipts that are handled, or were, those are judged that the store is not asked about. -/
  asked : (begun trace).Perm (judged trace ++ s.gather Work.asked?)
  received : (begun trace).Perm ((handled trace).map Prod.fst ++ s.gather Work.received?)
  standing : ∀ id, Standing s₀ s (resultsOf id trace) id (first? id (judged trace))
  writes : s.store.writes = s₀.store.writes + (s₀.awaited (judged trace)).card
  /-- In every turn a receipt is judged, or has been handled. -/
  counted : turns trace ≤ (judged trace).length + (handled trace).length

section Receiving

variable {s₀ s s' mid : System} {e : Event} {trace : List Moment} {t : TaskId}

theorem begun_snoc (trace : List Moment) (moment : Moment) :
    begun (trace ++ [moment]) = begun trace ++ moment.event.begun?.toList :=
  filterMap_snoc ..

theorem judged_snoc (trace : List Moment) (moment : Moment) :
    judged (trace ++ [moment]) = judged trace ++ moment.event.judged?.toList :=
  filterMap_snoc ..

theorem handled_snoc (trace : List Moment) (moment : Moment) :
    handled (trace ++ [moment]) = handled trace ++ moment.event.handled?.toList :=
  filterMap_snoc ..

theorem turns_snoc (trace : List Moment) (moment : Moment) :
    turns (trace ++ [moment]) = turns trace + if moment.event.isTurn then 1 else 0 := by
  simp [turns, List.countP_append, List.countP_cons]

theorem resultsOf_snoc (id : MessageId) (trace : List Moment) (moment : Moment) :
    resultsOf id (trace ++ [moment]) = resultsOf id trace ++
      moment.event.handled?.toList.filter fun result => result.1.messageId = id := by
  rw [resultsOf, handled_snoc, List.filter_append, resultsOf]

theorem awaited_snoc (s : System) (rs : List Receipt) (r : Receipt) :
    s.awaited (rs ++ [r]) = if s.store.status? r.messageId = some .enqueued then
      insert r.messageId (s.awaited rs) else s.awaited rs := by
  have hids : ((rs ++ [r]).map Receipt.messageId).toFinset =
      insert r.messageId (rs.map Receipt.messageId).toFinset := by
    ext id
    simp
  rw [System.awaited, hids, Finset.filter_insert]
  rfl

theorem get?_of_idle (hidle : s.calls.entries = []) (t : TaskId) : s.calls.get? t = none := by
  rw [Table.get?, hidle]
  rfl

theorem stageOf_of_idle (hidle : s.calls.entries = []) (t : TaskId) : s.stageOf t = none :=
  System.look_of_absent (get?_of_idle hidle t) ..

theorem gather_of_idle {α : Type} (hidle : s.calls.entries = []) (f : Work → Option α) :
    s.gather f = [] := by
  rw [System.gather, Table.values, hidle]
  rfl

theorem System.Ready.receiving (h : s₀.Ready) : Receiving s₀ [] s₀ := by
  refine ⟨fun _ => get?_of_idle h.idle _, ?_, h.failures, h.updateFailures, ?_, ?_, fun id => ?_, rfl,
    Nat.le_refl _⟩
  · rw [Table.keys, h.idle]
    exact List.nodup_nil
  · rw [gather_of_idle h.idle]
    exact .refl _
  · rw [gather_of_idle h.idle]
    exact .refl _
  · refine .unheard rfl rfl rfl fun t => ?_
    rintro ⟨r, entry, hat, -⟩
    cases (stageOf_of_idle h.idle t).symm.trans hat

/-- What was done and what the calls show stays what was taken in all, if it does where the step is.
-/
theorem account_of_step {all done new fin : List Receipt} {f : Work → Option Receipt}
    (h : all.Perm (done ++ s.gather f)) (hs : s.calls.keys.Nodup) (hs' : s'.calls.keys.Nodup)
    (hothers : ∀ u, u ≠ t → s'.calls.get? u = s.calls.get? u)
    (hhere : (new ++ (s.look f none t).toList).Perm (fin ++ (s'.look f none t).toList)) :
    (all ++ new).Perm (done ++ fin ++ s'.gather f) := by
  refine List.perm_iff_count.mpr fun r => ?_
  have hall := h.count_eq r
  have hbefore := (gather_perm hs f t).count_eq r
  have hafter := (gather_perm hs' f t).count_eq r
  have hbeside := (beside_perm hs hs' hothers f).count_eq r
  have hmine := hhere.count_eq r
  simp only [List.count_append] at *
  omega

/-- The standing of every message after a receipt was judged or handled. -/
theorem Hears.standing {judged? : Option Receipt} {result? : Option (Receipt × Disposition)}
    (hears : Hears s s' t judged? result?) (hothers : ∀ u, u ≠ t → s'.stageOf u = s.stageOf u)
    (h : ∀ id, Standing s₀ s (resultsOf id trace) id (first? id (judged trace)))
    (id : MessageId) :
    Standing s₀ s' (resultsOf id trace ++
        result?.toList.filter fun result => result.1.messageId = id) id
      (first? id (judged trace ++ judged?.toList)) := by
  -- a turn that is about another message leaves the standing as it is
  have elsewhere (hmessage : s'.store.messages.get? id = s.store.messages.get? id)
      (hentries : s'.history.entriesOf id = s.history.entriesOf id)
      (hbefore : ∀ r entry, s.stageOf t = some (.telling r entry) → r.messageId ≠ id)
      (hafter : ∀ r entry, s'.stageOf t = some (.telling r entry) → r.messageId ≠ id) :
      Standing s₀ s' (resultsOf id trace) id (first? id (judged trace)) := by
    refine (h id).of_same hmessage hentries fun {u r entry} hid => ?_
    by_cases hu : u = t
    · subst hu
      exact iff_of_false (fun hat => hafter r entry hat hid) fun hat => hbefore r entry hat hid
    · rw [hothers u hu]
  cases hears with
  | @refuses r d stage ends verdict store history =>
    have hsame := elsewhere (by rw [store]) (by rw [history])
      (fun r' entry hat => by cases stage.symm.trans hat)
      (fun r' entry hat => by cases (System.look_of_absent ends ..).symm.trans hat)
    simp only [Option.toList_some, first?_snoc]
    by_cases hid : r.messageId = id
    · subst hid
      rw [← store] at verdict
      simpa using hsame.refused r verdict
    · simpa [hid] using hsame
  | @moves r m now time entryId stage next found enqueued messages writes _ _ history =>
    simp only [Option.toList_some, first?_snoc]
    by_cases hid : r.messageId = id
    · subst hid
      obtain ⟨hnone, hwins⟩ := (h _).moved found enqueued messages history next hothers
      simpa [hnone] using hwins
    · have hsame := elsewhere (by rw [messages, Table.get?_put, if_neg hid]) (by rw [history])
        (fun r' entry hat => by cases stage.symm.trans hat)
        (fun r' entry hat => by cases next.symm.trans hat; exact hid)
      simpa [hid] using hsame
  | @tells r entry stage ends store history =>
    have hends : s'.stageOf t = none := System.look_of_absent ends ..
    simp only [Option.toList_none, List.append_nil]
    by_cases hid : r.messageId = id
    · subst hid
      simpa using (h _).told stage hends store history hothers
    · have hentry : entry.messageId ≠ id := by
        rw [(h _).about stage]
        exact hid
      have hsame := elsewhere (by rw [store])
        (by rw [history, History.entriesOf_append, if_neg hentry, List.append_nil])
        (fun r' entry hat => by cases stage.symm.trans hat; exact hid)
        (fun r' entry hat => by cases hends.symm.trans hat)
      simpa [hid] using hsame

theorem mem_awaited {s : System} {rs : List Receipt} {id : MessageId} : id ∈ s.awaited rs ↔
    (∃ r ∈ rs, r.messageId = id) ∧ s.store.status? id = some .enqueued := by
  simp [System.awaited]

/-- The store has written one step for each message of which the first receipt was judged. -/
theorem Hears.writes {judged? : Option Receipt} {result? : Option (Receipt × Disposition)}
    (hears : Hears s s' t judged? result?) (hothers : ∀ u, u ≠ t → s'.stageOf u = s.stageOf u)
    (h : ∀ id, Standing s₀ s (resultsOf id trace) id (first? id (judged trace)))
    (hwrites : s.store.writes = s₀.store.writes + (s₀.awaited (judged trace)).card) :
    s'.store.writes =
      s₀.store.writes + (s₀.awaited (judged trace ++ judged?.toList)).card := by
  cases hears with
  | @refuses r d stage ends verdict store history =>
    have hsame : s₀.awaited (judged trace ++ [r]) = s₀.awaited (judged trace) := by
      rw [awaited_snoc]
      split
      · next henqueued =>
        -- a message that was enqueued, and is not any more, was judged before
        refine Finset.insert_eq_of_mem (mem_awaited.mpr ⟨?_, henqueued⟩)
        have hstatus := (h r.messageId).status?
        cases hfirst : first? r.messageId (judged trace) with
        | some r' =>
          obtain ⟨hmem, hid⟩ := messageId_of_first hfirst
          exact ⟨r', hmem, hid⟩
        | none =>
          rw [hfirst, henqueued, Status.afterFirst_none] at hstatus
          exact absurd hstatus verdict.not_enqueued
      · rfl
    rw [store, hwrites, Option.toList_some, hsame]
  | @moves r m now time entryId stage next found enqueued messages writes _ _ history =>
    obtain ⟨hfirst, -⟩ := (h _).moved found enqueued messages history next hothers
    have hstatus := (h r.messageId).status?
    rw [hfirst, Status.afterFirst_none, Store.status?, found, Option.map_some, enqueued] at hstatus
    have hnew : r.messageId ∉ s₀.awaited (judged trace) := by
      intro hmem
      obtain ⟨r', hr', hid⟩ := (mem_awaited.mp hmem).1
      exact first?_eq_none.mp hfirst r' hr' hid
    rw [writes, hwrites, Option.toList_some, awaited_snoc, if_pos hstatus.symm,
      Finset.card_insert_of_notMem hnew, Nat.add_assoc]
  | tells stage ends store history => rw [store, hwrites, Option.toList_none, List.append_nil]

theorem Started.stage {c : Config} {r : Receipt} (h : Started s t c (.handle r) s') :
    s'.stageOf t = some (.asking r) := by
  rw [System.stageOf, h.look, if_pos rfl]
  exact if_pos rfl

/-- A handling begins. -/
theorem Receiving.started (h : Receiving s₀ trace s) {c : Config} {r : Receipt}
    (hstart : Started s t c (.handle r) s') (hkeys : s'.calls.keys.Nodup) :
    Receiving s₀ (trace ++ [⟨s, .start t c (.handle r)⟩]) s' := by
  have hbefore : s.stageOf t = none := System.look_of_absent hstart.absent ..
  have hat := hstart.stage
  have hothers (u : TaskId) (hu : u ≠ t) : s'.calls.get? u = s.calls.get? u := by
    rw [hstart.state, Table.get?_put, if_neg (Ne.symm hu)]
  have hstage (u : TaskId) (hu : u ≠ t) : s'.stageOf u = s.stageOf u :=
    System.look_congr (hothers u hu) ..
  have hstate := hstart.state
  refine ⟨fun {u} hu => ?_, hkeys, ?_, ?_, ?_, ?_, fun id => ?_, ?_, ?_⟩
  · by_cases hut : u = t
    · subst hut
      rw [hat] at hu
      cases hu
    · rw [hothers u hut]
      exact h.staged (hstage u hut ▸ hu)
  · rw [hstate]
    exact h.failures
  · rw [hstate]
    exact h.updateFailures
  · rw [begun_snoc, judged_snoc]
    refine account_of_step h.asked h.keys hkeys hothers ?_
    rw [look_asked, look_asked, hbefore, hat]
    exact .refl _
  · rw [begun_snoc, handled_snoc, List.map_append]
    refine account_of_step h.received h.keys hkeys hothers ?_
    rw [look_received, look_received, hbefore, hat]
    exact .refl _
  · rw [resultsOf_snoc, judged_snoc]
    simp only [Event.handled?, Event.judged?, Option.toList_none, List.filter_nil, List.append_nil]
    refine (h.standing id).of_same (by rw [hstate]) (by rw [hstate]) fun {u r' entry} _ => ?_
    by_cases hu : u = t
    · subst hu
      rw [hat, hbefore]
      exact iff_of_false (fun h => by cases h) (fun h => by cases h)
    · rw [hstage u hu]
  · rw [judged_snoc, hstate]
    simpa [Event.judged?] using h.writes
  · rw [turns_snoc, judged_snoc, handled_snoc]
    simpa [Event.judged?, Event.handled?, Event.isTurn] using h.counted

/-- What a call does in its turn. -/
theorem Receiving.hears (h : Receiving s₀ trace s) {call : Call} {answer : call.request.Answer}
    {stop : Bool} {result : Option Result} (hturn : Turned s t call answer stop result mid s')
    (hserved : call.request.isServed answer = true)
    (hpending : ∀ r ∈ begun trace, s₀.store.status? r.messageId ≠ some .pending) :
    Hears s s' t (Event.judged? (.turn t call answer result))
      (Event.handled? (.turn t call answer result)) := by
  have hat : s.stageOf t = call.work.stage? := hturn.look_before ..
  obtain ⟨stage, hstage⟩ : ∃ stage, call.work.stage? = some stage := by
    refine Option.ne_none_iff_exists'.mp fun hnone => ?_
    have habsent := h.staged (hat.trans hnone)
    rw [hturn.found] at habsent
    cases habsent
  refine hturn.hears hserved hstage h.failures h.updateFailures ?_
  rintro r rfl
  have hmem : r ∈ begun trace := by
    rw [h.asked.mem_iff, List.mem_append, (gather_perm h.keys Work.asked? t).mem_iff, look_asked,
      hat, hstage]
    exact .inr List.mem_cons_self
  rw [(h.standing r.messageId).status?]
  exact fun hnow => hpending r hmem (Status.pending_of_afterFirst hnow)

/-- A call takes its turn. -/
theorem Receiving.turned (h : Receiving s₀ trace s) {call : Call} {answer : call.request.Answer}
    {stop : Bool} {result : Option Result} (hturn : Turned s t call answer stop result mid s')
    (hserved : call.request.isServed answer = true)
    (hpending : ∀ r ∈ begun trace, s₀.store.status? r.messageId ≠ some .pending)
    (hkeys : s'.calls.keys.Nodup) : Receiving s₀ (trace ++ [⟨s, .turn t call answer result⟩]) s' := by
  have hothers (u : TaskId) (hu : u ≠ t) : s'.calls.get? u = s.calls.get? u := by
    rw [hturn.calls, if_neg (Ne.symm hu)]
  have hstages (u : TaskId) (hu : u ≠ t) : s'.stageOf u = s.stageOf u :=
    System.look_congr (hothers u hu) ..
  have hears := h.hears hturn hserved hpending
  obtain ⟨hasked, hreceived, hends, hcount⟩ := hears.places
  obtain ⟨hfailures, hupdateFailures⟩ := hears.faults
  refine ⟨fun {u} hu => ?_, hkeys, hfailures.trans h.failures,
    hupdateFailures.trans h.updateFailures, ?_, ?_, fun id => ?_, ?_, ?_⟩
  · by_cases hut : u = t
    · subst hut
      exact hends hu
    · rw [hothers u hut]
      exact h.staged (hstages u hut ▸ hu)
  · rw [begun_snoc, judged_snoc]
    refine account_of_step h.asked h.keys hkeys hothers ?_
    rw [look_asked, look_asked]
    exact .of_eq hasked
  · rw [begun_snoc, handled_snoc, List.map_append]
    refine account_of_step h.received h.keys hkeys hothers ?_
    rw [look_received, look_received]
    exact .of_eq hreceived
  · rw [resultsOf_snoc, judged_snoc]
    exact hears.standing hstages h.standing id
  · rw [judged_snoc]
    exact hears.writes hstages h.standing h.writes
  · have hturns := h.counted
    rw [turns_snoc, judged_snoc, handled_snoc, List.length_append, List.length_append]
    simp only [Event.isTurn, if_true]
    omega

/-- Time passes. -/
theorem Receiving.waited (h : Receiving s₀ trace s) (milliseconds : Nat) :
    Receiving s₀ (trace ++ [⟨s, .outside (.wait milliseconds)⟩]) (s.apply (.wait milliseconds)) := by
  have hbegun := begun_snoc trace ⟨s, .outside (.wait milliseconds)⟩
  have hjudged := judged_snoc trace ⟨s, .outside (.wait milliseconds)⟩
  have hhandled := handled_snoc trace ⟨s, .outside (.wait milliseconds)⟩
  simp only [Event.begun?, Event.judged?, Event.handled?, Option.toList_none, List.append_nil] at *
  refine ⟨h.staged, h.keys, h.failures, h.updateFailures, ?_, ?_, fun id => ?_, ?_, ?_⟩
  · rw [hbegun, hjudged]
    exact h.asked
  · rw [hbegun, hhandled]
    exact h.received
  · rw [resultsOf, hhandled, hjudged]
    exact (h.standing id).of_same rfl rfl fun _ => .rfl
  · rw [hjudged]
    exact h.writes
  · rw [turns_snoc, hjudged, hhandled]
    exact h.counted

/-- **Receipts are received one step at a time.** -/
theorem Run.receiving (run : Run s₀ trace s) (ready : s₀.Ready) (hearing : Hearing trace)
    (hpending : ∀ r ∈ begun trace, s₀.store.status? r.messageId ≠ some .pending) :
    Receiving s₀ trace s := by
  induction run with
  | nil => exact ready.receiving
  | @snoc trace s s' e run h ih =>
    obtain ⟨hbefore, hnow⟩ := forall_mem_snoc.mp hearing
    rw [begun_snoc, List.forall_mem_append] at hpending
    have hreceiving := ih hbefore hpending.1
    have hkeys := h.nodup_calls hreceiving.keys
    rcases Step.cases h with ⟨o, rfl, -, rfl⟩ | ⟨t, c, job, rfl, hstart⟩ |
      ⟨t, call, answer, stop, result, mid, rfl, hturn⟩
    · cases o with
      | wait milliseconds => exact hreceiving.waited milliseconds
      | _ => cases hnow
    · cases job with
      | handle r => exact hreceiving.started hstart hkeys
      | _ => cases hnow
    · exact hreceiving.turned hturn hnow hpending.1 hkeys

/-- In a sequential run the receipts are judged in the order in which their handling begins. -/
theorem Run.judged_in_order (run : Run s₀ trace s) (ready : s₀.Ready) (hearing : Hearing trace)
    (hpending : ∀ r ∈ begun trace, s₀.store.status? r.messageId ≠ some .pending)
    (sequential : Sequential trace) : ∃ t, (∀ u, u ≠ t → s.calls.get? u = none) ∧
      begun trace = judged trace ++ ((s.stageOf t).bind Stage.asked?).toList := by
  induction run with
  | nil =>
    refine ⟨0, fun u _ => get?_of_idle ready.idle u, ?_⟩
    rw [stageOf_of_idle ready.idle]
    rfl
  | @snoc trace s s' e run h ih =>
    obtain ⟨hbefore, hnow⟩ := forall_mem_snoc.mp hearing
    obtain ⟨hsequential, halone⟩ := forall_mem_snoc.mp sequential
    rw [begun_snoc, List.forall_mem_append] at hpending
    obtain ⟨t₀, hothers, horder⟩ := ih hbefore hpending.1 hsequential
    rw [begun_snoc, judged_snoc]
    rcases Step.cases h with ⟨o, rfl, -, rfl⟩ | ⟨t, c, job, rfl, hstart⟩ |
      ⟨t, call, answer, stop, result, mid, rfl, hturn⟩
    · cases o with
      | wait milliseconds =>
        simp only [Event.begun?, Event.judged?, Option.toList_none, List.append_nil]
        exact ⟨t₀, hothers, horder⟩
      | _ => cases hnow
    · cases job with
      | handle r =>
        have hidle : s.calls.entries = [] := halone rfl
        rw [stageOf_of_idle hidle] at horder
        refine ⟨t, fun u hu => ?_, ?_⟩
        · rw [hstart.state, Table.get?_put, if_neg (Ne.symm hu)]
          exact get?_of_idle hidle u
        · rw [horder, hstart.stage]
          simp [Event.begun?, Event.judged?, Stage.asked?]
      | _ => cases hnow
    · -- the call that takes its turn is the only one
      obtain rfl : t = t₀ := by
        by_contra hne
        cases (hothers t hne).symm.trans hturn.found
      have hreceiving := run.receiving ready hbefore hpending.1
      obtain ⟨hasked, -⟩ := (hreceiving.hears hturn hnow hpending.1).places
      refine ⟨t, fun u hu => ?_, ?_⟩
      · rw [hturn.calls, if_neg (Ne.symm hu)]
        exact hothers u hu
      · rw [horder, hasked]
        simp [Event.begun?]

/-! ### When the calls have come to their end -/

/-- Every receipt has been judged and handled. -/
theorem Receiving.at_rest (h : Receiving s₀ trace s) (hrest : s.calls.entries = []) :
    (judged trace).Perm (begun trace) ∧ ((handled trace).map Prod.fst).Perm (begun trace) := by
  have hasked := h.asked
  have hreceived := h.received
  rw [gather_of_idle hrest, List.append_nil] at hasked hreceived
  exact ⟨hasked.symm, hreceived.symm⟩

/-- No step is left to tell. -/
theorem not_tells_of_idle (hrest : s.calls.entries = []) (id : MessageId) (t : TaskId) :
    ¬ s.Tells id t := by
  rintro ⟨r, entry, hat, -⟩
  cases (stageOf_of_idle hrest t).symm.trans hat

/-- The first receipt for an enqueued message has been applied, and every other was a repetition. -/
theorem Standing.applied {results : List (Receipt × Disposition)} {id : MessageId} {r : Receipt}
    {m : Message} (h : Standing s₀ s results id (some r)) (hrest : s.calls.entries = [])
    (hfound : s₀.store.messages.get? id = some m) (henqueued : m.status = .enqueued) :
    ∃ before after now entryId time, results = before ++ (r, .applied r.target) :: after ∧
      (∀ result ∈ before ++ after, result.2 = .duplicate r.target) ∧
      s.store.messages.get? id = some { m with status := r.target, updatedAt := now } ∧
      s.history.entriesOf id =
        s₀.history.entriesOf id ++ [.make entryId id r.target r.detail time] := by
  cases h with
  | settled verdict =>
    have hstatus := verdict.not_enqueued
    rw [hfound, Option.map_some, henqueued] at hstatus
    exact absurd rfl hstatus
  | winning _ _ _ _ _ about teller =>
    exact absurd ⟨r, _, teller, about⟩ (not_tells_of_idle hrest id _)
  | won found _ message entries came others =>
    cases hfound.symm.trans found
    exact ⟨_, _, _, _, _, came, others, message, entries⟩

/-- Nothing has come of the receipts for a message that was not enqueued. -/
theorem Standing.unmoved {results : List (Receipt × Disposition)} {id : MessageId}
    {first : Option Receipt} (h : Standing s₀ s results id first)
    (hstatus : first ≠ none → s₀.store.status? id ≠ some .enqueued) :
    s.store.messages.get? id = s₀.store.messages.get? id ∧
      s.history.entriesOf id = s₀.history.entriesOf id ∧
      ∀ result ∈ results, Refuses (s₀.store.messages.get? id) result.2 := by
  cases h with
  | unheard message entries came =>
    subst came
    exact ⟨message, entries, fun _ h => absurd h List.not_mem_nil⟩
  | settled verdict message entries came =>
    exact ⟨message, entries, fun result hresult => came result hresult ▸ verdict⟩
  | winning found enqueued | won found enqueued =>
    refine absurd ?_ (hstatus (Option.some_ne_none _))
    rw [Store.status?, found, Option.map_some, enqueued]

/-- A sequential run that is over has judged the receipts in the order of their beginning. -/
theorem Run.judged_of_sequential (run : Run s₀ trace s) (ready : s₀.Ready)
    (hearing : Hearing trace)
    (hpending : ∀ r ∈ begun trace, s₀.store.status? r.messageId ≠ some .pending)
    (sequential : Sequential trace) (hrest : s.calls.entries = []) : judged trace = begun trace := by
  obtain ⟨t, -, horder⟩ := run.judged_in_order ready hearing hpending sequential
  rw [stageOf_of_idle hrest] at horder
  exact (horder.trans (List.append_nil _)).symm

/-- Two sequential runs that agree in the first receipt for each message end with the same statuses.
-/
theorem Run.status?_of_firsts {trace' : List Moment} (run : Run s₀ trace s)
    (run' : Run s₀ trace' s') (ready : s₀.Ready) (hearing : Hearing trace)
    (hearing' : Hearing trace') (sequential : Sequential trace) (sequential' : Sequential trace')
    (hrest : s.calls.entries = []) (hrest' : s'.calls.entries = [])
    (hpending : ∀ r ∈ begun trace, s₀.store.status? r.messageId ≠ some .pending)
    (hfirst : ∀ id, first? id (begun trace') = first? id (begun trace)) (id : MessageId) :
    s'.store.status? id = s.store.status? id := by
  have hpending' : ∀ r ∈ begun trace', s₀.store.status? r.messageId ≠ some .pending := by
    intro r' hr'
    have hsome : first? r'.messageId (begun trace) ≠ none := by
      rw [← hfirst]
      exact fun hnone => first?_eq_none.mp hnone r' hr' rfl
    obtain ⟨r, hr⟩ := Option.ne_none_iff_exists'.mp hsome
    obtain ⟨hmem, hid⟩ := messageId_of_first hr
    exact hid ▸ hpending r hmem
  have hstatus := ((run.receiving ready hearing hpending).standing id).status?
  have hstatus' := ((run'.receiving ready hearing' hpending').standing id).status?
  rw [run.judged_of_sequential ready hearing hpending sequential hrest] at hstatus
  rw [run'.judged_of_sequential ready hearing' hpending' sequential' hrest'] at hstatus'
  rw [hstatus, hstatus', hfirst]

end Receiving

/-! ## The first receipt wins -/

/-- **The first receipt wins.** Let receipts be handled from a moment on at which no call is in
progress, any number of calls at a time and their turns in any order, while nothing fails and no
message is pending that a receipt is about.

* The calls take two turns for each receipt at most, and every call in progress can take its turn. So
  they all come to their end, and then:
* Every receipt has been judged, and for every receipt there is a result.
* Of the receipts for a message that was enqueued, the one that was judged first has been applied,
  and all others are repetitions of the status that it brought about. The message has that status,
  is otherwise as it was, and its history has one entry more, which tells what that receipt tells.
* A message that was not enqueued, or that no receipt is about, is as it was, and so is its history.
  A receipt for it is a repetition if its life had ended, and else is about an unknown message.
* The store has written as many times as there are enqueued messages that receipts are about.
* If the calls came one at a time, the first receipt that was judged for a message is the first one
  whose handling began. So if the later receipts for each message are dropped, or if receipts for
  different messages change places, every message ends with the same status. -/
theorem first_receipt_wins {s₀ s : System} {trace : List Moment} (run : Run s₀ trace s)
    (ready : s₀.Ready) (hearing : Hearing trace)
    (settled : ∀ r ∈ begun trace, s₀.store.status? r.messageId ≠ some .pending) :
    (turns trace ≤ 2 * (begun trace).length ∧ ∀ {t call}, s.calls.get? t = some call →
      ∃ e s', Step s e s' ∧ e.isTurnOf t = true ∧ e.isHearing = true) ∧
    (s.calls.entries = [] →
      (judged trace).Perm (begun trace) ∧ ((handled trace).map Prod.fst).Perm (begun trace) ∧
      (∀ {id m}, (∃ r ∈ begun trace, r.messageId = id) → s₀.store.messages.get? id = some m →
        m.status = .enqueued → ∃ r, first? id (judged trace) = some r ∧
          ∃ before after now entryId time,
            resultsOf id trace = before ++ (r, .applied r.target) :: after ∧
            (∀ result ∈ before ++ after, result.2 = .duplicate r.target) ∧
            s.store.messages.get? id = some { m with status := r.target, updatedAt := now } ∧
            s.history.entriesOf id =
              s₀.history.entriesOf id ++ [.make entryId id r.target r.detail time]) ∧
      (∀ {id}, ((∃ r ∈ begun trace, r.messageId = id) → s₀.store.status? id ≠ some .enqueued) →
        s.store.messages.get? id = s₀.store.messages.get? id ∧
        s.history.entriesOf id = s₀.history.entriesOf id ∧
        ∀ result ∈ resultsOf id trace, Refuses (s₀.store.messages.get? id) result.2) ∧
      s.store.writes = s₀.store.writes + (s₀.awaited (begun trace)).card ∧
      (Sequential trace → judged trace = begun trace ∧
        ∀ {trace' s'}, Run s₀ trace' s' → Hearing trace' → Sequential trace' →
          s'.calls.entries = [] → (begun trace' = firsts (begun trace) ∨
            ∀ id, ((begun trace').filter fun r => r.messageId = id) =
              (begun trace).filter fun r => r.messageId = id) →
          ∀ id, s'.store.status? id = s.store.status? id)) := by
  have h := run.receiving ready hearing settled
  refine ⟨⟨?_, fun {t call} hfound => ?_⟩, fun hrest => ?_⟩
  · have hasked := h.asked.length_eq
    have hreceived := h.received.length_eq
    have hcounted := h.counted
    rw [List.length_append] at hasked hreceived
    rw [List.length_map] at hreceived
    omega
  · obtain ⟨stage, hstage⟩ : ∃ stage, s.stageOf t = some stage := by
      refine Option.ne_none_iff_exists'.mp fun hnone => ?_
      cases (h.staged hnone).symm.trans hfound
    rw [System.stageOf, System.look_of_found hfound] at hstage
    exact can_be_heard hfound hstage h.failures h.updateFailures
  · obtain ⟨hjudged, hhandled⟩ := h.at_rest hrest
    refine ⟨hjudged, hhandled, fun {id m} hnamed hfound henqueued => ?_, fun {id} hstatus => ?_, ?_,
      fun sequential => ⟨run.judged_of_sequential ready hearing settled sequential hrest, ?_⟩⟩
    · obtain ⟨named, hnamed, hid⟩ := hnamed
      have hsome : first? id (judged trace) ≠ none :=
        fun hnone => first?_eq_none.mp hnone named (hjudged.mem_iff.mpr hnamed) hid
      obtain ⟨r, hr⟩ := Option.ne_none_iff_exists'.mp hsome
      exact ⟨r, hr, (hr ▸ h.standing id).applied hrest hfound henqueued⟩
    · refine (h.standing id).unmoved fun hsome => hstatus ?_
      obtain ⟨r, hr⟩ := Option.ne_none_iff_exists'.mp hsome
      obtain ⟨hmem, hid⟩ := messageId_of_first hr
      exact ⟨r, hjudged.mem_iff.mp hmem, hid⟩
    · have hsame : s₀.awaited (judged trace) = s₀.awaited (begun trace) := by
        ext id
        simp only [mem_awaited, hjudged.mem_iff]
      rw [← hsame]
      exact h.writes
    · intro trace' s' run' hearing' sequential' hrest' horder
      refine run.status?_of_firsts run' ready hearing hearing' sequential sequential' hrest hrest'
        settled fun id => ?_
      rcases horder with hdropped | hreordered
      · rw [hdropped, first?_firsts]
      · exact first?_congr (hreordered id)

/-- A message that the broker has been handed. -/
def awaitingReceipt : System :=
  let m := { Message.ofDraft (.ofNat 1) default .epoch with status := .enqueued }
  { System.initial with store := { Store.empty.insert m with writes := 1 } }

/-- The broker reports the message as delivered and as failed, and reports one that nobody knows. The
call that was the second to begin is the first to be answered. -/
def contradictingMoves : List Move :=
  let served := Fate.served .epoch default
  [.start 0 default (.handle (.delivered (.ofNat 1))),
    .start 1 default (.handle (.failed (.ofNat 1) "no route")),
    .start 2 default (.handle (.delivered (.ofNat 2))),
    .turn 1 served false,
    .turn 0 served false,
    .turn 2 served false,
    .turn 1 served false]

/-- The receipt of a delivery is handled, one that contradicts it unless that is dropped, and one for
a message that nobody knows. -/
def inTurnMoves (dropped : Bool) : List Move :=
  let served := Fate.served .epoch default
  [.start 0 default (.handle (.delivered (.ofNat 1))), .turn 0 served false, .turn 0 served false] ++
    (if dropped then [] else
      [.start 0 default (.handle (.failed (.ofNat 1) "no route")), .turn 0 served false]) ++
    [.start 0 default (.handle (.delivered (.ofNat 2))), .turn 0 served false]

theorem first_receipt_wins_contradictingMoves :
    (∃ trace s m, Run awaitingReceipt trace s ∧ Hearing trace ∧
      begun trace = [.delivered (.ofNat 1), .failed (.ofNat 1) "no route", .delivered (.ofNat 2)] ∧
      turns trace ≤ 6 ∧ s.store.writes = 2 ∧
      s.store.messages.get? (.ofNat 1) = some m ∧ m.status = .deliveredFailed ∧
      ∀ result ∈ resultsOf (.ofNat 2) trace, Refuses none result.2) ∧
    ∃ trace s trace' s', Run awaitingReceipt trace s ∧ Run awaitingReceipt trace' s' ∧
      (begun trace').length < (begun trace).length ∧
      ∀ id, s'.store.status? id = s.store.status? id := by
  have ready : awaitingReceipt.Ready := ⟨rfl, rfl, rfl⟩
  refine ⟨?_, ?_⟩
  · obtain ⟨trace, s, run, hearing, hrest, hbegun, hfirst⟩ := exists_run contradictingMoves
      (s := awaitingReceipt) (P := fun trace s => Hearing trace ∧ s.calls.entries = [] ∧
        begun trace =
          [.delivered (.ofNat 1), .failed (.ofNat 1) "no route", .delivered (.ofNat 2)] ∧
        first? (.ofNat 1) (judged trace) = some (.failed (.ofNat 1) "no route")) (by decide)
    obtain ⟨⟨hturns, -⟩, hdone⟩ := first_receipt_wins run ready hearing (hbegun ▸ by decide)
    obtain ⟨-, -, hwins, hothers, hwrites, -⟩ := hdone hrest
    rw [hbegun] at hturns hwins hothers hwrites
    obtain ⟨r, hr, -, -, now, -, -, -, -, hmessage, -⟩ := @hwins (.ofNat 1) _ (by decide) rfl rfl
    cases hfirst.symm.trans hr
    obtain ⟨-, -, hrefused⟩ := @hothers (.ofNat 2) (by decide)
    exact ⟨trace, s, _, run, hearing, hbegun, hturns, hwrites, hmessage, rfl, hrefused⟩
  · obtain ⟨trace, s, run, hearing, sequential, hrest, hbegun⟩ := exists_run (inTurnMoves false)
      (s := awaitingReceipt) (P := fun trace s => Hearing trace ∧ Sequential trace ∧
        s.calls.entries = [] ∧ begun trace =
          [.delivered (.ofNat 1), .failed (.ofNat 1) "no route", .delivered (.ofNat 2)]) (by decide)
    obtain ⟨trace', s', run', hearing', sequential', hrest', hbegun'⟩ := exists_run (inTurnMoves true)
      (s := awaitingReceipt) (P := fun trace s => Hearing trace ∧ Sequential trace ∧
        s.calls.entries = [] ∧
        begun trace = [.delivered (.ofNat 1), .delivered (.ofNat 2)]) (by decide)
    obtain ⟨-, hdone⟩ := first_receipt_wins run ready hearing (hbegun ▸ by decide)
    obtain ⟨-, -, -, -, -, hinTurn⟩ := hdone hrest
    have hsame := (hinTurn sequential).2 run' hearing' sequential'
      hrest' (.inl (by rw [hbegun, hbegun']; decide))
    exact ⟨trace, s, trace', s', run, run', by rw [hbegun, hbegun']; decide, hsame⟩

end Interplay

end Outbox
