import Outbox.Proofs.Interplay.Course
import Outbox.Proofs.PublishOrder
/-!
# `Proofs.Interplay.Book` — what a batch has done with its messages

A *book* is kept of a batch: which messages it has claimed, handed to the broker and given back, and
which outcomes it has settled, those that were carried over and its own. This module says what every
turn enters, and what the book, the summary, the store and the carried outcomes have to do with one
another at each place that a batch can be at. The surroundings may put in messages and move their
statuses in the meantime.
-/

namespace Outbox

/-! ## Settlements -/

/-- What came of recording an outcome. -/
structure Settlement where
  outcome : Outcome
  result : RecordResult

namespace Settlement

/-- Whether the step was made. -/
def isRecorded (x : Settlement) : Bool :=
  match x.result with
  | .recorded _ => true
  | .notFound | .conflict _ => false

/-- Whether it was recorded that the broker took the message. -/
def isEnqueued (x : Settlement) : Bool :=
  x.isRecorded && x.outcome.target = .enqueued

/-- Whether it was recorded that the broker did not take the message. -/
def isNotEnqueued (x : Settlement) : Bool :=
  x.isRecorded && x.outcome.target ≠ .enqueued

/-- Whether the message was gone or had made another step. -/
def isDropped (x : Settlement) : Bool :=
  !x.isRecorded

end Settlement

/-- A summary counts settlements, each in one of three ways. -/
structure BatchSummary.Counts (summary : BatchSummary) (xs : List Settlement) : Prop where
  enqueued : summary.enqueued = xs.countP Settlement.isEnqueued
  notEnqueued : summary.notEnqueued = xs.countP Settlement.isNotEnqueued
  dropped : summary.dropped = xs.countP Settlement.isDropped

namespace BatchSummary.Counts

variable {summary : BatchSummary} {xs : List Settlement}

theorem blank : BatchSummary.blank.Counts [] :=
  ⟨rfl, rfl, rfl⟩

theorem settle (h : summary.Counts xs) (x : Settlement) :
    (Batching.settle x.outcome x.result summary).1.Counts (xs ++ [x]) := by
  obtain ⟨⟨id, target, detail⟩, result⟩ := x
  obtain ⟨henqueued, hnotEnqueued, hdropped⟩ := h
  cases result with
  | recorded change =>
    by_cases htarget : target = .enqueued <;>
      constructor <;>
      simp [Batching.settle, BatchSummary.countPublished, htarget, Settlement.isEnqueued,
        Settlement.isNotEnqueued, Settlement.isDropped, Settlement.isRecorded, henqueued,
        hnotEnqueued, hdropped]
  | notFound | conflict =>
    constructor <;>
      simp [Batching.settle, BatchSummary.countDropped, Settlement.isEnqueued,
        Settlement.isNotEnqueued, Settlement.isDropped, Settlement.isRecorded, henqueued,
        hnotEnqueued, hdropped]

/-- Every settlement is counted once. -/
theorem total (h : summary.Counts xs) :
    summary.enqueued + summary.notEnqueued + summary.dropped = xs.length := by
  rw [h.enqueued, h.notEnqueued, h.dropped]
  clear h
  induction xs with
  | nil => rfl
  | cons x xs ih =>
    simp only [List.countP_cons, List.length_cons]
    cases hr : x.isRecorded <;> by_cases ht : x.outcome.target = .enqueued <;>
      simp [Settlement.isEnqueued, Settlement.isNotEnqueued, Settlement.isDropped, hr, ht] <;> omega

end BatchSummary.Counts

/-- Settling an outcome counts nothing else. -/
theorem Batching.settle_frame (outcome : Outcome) (result : RecordResult) (summary : BatchSummary) :
    (settle outcome result summary).1.fetched = summary.fetched ∧
      (settle outcome result summary).1.storeFailures = summary.storeFailures ∧
      (settle outcome result summary).1.released = summary.released ∧
      (settle outcome result summary).1.recovered = summary.recovered := by
  cases result with
  | recorded change =>
    simp only [settle, BatchSummary.countPublished]
    split <;> exact ⟨rfl, rfl, rfl, rfl⟩
  | notFound | conflict => exact ⟨rfl, rfl, rfl, rfl⟩

/-! ## Books -/

/-- What a batch has done. -/
structure Book where
  /-- The messages that were claimed. -/
  fetched : List MessageId
  /-- The messages that were handed to the broker. -/
  handed : List MessageId
  /-- What became of the outcomes of earlier batches. -/
  recovered : List Settlement
  /-- What became of the outcomes of this batch. -/
  settled : List Settlement
  /-- The messages whose claims were given back. -/
  returned : List MessageId

namespace Book

/-- Nothing has been done. -/
def empty : Book :=
  ⟨[], [], [], [], []⟩

/-- Enters more into a book. -/
def add (book entry : Book) : Book :=
  ⟨book.fetched ++ entry.fetched, book.handed ++ entry.handed, book.recovered ++ entry.recovered,
    book.settled ++ entry.settled, book.returned ++ entry.returned⟩

/-- The messages whose outcomes have been settled. -/
def settledIds (book : Book) : List MessageId :=
  book.settled.map fun x => x.outcome.id

section Add

variable (book entry : Book)

@[simp]
theorem add_empty : book.add .empty = book := by
  simp [add, empty]

@[simp]
theorem fetched_add : (book.add entry).fetched = book.fetched ++ entry.fetched :=
  rfl

@[simp]
theorem handed_add : (book.add entry).handed = book.handed ++ entry.handed :=
  rfl

@[simp]
theorem recovered_add : (book.add entry).recovered = book.recovered ++ entry.recovered :=
  rfl

@[simp]
theorem settled_add : (book.add entry).settled = book.settled ++ entry.settled :=
  rfl

@[simp]
theorem returned_add : (book.add entry).returned = book.returned ++ entry.returned :=
  rfl

@[simp]
theorem settledIds_add : (book.add entry).settledIds = book.settledIds ++ entry.settledIds := by
  simp [settledIds]

end Add

end Book

/-- The messages that are claimed. -/
def Request.claims : (r : Request) → r.Answer → List MessageId
  | .fetch _, answer =>
    match (answer : Except StoreFailure (List Message)) with
    | .ok batch => batch.map Message.id
    | .error _ => []
  | _, _ => []

/-- Whether messages are to be claimed or claims given back. -/
def Request.concernsClaims : Request → Bool
  | .fetch _ | .release _ => true
  | _ => false

namespace Batching

/-- The outcome of an earlier batch that is settled. -/
def recovers? (c : Config) : (b : Batching) → (b.request c).Answer → Option Settlement
  | .recovering _ outcome record, answer =>
    match (record.resume c answer).progress with
    | .finished (.ok (.recorded change)) => some ⟨outcome, .recorded change⟩
    | _ => none
  | .freeing _ outcome result, _ => some ⟨outcome, result⟩
  | _, _ => none

/-- The outcome of this batch that is settled. -/
def settles? (c : Config) : (b : Batching) → (b.request c).Answer → Option Settlement
  | .recording _ outcome _ record, answer =>
    match (record.resume c answer).progress with
    | .finished (.ok result) => some ⟨outcome, result⟩
    | _ => none
  | _, _ => none

/-- The messages of this batch that are given back. -/
def returns : Batching → List MessageId
  | .releasing _ rest => rest.map Message.id
  | _ => []

/-- What a turn of a batch enters into its book. -/
def entry (c : Config) (b : Batching) (answer : (b.request c).Answer) : Book where
  fetched := (b.request c).claims answer
  handed := (b.request c).handed?.toList
  recovered := (b.recovers? c answer).toList
  settled := (b.settles? c answer).toList
  returned := b.returns

end Batching

namespace Interplay

/-- What a turn of a call enters into the book of a batch. -/
def Work.entry (c : Config) : (w : Work) → (w.request c).Answer → Book
  | .batching _ b, answer => b.entry c answer
  | .recording _, _ | .handling _, _ | .consuming _, _ | .publishing .., _ => .empty

/-- The book of a batch. -/
def bookOf (beats : List Beat) : Book :=
  beats.foldl (fun book b => book.add (b.call.work.entry b.call.config b.answer)) .empty

theorem bookOf_snoc (beats : List Beat) (b : Beat) :
    bookOf (beats ++ [b]) = (bookOf beats).add (b.call.work.entry b.call.config b.answer) := by
  simp [bookOf, List.foldl_append]

/-! ## What goes on around a batch -/

/-- What others may do to the store who claim no messages and give no claims back. -/
inductive Drifts (s s' : Store) : Prop
  | same (same : s.Same s')
  | inserted {m : Message} (inserted : s.Inserted m s')
  | moved {id : MessageId} {old new : Status} (moved : s.Moved id old new s')

/-- What may go on around a batch: messages may be put in and may make steps, but none is claimed
and no claim given back, and what the publisher carries is left to the batch. -/
structure Beside (t : TaskId) (p : PublisherId) (s s' : System) : Prop where
  apart : Apart t s s'
  carried : s'.carriedOf p = s.carriedOf p
  store : Drifts s.store s'.store

/-- Whether a step is not a turn of a publisher, and neither claims messages nor gives claims back.
-/
def Event.isBeside (p : PublisherId) : Event → Bool
  | .turn _ call _ _ => !call.request.concernsClaims && call.work.publisher? != some p
  | .outside _ | .start .. => true

section Beside

variable {s s' mid : System} {t : TaskId} {p : PublisherId} {call : Call} {fate : Fate} {e : Event}

theorem drifts_of_answer {r : Request} {answer : r.Answer} (hs : s.store.Sound)
    (hr : r.concernsClaims = false) (h : s.answer? t call fate r = some (answer, mid)) :
    Drifts s.store mid.store := by
  have unchanged : Drifts s.store s.store := .same (.refl _)
  cases r with
  | proceed => exact answer_proceed h ▸ unchanged
  | enter => exact (answer_enter h).1 ▸ unchanged
  | fetch | release => cases hr
  | update =>
    obtain ⟨store, rfl, ⟨_, -, hsame⟩ | ⟨-, -, hsame⟩ | ⟨_, -, -, -, hsame⟩ | ⟨_, _, -, hmoved⟩⟩ :=
      answer_update hs h
    · exact .same hsame
    · exact .same hsame
    · exact .same hsame
    · exact .moved hmoved
  | append =>
    rcases answer_append h with ⟨-, rfl⟩ | ⟨-, -, rfl⟩
    · exact unchanged
    · exact unchanged
  | publish =>
    obtain ⟨broker, rfl, -⟩ := answer_publish h
    exact unchanged
  | subscribe =>
    obtain ⟨broker, rfl, -⟩ := answer_subscribe h
    exact unchanged
  | sleep => exact (answer_sleep h).1 ▸ unchanged
  | pause => exact answer_pause h ▸ unchanged
  | receive =>
    obtain ⟨broker, rfl, -⟩ := answer_receive h
    exact unchanged
  | ready | take | listen | launch | halt | join => cases h

/-- What goes on around a batch in a run. -/
theorem Step.beside (h : Step s e s') (hs : s.store.Sound) (hstart : e.isStartOf t = false)
    (hturn : e.isTurnOf t = false) (hbeside : e.isBeside p = true) : Beside t p s s' := by
  have hapart := h.apart hstart hturn
  rcases Step.cases h with ⟨o, rfl, hallowed, rfl⟩ | ⟨u, c, job, rfl, hstarted⟩ |
    ⟨u, call, answer, stop, result, mid, rfl, hturned⟩
  · obtain ⟨-, hcarried, -, hsame | ⟨m, hinserted⟩⟩ := outside_cases hallowed
    · exact ⟨hapart, by rw [System.carriedOf, hcarried]; rfl, .same hsame⟩
    · exact ⟨hapart, by rw [System.carriedOf, hcarried]; rfl, .inserted hinserted⟩
  · obtain ⟨-, rfl⟩ := hstarted
    exact ⟨hapart, rfl, .same (.refl _)⟩
  · obtain ⟨fate, hanswer⟩ := hturned.answered
    rw [Event.isBeside, Bool.and_eq_true, Bool.not_eq_true', bne_iff_ne] at hbeside
    obtain ⟨hclaims, hpublisher⟩ := hbeside
    refine ⟨hapart, (hturned.carried p).trans (if_neg hpublisher), ?_⟩
    rw [hturned.store]
    exact drifts_of_answer hs hclaims hanswer

end Beside

/-- A message that is known, and claimed as long as it is pending. -/
structure Held (s : Store) (id : MessageId) : Prop where
  known : (s.status? id).isSome = true
  claimed : s.status? id = some .pending → id ∈ s.claimed

section Held

variable {s s' : Store} {id other : MessageId}

theorem Held.of_moved {old new : Status} (h : Held s id) (moved : s.Moved other old new s') :
    Held s' id := by
  by_cases hid : other = id
  · subst hid
    obtain ⟨status, hstatus, hne⟩ := settled_of_moved moved
    refine ⟨by rw [hstatus]; rfl, fun hpending => ?_⟩
    rw [hstatus] at hpending
    exact absurd (Option.some.inj hpending) hne
  · have hstatus : s'.status? id = s.status? id := by rw [moved.status?, if_neg hid]
    refine ⟨hstatus ▸ h.known, fun hpending => ?_⟩
    exact moved.mem_claimed.mpr ⟨h.claimed (hstatus ▸ hpending), Ne.symm hid⟩

theorem Held.of_drifts (h : Held s id) (drifts : Drifts s s') : Held s' id := by
  cases drifts with
  | same same =>
    refine ⟨same.status? id ▸ h.known, fun hpending => ?_⟩
    exact same.claimed ▸ h.claimed (same.status? id ▸ hpending)
  | @inserted m inserted =>
    -- a new message is not one that is known
    have hne : m.id ≠ id := by
      rintro rfl
      have hknown := h.known
      rw [inserted.fresh] at hknown
      cases hknown
    have hstatus : s'.status? id = s.status? id := by rw [inserted.status?, if_neg hne]
    refine ⟨hstatus ▸ h.known, fun hpending => ?_⟩
    exact inserted.claimed ▸ h.claimed (hstatus ▸ hpending)
  | moved moved => exact h.of_moved moved

theorem Held.of_released {ids : List MessageId} (h : Held s id) (released : s.Released ids s')
    (hid : id ∉ ids) : Held s' id := by
  refine ⟨released.status? id ▸ h.known, fun hpending => ?_⟩
  exact released.mem_claimed.mpr ⟨h.claimed (released.status? id ▸ hpending), hid⟩

theorem held_of_fetched {limit : Nat} {batch : List Message} (fetched : s.Fetched limit batch s')
    (hid : id ∈ batch.map Message.id) : Held s' id := by
  refine ⟨?_, fun _ => fetched.mem_claimed.mpr (.inr hid)⟩
  rw [fetched.status?, (fetched.was_available hid).1]
  rfl

/-- A message that is held is claimed exactly as long as it is pending. -/
theorem Held.claimed_iff (h : Held s id) (hs : s.Sound) :
    id ∈ s.claimed ↔ s.status? id = some .pending :=
  ⟨hs.pending, h.claimed⟩

theorem Drifts.settled (drifts : Drifts s s') (h : Settled s id) : Settled s' id := by
  cases drifts with
  | same same => exact h.of_quiet (quiet_of_same same)
  | @inserted m inserted =>
    obtain ⟨status, hstatus, hne⟩ := h
    refine ⟨status, ?_, hne⟩
    rw [inserted.status?, if_neg, hstatus]
    rintro rfl
    rw [inserted.fresh] at hstatus
    cases hstatus
  | moved moved => exact h.of_moved moved

/-- A message that is not claimed stays so. -/
theorem Drifts.unclaimed (drifts : Drifts s s') (h : id ∉ s.claimed) : id ∉ s'.claimed := by
  cases drifts with
  | same same => exact same.claimed ▸ h
  | inserted inserted => exact inserted.claimed ▸ h
  | moved moved => exact fun hid => h (moved.mem_claimed.mp hid).1

theorem Settled.unclaimed (h : Settled s id) (hs : s.Sound) : id ∉ s.claimed := fun hclaimed =>
  h.not_pending (hs.pending hclaimed)

end Held

end Interplay

end Outbox
