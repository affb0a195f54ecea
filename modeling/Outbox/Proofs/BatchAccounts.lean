import Outbox.Proofs.Interplay.Book
/-!
# `Proofs.BatchAccounts` — every message of a batch comes to one end

However a batch is cut short, its summary accounts for every message that it claimed and for every
outcome that it took over from earlier batches. The messages that were handed to the broker come
first, in the order in which they were claimed, and those given back are all that are left. Of the
messages handed over all outcomes are settled, but for one that could not be recorded and is carried
over. A batch that fails has claimed nothing.

This holds whatever goes on around the batch, as long as nobody else claims messages or gives claims
back, and as long as claims can be given back.
-/

namespace Outbox

/-! ## Where a batch stands -/

namespace Interplay

/-- What the book says before the fetch; the outcomes `ahead` are yet to be settled. -/
structure Early (carried₀ ahead : List Outcome) (book : Book) (summary : BatchSummary) : Prop where
  fetched : book.fetched = []
  handed : book.handed = []
  settled : book.settled = []
  returned : book.returned = []
  outcomes : book.recovered.map Settlement.outcome ++ ahead = carried₀
  counts : summary.Counts book.recovered
  recovered : summary.recovered = book.recovered.length
  storeFailures : summary.storeFailures = 0
  released : summary.released = 0

/-- What the book says after the fetch; the messages `sent` have been handed over but their outcomes
are not settled, the messages `rest` have not been handed over, and the messages `back` were given
back. -/
structure Late (carried₀ : List Outcome) (store : Store) (book : Book) (summary : BatchSummary)
    (sent rest back : List MessageId) : Prop where
  fetched : book.fetched = book.handed ++ (rest ++ back)
  handed : book.handed = book.settledIds ++ sent
  returned : book.returned = back
  once : book.fetched.Nodup
  outcomes : book.recovered.map Settlement.outcome = carried₀
  counts : summary.Counts (book.recovered ++ book.settled)
  recovered : summary.recovered = book.recovered.length
  claims : summary.fetched = book.fetched.length
  released : summary.released = back.length
  held : ∀ id ∈ sent ++ rest, Held store id
  settled : ∀ id ∈ book.settledIds, Settled store id
  free : ∀ id ∈ back, id ∉ store.claimed

/-- Where a batch stands that began with the outcomes `carried₀`; `carried` are the carried outcomes
now. -/
inductive Stands (carried₀ : List Outcome) (store : Store) (carried : List Outcome) (book : Book) :
    Progress Batching (Except StoreFailure BatchSummary) → Prop
  | opening (early : Early carried₀ carried book .blank) :
      Stands carried₀ store carried book (.waiting .opening)
  | recovering {summary : BatchSummary} {outcome : Outcome} {record : Recording}
      {later : List Outcome} (early : Early carried₀ carried book summary)
      (first : carried = outcome :: later) :
      Stands carried₀ store carried book (.waiting (.recovering summary outcome record))
  | freeing {summary : BatchSummary} {outcome : Outcome} {result : RecordResult}
      (early : Early carried₀ (outcome :: carried) book summary) :
      Stands carried₀ store carried book (.waiting (.freeing summary outcome result))
  | fetching {summary : BatchSummary} (early : Early carried₀ [] book summary)
      (none : carried = []) : Stands carried₀ store carried book (.waiting (.fetching summary))
  | publishing {summary : BatchSummary} {m : Message} {rest : List Message}
      (late : Late carried₀ store book summary [] ((m :: rest).map Message.id) [])
      (unfailed : summary.storeFailures = 0) (none : carried = []) :
      Stands carried₀ store carried book (.waiting (.publishing summary m rest))
  | recording {summary : BatchSummary} {outcome : Outcome} {rest : List Message}
      {record : Recording} (late : Late carried₀ store book summary [outcome.id]
        (rest.map Message.id) [])
      (unfailed : summary.storeFailures = 0) (none : carried = [])
      (records : record.outcome = outcome) (publishing : outcome.IsOfPublishing)
      (due : record.due? ≠ .none → Settled store outcome.id) :
      Stands carried₀ store carried book (.waiting (.recording summary outcome rest record))
  | keeping {summary : BatchSummary} {outcome : Outcome} {rest : List Message}
      (late : Late carried₀ store book summary [outcome.id] (rest.map Message.id) [])
      (failed : summary.storeFailures = 1) (none : carried = []) :
      Stands carried₀ store carried book (.waiting (.keeping summary outcome rest))
  | releasing {summary : BatchSummary} {rest : List Message}
      (late : Late carried₀ store book summary (carried.map Outcome.id) (rest.map Message.id) [])
      (failures : summary.storeFailures = carried.length) (few : carried.length ≤ 1) :
      Stands carried₀ store carried book (.waiting (.releasing summary rest))
  | done {summary : BatchSummary} {back : List MessageId}
      (late : Late carried₀ store book summary (carried.map Outcome.id) [] back)
      (failures : summary.storeFailures = carried.length) (few : carried.length ≤ 1) :
      Stands carried₀ store carried book (.finished (.ok summary))
  | failed {summary : BatchSummary} {failure : StoreFailure}
      (early : Early carried₀ carried book summary) :
      Stands carried₀ store carried book (.finished (.error failure))

/-! ## Before the fetch -/

section Early

variable {carried₀ carried : List Outcome} {store : Store} {book : Book} {summary : BatchSummary}
  {outcome : Outcome}

theorem early_blank (carried : List Outcome) : Early carried carried .empty .blank :=
  ⟨rfl, rfl, rfl, rfl, rfl, .blank, rfl, rfl, rfl⟩

/-- The first of the outcomes that are ahead is settled. -/
theorem Early.settle (h : Early carried₀ (outcome :: carried) book summary)
    (result : RecordResult) :
    Early carried₀ carried (book.add ⟨[], [], [⟨outcome, result⟩], [], []⟩)
      (Batching.settle outcome result summary).1.countRecovered := by
  obtain ⟨-, hfailures, hreleased, hrecovered⟩ := Batching.settle_frame outcome result summary
  have hcounts := h.counts.settle ⟨outcome, result⟩
  constructor
  case fetched => simp [h.fetched]
  case handed => simp [h.handed]
  case settled => simp [h.settled]
  case returned => simp [h.returned]
  case outcomes => simp [← h.outcomes]
  case counts => exact { hcounts with }
  case recovered => simp [BatchSummary.countRecovered, hrecovered, h.recovered]
  case storeFailures => exact hfailures.trans h.storeFailures
  case released => exact hreleased.trans h.released

/-- The batch goes on with the carried outcomes, and then with a fetch. -/
theorem Early.next (h : Early carried₀ carried book summary) :
    Stands carried₀ store carried book (Batching.recoverNext summary carried).progress := by
  cases carried with
  | nil => exact .fetching h rfl
  | cons outcome later => exact .recovering h rfl

theorem Early.settled_next (h : Early carried₀ (outcome :: carried) book summary)
    (result : RecordResult) :
    Stands carried₀ store carried (book.add ⟨[], [], [⟨outcome, result⟩], [], []⟩)
      (Batching.recovered summary outcome result carried).2.progress :=
  (h.settle result).next

/-- Messages are claimed. -/
theorem Early.fetch (h : Early carried₀ [] book summary) {store' : Store} {limit : Nat}
    {batch : List Message} (hs : store.Sound) (fetched : store.Fetched limit batch store') :
    Late carried₀ store' (book.add ⟨batch.map Message.id, [], [], [], []⟩)
      { summary with fetched := batch.length } [] (batch.map Message.id) [] := by
  have houtcomes := h.outcomes
  rw [List.append_nil] at houtcomes
  have hcounts : BatchSummary.Counts { summary with fetched := batch.length } book.recovered :=
    { h.counts with }
  constructor
  case fetched => simp [h.fetched, h.handed]
  case handed => simp [Book.settledIds, h.handed, h.settled]
  case returned => simp [h.returned]
  case once => simpa [h.fetched] using fetched.nodup hs
  case outcomes => simpa using houtcomes
  case counts => simpa [h.settled] using hcounts
  case recovered => simpa using h.recovered
  case claims => simp [h.fetched]
  case released => exact h.released
  case held => exact fun id hid => held_of_fetched fetched hid
  case settled => simp [Book.settledIds, h.settled]
  case free => exact fun _ hid => absurd hid List.not_mem_nil

end Early

/-! ## After the fetch -/

section Late

variable {carried₀ carried : List Outcome} {store store' : Store} {book : Book}
  {summary : BatchSummary} {outcome : Outcome} {sent rest back : List MessageId}

theorem Late.of_drifts (h : Late carried₀ store book summary sent rest back)
    (drifts : Drifts store store') : Late carried₀ store' book summary sent rest back :=
  { h with
    held := fun id hid => (h.held id hid).of_drifts drifts
    settled := fun id hid => drifts.settled (h.settled id hid)
    free := fun id hid => drifts.unclaimed (h.free id hid) }

/-- A message is handed to the broker. -/
theorem Late.hand {id : MessageId} (h : Late carried₀ store book summary [] (id :: rest) []) :
    Late carried₀ store (book.add ⟨[], [id], [], [], []⟩) summary [id] rest [] := by
  constructor
  case fetched => simp [h.fetched]
  case handed => simpa [Book.settledIds] using h.handed
  case returned => simpa using h.returned
  case once => simpa using h.once
  case outcomes => simpa using h.outcomes
  case counts => simpa using h.counts
  case recovered => simpa using h.recovered
  case claims => simpa using h.claims
  case released => exact h.released
  case held => exact h.held
  case settled => simpa [Book.settledIds] using h.settled
  case free => exact h.free

/-- The outcome of the message that was handed over last is settled. -/
theorem Late.settle (h : Late carried₀ store book summary [outcome.id] rest [])
    (settled : Settled store outcome.id) (result : RecordResult) :
    Late carried₀ store (book.add ⟨[], [], [], [⟨outcome, result⟩], []⟩)
      (Batching.settle outcome result summary).1 [] rest [] := by
  obtain ⟨hfetched, -, hreleased, hrecovered⟩ := Batching.settle_frame outcome result summary
  have hcounts := h.counts.settle ⟨outcome, result⟩
  constructor
  case fetched => simpa using h.fetched
  case handed => simpa [Book.settledIds] using h.handed
  case returned => simpa using h.returned
  case once => simpa using h.once
  case outcomes => simpa using h.outcomes
  case counts => simpa using hcounts
  case recovered => simpa [hrecovered] using h.recovered
  case claims => simpa [hfetched] using h.claims
  case released => exact hreleased.trans h.released
  case held => exact fun id hid => h.held id (List.mem_cons_of_mem _ hid)
  case settled =>
    intro id hid
    rw [Book.settledIds_add, List.mem_append] at hid
    rcases hid with hid | hid
    · exact h.settled id hid
    · obtain rfl := List.mem_singleton.mp hid
      exact settled
  case free => exact h.free

/-- The messages that were not handed over are given back. -/
theorem Late.giveBack (h : Late carried₀ store book summary sent rest [])
    (released : store.Released rest store') :
    Late carried₀ store' (book.add ⟨[], [], [], [], rest⟩) (summary.countReleased rest.length) sent
      [] rest := by
  have hcounts : (summary.countReleased rest.length).Counts (book.recovered ++ book.settled) :=
    { h.counts with }
  -- every message was claimed once, so the claims on those handed over are not given back
  have honce : (book.settledIds ++ (sent ++ rest)).Nodup := by
    simpa [h.fetched, h.handed] using h.once
  have hdisjoint : ∀ id ∈ sent, id ∉ rest := fun id hsent hrest =>
    (List.nodup_append.mp (List.nodup_append.mp honce).2.1).2.2 id hsent id hrest rfl
  constructor
  case fetched => simpa using h.fetched
  case handed => simpa [Book.settledIds] using h.handed
  case returned => simp [h.returned]
  case once => simpa using h.once
  case outcomes => simpa using h.outcomes
  case counts => simpa using hcounts
  case recovered => simpa [BatchSummary.countReleased] using h.recovered
  case claims => simpa [BatchSummary.countReleased] using h.claims
  case released => simp [BatchSummary.countReleased, h.released]
  case held =>
    intro id hid
    rw [List.append_nil] at hid
    exact (h.held id (List.mem_append_left _ hid)).of_released released (hdisjoint id hid)
  case settled =>
    intro id hid
    obtain ⟨status, hstatus, hne⟩ := h.settled id (by simpa [Book.settledIds] using hid)
    exact ⟨status, (released.status? id).trans hstatus, hne⟩
  case free => exact fun id hid hclaimed => (released.mem_claimed.mp hclaimed).2 hid

/-- The batch goes on with the next message, ends, or is cut short. -/
theorem Late.next {rest : List Message}
    (h : Late carried₀ store book summary [] (rest.map Message.id) [])
    (unfailed : summary.storeFailures = 0) (stop : Bool) :
    Stands carried₀ store [] book (Batching.publishNext stop summary rest).progress := by
  cases rest with
  | nil => exact .done h unfailed (Nat.zero_le 1)
  | cons m rest =>
    cases stop with
    | true => exact .releasing h unfailed (Nat.zero_le 1)
    | false => exact .publishing h unfailed rfl

/-- An outcome has been carried over, and the batch is cut short if it has not come to its end. -/
theorem Late.last {rest : List Message}
    (h : Late carried₀ store book summary [outcome.id] (rest.map Message.id) [])
    (failed : summary.storeFailures = 1) :
    Stands carried₀ store [outcome] book (Batching.giveBack summary rest).progress := by
  cases rest with
  | nil => exact .done h failed (Nat.le_refl 1)
  | cons m rest => exact .releasing h failed (Nat.le_refl 1)

end Late

/-! ## Turns -/

section Turns

variable {carried₀ carried : List Outcome} {store store' : Store} {book : Book}
  {progress : Progress Batching (Except StoreFailure BatchSummary)}

/-- What others do does not change where a batch stands. -/
theorem Stands.of_drifts (h : Stands carried₀ store carried book progress)
    (drifts : Drifts store store') : Stands carried₀ store' carried book progress := by
  cases h with
  | opening early => exact .opening early
  | recovering early first => exact .recovering early first
  | freeing early => exact .freeing early
  | fetching early none => exact .fetching early none
  | publishing late unfailed none => exact .publishing (late.of_drifts drifts) unfailed none
  | recording late unfailed none records publishing due =>
    exact .recording (late.of_drifts drifts) unfailed none records publishing
      fun hdue => drifts.settled (due hdue)
  | keeping late failed none => exact .keeping (late.of_drifts drifts) failed none
  | releasing late failures few => exact .releasing (late.of_drifts drifts) failures few
  | done late failures few => exact .done (late.of_drifts drifts) failures few
  | failed early => exact .failed early

/-- A recording claims no messages and hands none to the broker. -/
theorem record_claims (c : Config) (record : Recording) (answer : (record.request c).Answer) :
    (record.request c).claims answer = [] ∧ (record.request c).handed? = none := by
  cases record <;> exact ⟨rfl, rfl⟩

variable {c : Config} {summary : BatchSummary} {outcome : Outcome} {record : Recording}
  {rest : List Message}

theorem entry_recovering {answer : (record.request c).Answer} :
    (Batching.recovering summary outcome record).entry c answer =
      ⟨[], [], ((Batching.recovering summary outcome record).recovers? c answer).toList, [],
        []⟩ := by
  obtain ⟨hclaims, hhanded⟩ := record_claims c record answer
  simp only [Batching.entry, Batching.request, Batching.settles?, Batching.returns]
  rw [hclaims, hhanded]
  rfl

theorem entry_recording {answer : (record.request c).Answer} :
    (Batching.recording summary outcome rest record).entry c answer =
      ⟨[], [], [], ((Batching.recording summary outcome rest record).settles? c answer).toList,
        []⟩ := by
  obtain ⟨hclaims, hhanded⟩ := record_claims c record answer
  simp only [Batching.entry, Batching.request, Batching.recovers?, Batching.returns]
  rw [hclaims, hhanded]
  rfl

variable {s mid : System} {t : TaskId} {call : Call} {fate : Fate} {stop : Bool}

/-- A turn of the recording of a carried outcome. -/
theorem Early.turn (h : Early carried₀ carried book summary) {later : List Outcome}
    (first : carried = outcome :: later) (answer : (record.request c).Answer) :
    Stands carried₀ store
      ((Batching.recovering summary outcome record).resume c stop carried answer).1
      (book.add ((Batching.recovering summary outcome record).entry c answer))
      ((Batching.recovering summary outcome record).resume c stop carried answer).2.progress := by
  subst first
  rw [entry_recovering]
  cases hp : (record.resume c answer).progress with
  | waiting record' =>
    simp only [Batching.resume, Batching.recovers?, hp]
    exact .recovering ((Book.add_empty book).symm ▸ h) rfl
  | finished result =>
    rcases result with failure | (change | _ | current) <;>
      simp only [Batching.resume, Batching.recovers?, hp]
    · exact .failed ((Book.add_empty book).symm ▸ h)
    · exact h.settled_next (.recorded change)
    · exact .freeing ((Book.add_empty book).symm ▸ h)
    · exact .freeing ((Book.add_empty book).symm ▸ h)

/-- The outcome of the message that was handed over last has been settled. -/
theorem Late.settled_next
    (h : Late carried₀ store book summary [outcome.id] (rest.map Message.id) [])
    (unfailed : summary.storeFailures = 0) (settled : Settled store outcome.id)
    {answer : (record.request c).Answer} {result : RecordResult}
    (finished : (record.resume c answer).progress = .finished (.ok result)) :
    Stands carried₀ store []
      (book.add ((Batching.recording summary outcome rest record).entry c answer))
      ((Batching.recording summary outcome rest record).resume c stop [] answer).2.progress := by
  rw [entry_recording]
  simp only [Batching.resume, Batching.settles?, Turn.andThen_of_finished finished, finished]
  have hfailures := (Batching.settle_frame outcome result summary).2.1
  exact (h.settle settled result).next (hfailures.trans unfailed) stop

/-- A turn of the recording of an outcome of the batch. -/
theorem Late.turn
    (h : Late carried₀ s.store book summary [outcome.id] (rest.map Message.id) [])
    (unfailed : summary.storeFailures = 0) (records : record.outcome = outcome)
    (publishing : outcome.IsOfPublishing) (due : record.due? ≠ none → Settled s.store outcome.id)
    {answer : (record.request c).Answer} (hs : s.store.Sound)
    (answered : s.answer? t call fate (record.request c) = some (answer, mid)) :
    Stands carried₀ mid.store []
      (book.add ((Batching.recording summary outcome rest record).entry c answer))
      ((Batching.recording summary outcome rest record).resume c stop [] answer).2.progress := by
  have hheld := h.held outcome.id (List.mem_cons_self ..)
  have hrecord := recordTurn hs answered
  generalize hp : (record.resume c answer).progress = progress at hrecord
  subst records
  cases hrecord with
  | waits houtcome hdue _ hstore =>
    have drifts : Drifts s.store mid.store := .same hstore
    rw [entry_recording]
    simp only [Batching.resume, Batching.settles?, Turn.andThen_of_waiting hp, hp]
    refine .recording ((Book.add_empty book).symm ▸ h.of_drifts drifts) unfailed rfl houtcome
      publishing fun hne => drifts.settled (due (hdue ▸ hne))
  | moves _ hstore =>
    rw [entry_recording]
    simp only [Batching.resume, Batching.settles?, Turn.andThen_of_waiting hp, hp]
    refine .recording ((Book.add_empty book).symm ▸ h.of_drifts (.moved hstore)) unfailed rfl rfl
      publishing fun _ => settled_of_moved hstore
  | appends hrec hstore =>
    have hsettled := due (by rw [hrec]; exact Option.some_ne_none _)
    exact (h.of_drifts (.same hstore)).settled_next unfailed ((Drifts.same hstore).settled hsettled)
      hp
  | unknown _ hstatus =>
    have hknown := hheld.known
    rw [hstatus] at hknown
    cases hknown
  | @refused current _ hstatus hillegal hstore =>
    -- from pending both outcomes of publishing are legal
    have hsettled : Settled s.store record.outcome.id := by
      refine ⟨current, hstatus, ?_⟩
      rintro rfl
      rcases publishing with htarget | htarget <;> rw [htarget] at hillegal
      · exact hillegal .enqueue
      · exact hillegal .refuse
    exact (h.of_drifts (.same hstore)).settled_next unfailed ((Drifts.same hstore).settled hsettled)
      hp
  | fails _ hstore =>
    rw [entry_recording]
    simp only [Batching.resume, Batching.settles?, Turn.andThen_of_finished hp, hp]
    have hlate := h.of_drifts (.same hstore)
    refine .keeping ?_ (congrArg (· + 1) unfailed) rfl
    rw [show book.add ⟨[], [], [], Option.none.toList, []⟩ = book from Book.add_empty book]
    exact { hlate with counts := { hlate.counts with } }

/-- **One turn of a batch.** -/
theorem Stands.turn {batch : Batching} (h : Stands carried₀ s.store carried book (.waiting batch))
    (hs : s.store.Sound) {answer : (batch.request c).Answer}
    (answered : s.answer? t call fate (batch.request c) = some (answer, mid))
    (released : (batch.request c).unreleased answer = []) :
    Stands carried₀ mid.store (batch.resume c stop carried answer).1
      (book.add (batch.entry c answer)) (batch.resume c stop carried answer).2.progress := by
  cases h with
  | opening early => exact ((Book.add_empty book).symm ▸ early).next
  | recovering early first => exact early.turn first answer
  | freeing early =>
    change Except StoreFailure Unit at answer
    rcases answer with failure | ⟨⟩
    · exact early.settled_next _
    · exact early.settled_next _
  | fetching early none =>
    subst none
    obtain ⟨store, rfl, ⟨reason, rfl, -⟩ | ⟨batch, rfl, hfetched⟩⟩ := answer_fetch hs answered
    · exact .failed ((Book.add_empty book).symm ▸ early)
    · exact (early.fetch hs hfetched).next early.storeFailures false
  | publishing late unfailed none =>
    subst none
    obtain ⟨broker, rfl, -⟩ := answer_publish answered
    change Except BrokerFailure Unit at answer
    rcases answer with failure | ⟨⟩
    · exact .recording late.hand unfailed rfl rfl (.inr rfl) fun hne => absurd rfl hne
    · exact .recording late.hand unfailed rfl rfl (.inl rfl) fun hne => absurd rfl hne
  | recording late unfailed none records publishing due =>
    subst none
    exact late.turn unfailed records publishing due hs answered
  | keeping late failed none =>
    subst none
    obtain ⟨rfl, -⟩ := answer_enter answered
    exact ((Book.add_empty book).symm ▸ late).last failed
  | releasing late failures few =>
    obtain ⟨store, rfl, ⟨reason, rfl, hsame⟩ | ⟨rfl, hreleased⟩⟩ := answer_release answered
    · -- only a release of nothing may fail
      obtain rfl := List.map_eq_nil_iff.mp released
      exact .done ((Book.add_empty book).symm ▸ late.of_drifts (.same hsame)) failures few
    · have hlate := late.giveBack hreleased
      rw [List.length_map] at hlate
      exact .done hlate failures few

end Turns

/-! ## The course of a batch -/

/-- A call that publishes a batch is where the batch stands. -/
structure Keeps (c : Config) (p : PublisherId) (t : TaskId) (carried₀ : List Outcome)
    (beats : List Beat) (s : System)
    (progress : Progress Batching (Except StoreFailure BatchSummary)) : Prop where
  call : ∃ since, s.calls.get? t =
    progress.look (fun batch => some ⟨c, .batching p batch, since⟩) none
  results : results beats = (progress.outcome?.map Result.batched).toList
  stands : Stands carried₀ s.store (s.carriedOf p) (bookOf beats) progress

section Course

variable {c : Config} {p : PublisherId} {t : TaskId} {carried₀ : List Outcome} {beats : List Beat}
  {s s' mid : System} {progress : Progress Batching (Except StoreFailure BatchSummary)}

/-- What is left of a call that publishes a batch after its turn. -/
theorem Turned.batching_next {batch : Batching} {since : Nat}
    {answer : (Call.request ⟨c, .batching p batch, since⟩).Answer} {stop : Bool}
    {result : Option Result}
    (h : Turned s t ⟨c, .batching p batch, since⟩ answer stop result mid s') :
    result = (batch.resume c stop (s.carriedOf p) answer).2.progress.outcome?.map .batched ∧
    s'.carriedOf p = (batch.resume c stop (s.carriedOf p) answer).1 ∧
    s'.calls.get? t = (batch.resume c stop (s.carriedOf p) answer).2.progress.look
      (fun next => some ⟨c, .batching p next, s.now⟩) none := by
  have hturn : s.turnOf ⟨c, .batching p batch, since⟩ stop answer =
      ((batch.resume c stop (s.carriedOf p) answer).1,
        (batch.resume c stop (s.carriedOf p) answer).2.andThen (.batching p) fun summary =>
          .finish (.batched summary)) := rfl
  have hcalls := (h.calls t).trans (if_pos rfl)
  have hresult := h.result
  have hcarried := (h.carried p).trans (if_pos rfl)
  rw [hturn] at hcalls hresult hcarried
  refine ⟨?_, hcarried, ?_⟩
  all_goals
    cases hp : (batch.resume c stop (s.carriedOf p) answer).2.progress with
    | waiting next =>
      rw [Turn.andThen_of_waiting hp] at hcalls hresult
      assumption
    | finished outcome =>
      rw [Turn.andThen_of_finished hp] at hcalls hresult
      assumption

/-- A turn of the call. -/
theorem Keeps.turn (h : Keeps c p t carried₀ beats s progress) (hs : s.store.Sound) {call : Call}
    {answer : call.request.Answer} {result : Option Result}
    (step : Step s (.turn t call answer result) s')
    (released : call.request.unreleased answer = []) :
    ∃ progress', Keeps c p t carried₀ (beats ++ [⟨s, call, answer, result, s'⟩]) s' progress' := by
  obtain ⟨stop, mid, hturn⟩ := step.turned
  obtain ⟨since, hcall⟩ := h.call
  cases progress with
  | finished outcome => cases hcall.symm.trans hturn.found
  | waiting batch =>
    cases hcall.symm.trans hturn.found
    obtain ⟨fate, answered⟩ := hturn.answered
    obtain ⟨rfl, hcarried, hnext⟩ := hturn.batching_next
    refine ⟨_, ⟨s.now, hnext⟩, ?_, ?_⟩
    · rw [results_snoc, h.results]
      rfl
    · rw [bookOf_snoc, hcarried, hturn.store]
      exact h.stands.turn hs answered released

/-- What goes on around the call. -/
theorem Keeps.meanwhile (h : Keeps c p t carried₀ beats s progress) (beside : Beside t p s s') :
    Keeps c p t carried₀ beats s' progress := by
  obtain ⟨since, hcall⟩ := h.call
  refine ⟨⟨since, beside.apart.call.trans hcall⟩, h.results, ?_⟩
  rw [beside.carried]
  exact h.stands.of_drifts beside.store

/-- **Whatever goes on around it**, a call that publishes a batch is where the batch stands. -/
theorem Course.keeps {s₀ : System} {since : Nat} (course : Course (Beside t p) t s₀ beats s)
    (begun : s₀.calls.get? t = some ⟨c, .batching p .opening, since⟩) (hs : s₀.store.Sound)
    (released : ∀ b ∈ beats, b.call.request.unreleased b.answer = []) :
    ∃ progress, Keeps c p t (s₀.carriedOf p) beats s progress := by
  induction course with
  | begin => exact ⟨.waiting .opening, ⟨since, begun⟩, rfl, .opening (early_blank _)⟩
  | meanwhile _ beside ih =>
    obtain ⟨progress, hkeeps⟩ := ih released
    exact ⟨progress, hkeeps.meanwhile beside⟩
  | turn course step ih =>
    obtain ⟨hbefore, hlast⟩ := List.forall_mem_append.mp released
    obtain ⟨progress, hkeeps⟩ := ih hbefore
    exact hkeeps.turn (course.sound Beside.apart hs) step (hlast _ (List.mem_singleton_self _))

end Course

/-! ## The accounts -/

/-- The accounts of a batch that came to a summary: `carried₀` are the outcomes that were carried
over to it, and `carried` those that are carried over from it. -/
structure Balanced (carried₀ carried : List Outcome) (store : Store) (book : Book)
    (summary : BatchSummary) : Prop where
  /-- Every message that was claimed and every outcome taken over is counted once. -/
  balance : summary.fetched + summary.recovered = summary.enqueued + summary.notEnqueued +
    summary.dropped + summary.storeFailures + summary.released
  claims : summary.fetched = book.fetched.length
  released : summary.released = book.returned.length
  counts : summary.Counts (book.recovered ++ book.settled)
  /-- All outcomes that were carried over to the batch are settled, in their order. -/
  recovered : summary.recovered = carried₀.length
  outcomes : book.recovered.map Settlement.outcome = carried₀
  /-- One outcome at most is carried over from it. -/
  storeFailures : summary.storeFailures = carried.length
  few : carried.length ≤ 1
  /-- The messages that were handed over are the first of those claimed, and the messages that were
  given back are the others. -/
  split : book.fetched = book.handed ++ book.returned
  once : book.fetched.Nodup
  /-- Of the messages that were handed over all are settled but the one that is carried over. -/
  handed : book.handed = book.settledIds ++ carried.map Outcome.id
  settled : ∀ id ∈ book.settledIds, Settled store id ∧ id ∉ store.claimed
  kept : ∀ id ∈ carried.map Outcome.id,
    (id ∈ store.claimed ↔ store.status? id = some .pending)
  returned : ∀ id ∈ book.returned, id ∉ store.claimed

/-- The accounts of a batch that failed: nothing was claimed, and of the outcomes that were carried
over the first may have been settled. -/
structure Untouched (carried₀ carried : List Outcome) (book : Book) : Prop where
  fetched : book.fetched = []
  handed : book.handed = []
  settled : book.settled = []
  returned : book.returned = []
  outcomes : book.recovered.map Settlement.outcome ++ carried = carried₀

theorem Late.balanced {carried₀ carried : List Outcome} {store : Store} {book : Book}
    {summary : BatchSummary} {back : List MessageId} (hs : store.Sound)
    (h : Late carried₀ store book summary (carried.map Outcome.id) [] back)
    (failures : summary.storeFailures = carried.length) (few : carried.length ≤ 1) :
    Balanced carried₀ carried store book summary := by
  have hreturned := h.returned
  subst hreturned
  have hcarried₀ : book.recovered.length = carried₀.length := by
    rw [← h.outcomes, List.length_map]
  refine
    { balance := ?_
      claims := h.claims
      released := h.released
      counts := h.counts
      recovered := h.recovered.trans hcarried₀
      outcomes := h.outcomes
      storeFailures := failures
      few := few
      split := h.fetched
      once := h.once
      handed := h.handed
      settled := fun id hid => ⟨h.settled id hid, (h.settled id hid).unclaimed hs⟩
      kept := fun id hid => (h.held id (List.mem_append_left _ hid)).claimed_iff hs
      returned := h.free }
  have htotal := h.counts.total
  have hfetched := congrArg List.length h.fetched
  have hhanded := congrArg List.length h.handed
  simp only [List.length_append, List.length_nil, List.length_map, Book.settledIds]
    at htotal hfetched hhanded
  have hclaims := h.claims
  have hrecovered := h.recovered
  have hreleased := h.released
  omega

/-- **Every message of a batch comes to one end.** Take the publication of a batch, whatever goes on
around it, as long as nobody else claims messages or gives claims back, the publisher's carried
outcomes are left to the batch, and claims can be given back. When it has come to its end, then it
came either to a summary, which accounts for all its messages, or to a failure, and then it has
claimed none. -/
theorem batch_balanced {c : Config} {p : PublisherId} {t : TaskId} {s₀ s : System} {since : Nat}
    {beats : List Beat} (begun : s₀.calls.get? t = some ⟨c, .batching p .opening, since⟩)
    (sound : s₀.store.Sound) (course : Course (Beside t p) t s₀ beats s)
    (released : ∀ b ∈ beats, b.call.request.unreleased b.answer = []) :
    ((s.calls.get? t).isSome ∧ results beats = []) ∨
    (∃ summary, results beats = [.batched (.ok summary)] ∧
      Balanced (s₀.carriedOf p) (s.carriedOf p) s.store (bookOf beats) summary) ∨
    ∃ failure, results beats = [.batched (.error failure)] ∧
      Untouched (s₀.carriedOf p) (s.carriedOf p) (bookOf beats) := by
  obtain ⟨progress, ⟨since', hcall⟩, hresults, hstands⟩ := course.keeps begun sound released
  have hs := course.sound Beside.apart sound
  cases hstands with
  | done late failures few =>
    exact .inr (.inl ⟨_, hresults, late.balanced hs failures few⟩)
  | failed early =>
    exact .inr (.inr ⟨_, hresults, early.fetched, early.handed, early.settled, early.returned,
      early.outcomes⟩)
  | opening | recovering | freeing | fetching | publishing | recording | keeping | releasing =>
    exact .inl ⟨by rw [hcall]; rfl, hresults⟩

/-- A batch leaves behind an outcome that could not be recorded. Then three more messages are put
in, and the next batch begins. -/
def carryingMoves : List Move :=
  let config := { Config.default with storeRetries := 0 }
  let served := Fate.served .epoch default
  [.outside (.insert (.ofNat 1) default .epoch),
    .start 0 config (.batch 0),
    .turn 0 served false,
    .turn 0 served false,
    .turn 0 served false,
    .turn 0 (.storeDown "out of reach") false,
    .turn 0 served false,
    .outside (.insert (.ofNat 2) default .epoch),
    .outside (.insert (.ofNat 3) default .epoch),
    .outside (.insert (.ofNat 4) default .epoch),
    .start 0 config (.batch 0)]

/-- The outcome is recorded and three messages are claimed. The first of them is published; the
outcome of the second is carried over; and the third, which somebody else records as refused in the
meantime, is given back. -/
def halfwayMoves : List Move :=
  let served := Fate.served .epoch default
  [.turn 0 served false,
    .turn 0 served false,
    .turn 0 served false,
    .turn 0 served false,
    .turn 0 served false,
    .turn 0 served false,
    .turn 0 served false,
    .turn 0 served false,
    .start 1 .default (.record ⟨.ofNat 4, .notEnqueued, none⟩),
    .turn 1 served false,
    .turn 0 (.storeDown "out of reach") false,
    .turn 0 served false,
    .turn 0 served false]

/-- A task is not given another call, claims can be given back, and the other steps are beside the
batches of a publisher. -/
def LeftAlone (t : TaskId) (p : PublisherId) (trace : List Moment) : Prop :=
  ∀ moment ∈ trace, moment.event.isStartOf t = false ∧ moment.event.unreleased = [] ∧
    (moment.event.isTurnOf t = false → moment.event.isBeside p = true)

instance (t : TaskId) (p : PublisherId) (trace : List Moment) : Decidable (LeftAlone t p trace) :=
  inferInstanceAs (Decidable (∀ moment ∈ trace, _))

theorem batch_balanced_halfway : ∃ s₀ s since beats summary,
    s₀.calls.get? 0 = some ⟨{ Config.default with storeRetries := 0 }, .batching 0 .opening, since⟩ ∧
    s₀.store.Sound ∧ Course (Beside 0 0) 0 s₀ beats s ∧
    (∀ b ∈ beats, b.call.request.unreleased b.answer = []) ∧
    results beats = [.batched (.ok summary)] ∧
    Balanced [⟨.ofNat 1, .enqueued, none⟩] [⟨.ofNat 3, .enqueued, none⟩] s.store (bookOf beats)
      summary := by
  obtain ⟨before, s₀, first, ⟨begun, hcarried₀⟩, hlater⟩ := exists_run carryingMoves (s := .initial)
    (P := fun _ s₀ => (s₀.calls.get? 0 =
        some ⟨{ Config.default with storeRetries := 0 }, .batching 0 .opening, 0⟩ ∧
      s₀.carriedOf 0 = [⟨.ofNat 1, .enqueued, none⟩]) ∧
      (s₀.play? halfwayMoves).any (fun p => decide (LeftAlone 0 0 p.1 ∧
        p.2.calls.get? 0 = none ∧ p.2.carriedOf 0 = [⟨.ofNat 3, .enqueued, none⟩])) = true)
    (by decide +kernel)
  obtain ⟨trace, s, run, alone, ended, hcarried⟩ := exists_run halfwayMoves
    (P := fun trace s => LeftAlone 0 0 trace ∧ s.calls.get? 0 = none ∧
      s.carriedOf 0 = [⟨.ofNat 3, .enqueued, none⟩]) hlater
  obtain ⟨-, hsound⟩ := run.sound_of_mem first.sound
  obtain ⟨beats, course, hbeats⟩ : ∃ beats, Course (Beside 0 0) 0 s₀ beats s ∧ _ :=
    run.course fun moment hmem hturn _ h =>
      h.beside (hsound moment hmem) (alone moment hmem).1 hturn ((alone moment hmem).2.2 hturn)
  have released : ∀ b ∈ beats, b.call.request.unreleased b.answer = [] := fun b hb =>
    (alone (b.moment 0) (List.mem_of_mem_filter (hbeats ▸ List.mem_map_of_mem hb))).2.1
  rcases batch_balanced begun first.sound course released with ⟨hcall, -⟩ |
    ⟨summary, hresults, hbalanced⟩ | ⟨failure, -, huntouched⟩
  · rw [ended] at hcall
    cases hcall
  · rw [hcarried₀, hcarried] at hbalanced
    exact ⟨s₀, s, 0, beats, summary, begun, first.sound, course, released, hresults, hbalanced⟩
  · -- a failed batch carries over no new outcome
    have houtcomes := huntouched.outcomes
    rw [hcarried₀, hcarried] at houtcomes
    cases List.append_eq_singleton_iff.mp houtcomes with
    | inl h => cases h.2
    | inr h => cases h.2

end Interplay

end Outbox
