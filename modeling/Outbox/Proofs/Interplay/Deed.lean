import Outbox.Proofs.Interplay.Record
/-!
# `Proofs.Interplay.Deed` — what a publisher's turn does with the messages it holds

A publisher holds messages in two places. A batch in progress has some *in hand*: those that it has
claimed and not yet published, the one whose outcome it is recording, and those whose claims it is
giving back. The others are those of the outcomes that the publisher carries over. A turn of a call
of the publisher is one *deed*, which moves messages between these places, takes in new ones, or
lets go of some. `deed_of_batching` and `deed_of_publishing` say which deeds there are.
-/

namespace Outbox

/-- Whether an outcome is one of publishing. -/
def Outcome.IsOfPublishing (outcome : Outcome) : Prop :=
  outcome.target = .enqueued ∨ outcome.target = .notEnqueued

/-- What a call of a publisher has in hand. -/
structure Hand where
  /-- The messages that are claimed and not yet published. -/
  unsent : List MessageId
  /-- The outcome that is neither recorded nor carried over yet. -/
  outcome : Option Outcome
  /-- The messages whose claims are being given back. -/
  leaving : List MessageId

namespace Hand

/-- Nothing in hand. -/
def empty : Hand :=
  ⟨[], none, []⟩

/-- The messages in hand. -/
def ids (hand : Hand) : List MessageId :=
  hand.unsent ++ ((hand.outcome.map Outcome.id).toList ++ hand.leaving)

@[simp]
theorem ids_empty : empty.ids = [] := rfl

theorem mem_ids {hand : Hand} {id : MessageId} : id ∈ hand.ids ↔
    id ∈ hand.unsent ∨ (∃ outcome, hand.outcome = some outcome ∧ outcome.id = id) ∨
      id ∈ hand.leaving := by
  simp [ids]

end Hand

namespace Batching

/-- What a batch has in hand. -/
def hand : Batching → Hand
  | .publishing _ m rest => ⟨(m :: rest).map Message.id, none, []⟩
  | .recording _ outcome rest _ | .keeping _ outcome rest => ⟨rest.map Message.id, some outcome, []⟩
  | .freeing _ outcome _ => ⟨[], none, [outcome.id]⟩
  | .releasing _ rest => ⟨[], none, rest.map Message.id⟩
  | .opening | .recovering .. | .fetching _ => .empty

/-- What a batch records are outcomes of publishing, and a carried outcome that it records is the
first of those that the publisher carries. -/
def Fits (carried : List Outcome) : Batching → Prop
  | .recovering _ outcome record => record.outcome = outcome ∧ carried.head? = some outcome
  | .recording _ outcome _ record => record.outcome = outcome ∧ outcome.IsOfPublishing
  | .keeping _ outcome _ => outcome.IsOfPublishing
  | .opening | .freeing .. | .fetching _ | .publishing .. | .releasing .. => True

end Batching

namespace Publishing

/-- What the publisher's loop has in hand. -/
def hand : Publishing → Hand
  | .batching batch => batch.hand
  | .releasing ids => ⟨[], none, ids⟩
  | .starting | .pausing _ | .abandoning => .empty

/-- Whether the loop is about to give up the carried outcomes. -/
def isAbandoning : Publishing → Bool
  | .abandoning => true
  | .starting | .batching _ | .pausing _ | .releasing _ => false

/-- The batch of the loop fits to the carried outcomes. -/
def Fits (carried : List Outcome) : Publishing → Prop
  | .batching batch => batch.Fits carried
  | .starting | .pausing _ | .abandoning | .releasing _ => True

end Publishing

/-- What is recorded of a receipt is what it reports. -/
def Handling.Fits : Handling → Prop
  | .recording r _ record => record.outcome = r.outcome ∧ record.Agrees
  | .rechecking _ _ => True

/-- The receipt that the loop handles is recorded as it reports. -/
def Consuming.Fits : Consuming → Prop
  | .handling _ work => work.Fits
  | .starting _ | .listening _ | .pausing .. | .reconnecting _ | .subscribing _ => True

namespace Request

/-- The message that the broker has taken. -/
def accepted? : (r : Request) → r.Answer → Option MessageId
  | .publish _ m, answer =>
    match (answer : Except BrokerFailure Unit) with
    | .ok () => some m.id
    | .error _ => none
  | _, _ => none

/-- The messages whose claims could not be ended. -/
def unreleased : (r : Request) → r.Answer → List MessageId
  | .release ids, answer =>
    match (answer : Except StoreFailure Unit) with
    | .ok () => []
    | .error _ => ids
  | _, _ => []

end Request

namespace Interplay

/-- What a turn of a call of a publisher does with the messages that the publisher holds: from what
the call has in hand to what the publisher carries then and the call then has in hand. The broker
may have `accepted` a message, and the claims on some may be `unreleased` although they were to end;
`stopping` tells whether the loop of the publisher is about to end. -/
inductive Deed (s s' : Store) (accepted : Option MessageId) (unreleased : List MessageId)
    (stopping : Bool) (carried : List Outcome) : Hand → List Outcome → Hand → Prop
  /-- All stays where it is. -/
  | rests {hand : Hand} (store : s.Same s') (took : accepted = none) (freed : unreleased = []) :
      Deed s s' accepted unreleased stopping carried hand carried hand
  /-- The status of a message is moved to the outcome that the publisher holds for it. -/
  | moves {hand : Hand} {outcome : Outcome} {old : Status}
      (held : hand.outcome = some outcome ∨ carried.head? = some outcome)
      (store : s.Moved outcome.id old outcome.target s') (took : accepted = none)
      (freed : unreleased = []) : Deed s s' accepted unreleased stopping carried hand carried hand
  /-- New messages are claimed. -/
  | fetches {limit : Nat} {batch : List Message} (store : s.Fetched limit batch s')
      (took : accepted = none) (freed : unreleased = []) :
      Deed s s' accepted unreleased stopping carried .empty carried ⟨batch.map Message.id, none, []⟩
  /-- The broker takes a message, or does not. -/
  | sends {id : MessageId} {rest : List MessageId} {outcome : Outcome} (same : outcome.id = id)
      (took : (accepted = some id ∧ outcome.target = .enqueued) ∨
        (accepted = none ∧ outcome.target = .notEnqueued))
      (store : s.Same s') (freed : unreleased = []) :
      Deed s s' accepted unreleased stopping carried ⟨id :: rest, none, []⟩ carried ⟨rest, some outcome, []⟩
  /-- An outcome has been recorded, or is of no use; the batch goes on or gives the rest back. -/
  | settles {outcome : Outcome} {rest unsent leaving : List MessageId}
      (done : s.status? outcome.id ≠ some .pending) (store : s.Same s')
      (split : (unsent = rest ∧ leaving = []) ∨ (unsent = [] ∧ leaving = rest))
      (took : accepted = none) (freed : unreleased = []) :
      Deed s s' accepted unreleased stopping carried ⟨rest, some outcome, []⟩ carried
        ⟨unsent, none, leaving⟩
  /-- An outcome that could not be recorded is carried over, and the rest is given back. -/
  | keeps {outcome : Outcome} {rest : List MessageId} (store : s.Same s') (took : accepted = none)
      (freed : unreleased = []) :
      Deed s s' accepted unreleased stopping carried ⟨rest, some outcome, []⟩ (carried ++ [outcome])
        ⟨[], none, rest⟩
  /-- A carried outcome has been recorded. -/
  | recovers {outcome : Outcome} (head : carried.head? = some outcome)
      (done : s.status? outcome.id ≠ some .pending) (store : s.Same s') (took : accepted = none)
      (freed : unreleased = []) :
      Deed s s' accepted unreleased stopping carried .empty carried.tail .empty
  /-- A carried outcome is of no use; the claim on its message is given back. -/
  | withdraws {outcome : Outcome} (head : carried.head? = some outcome)
      (done : s.status? outcome.id ≠ some .pending) (store : s.Same s') (took : accepted = none)
      (freed : unreleased = []) :
      Deed s s' accepted unreleased stopping carried .empty carried.tail ⟨[], none, [outcome.id]⟩
  /-- Claims have been given back. -/
  | releases {ids : List MessageId} (store : s.Released ids s') (took : accepted = none)
      (freed : unreleased = []) :
      Deed s s' accepted unreleased stopping carried ⟨[], none, ids⟩ carried .empty
  /-- Claims could not be given back. -/
  | strands {ids : List MessageId} (store : s.Same s') (took : accepted = none)
      (kept : unreleased = ids) :
      Deed s s' accepted unreleased stopping carried ⟨[], none, ids⟩ carried .empty
  /-- The carried outcomes are given up, and the claims on their messages are given back. -/
  | abandons (stops : stopping = true) (store : s.Same s') (took : accepted = none)
      (freed : unreleased = []) :
      Deed s s' accepted unreleased stopping carried .empty [] ⟨[], none, carried.map Outcome.id⟩

section Batching

variable {s mid : System} {t : TaskId} {call : Call} {fate : Fate} {c : Config}
  {carried : List Outcome}

/-- When the recording of an outcome of publishing has come to its end, the message of the outcome
is not pending: it has made its step, or has made another one before, or there is no such message.
-/
theorem RecordTurn.done {rec : Recording} {r : Request} {answer : r.Answer} {result : RecordResult}
    (h : RecordTurn s mid rec answer (.finished (.ok result)))
    (hpublishing : rec.outcome.IsOfPublishing)
    (hdue : ∀ entry, rec.due? = some entry → s.store.status? entry.messageId ≠ some .pending) :
    s.store.status? rec.outcome.id ≠ some .pending ∧ s.store.Same mid.store := by
  cases h with
  | appends hstate hsame =>
    subst hstate
    exact ⟨hdue _ rfl, hsame⟩
  | unknown _ hstatus hsame =>
    rw [hstatus]
    exact ⟨by simp, hsame⟩
  | refused _ hstatus hillegal hsame =>
    rw [hstatus]
    -- both outcomes of publishing are legal steps of a pending message
    refine ⟨fun hpending => hillegal ?_, hsame⟩
    rw [Option.some.injEq] at hpending
    rw [hpending]
    rcases hpublishing with h | h <;> rw [h] <;> constructor

theorem accepted?_record (rec : Recording) (answer : (rec.request c).Answer) :
    (rec.request c).accepted? answer = none := by
  cases rec <;> rfl

theorem unreleased_record (rec : Recording) (answer : (rec.request c).Answer) :
    (rec.request c).unreleased answer = [] := by
  cases rec <;> rfl

theorem hand_recoverNext (summary : BatchSummary) (carried : List Outcome) :
    (Batching.recoverNext summary carried).progress.look Batching.hand .empty = .empty := by
  cases carried <;> rfl

theorem fits_recoverNext (summary : BatchSummary) (carried : List Outcome) :
    (Batching.recoverNext summary carried).progress.look (Batching.Fits carried) True := by
  cases carried with
  | nil => trivial
  | cons outcome later => exact ⟨rfl, rfl⟩

theorem hand_giveBack (summary : BatchSummary) (rest : List Message) :
    (Batching.giveBack summary rest).progress.look Batching.hand .empty =
      ⟨[], none, rest.map Message.id⟩ := by
  cases rest <;> rfl

theorem fits_giveBack (summary : BatchSummary) (rest : List Message) (carried : List Outcome) :
    (Batching.giveBack summary rest).progress.look (Batching.Fits carried) True := by
  cases rest <;> trivial

theorem hand_publishNext (stop : Bool) (summary : BatchSummary) (rest : List Message) :
    (Batching.publishNext stop summary rest).progress.look Batching.hand .empty =
      if stop then ⟨[], none, rest.map Message.id⟩ else ⟨rest.map Message.id, none, []⟩ := by
  cases rest <;> cases stop <;> rfl

theorem fits_publishNext (stop : Bool) (summary : BatchSummary) (rest : List Message)
    (carried : List Outcome) :
    (Batching.publishNext stop summary rest).progress.look (Batching.Fits carried) True := by
  cases rest with
  | nil => trivial
  | cons m rest => cases stop <;> trivial

/-- A release ends in one of two ways. -/
theorem deed_of_release (stopping : Bool) (carried : List Outcome) {ids : List MessageId}
    {answer : Except StoreFailure Unit}
    (h : s.answer? t call fate (.release ids) = some (answer, mid)) :
    Deed s.store mid.store none ((Request.release ids).unreleased answer) stopping carried
      ⟨[], none, ids⟩ carried .empty := by
  obtain ⟨store, rfl, ⟨reason, rfl, hsame⟩ | ⟨rfl, hreleased⟩⟩ := answer_release h
  · exact .strands hsame rfl rfl
  · exact .releases hreleased rfl rfl

/-- **A turn of a batch is one deed.** -/
theorem deed_of_batching (stopping stop : Bool) {batch : Batching}
    {answer : (batch.request c).Answer}
    (hs : s.store.Sound) (hfits : batch.Fits carried)
    (hcarried : ∀ outcome ∈ carried, outcome.IsOfPublishing)
    (hdue : ∀ entry, batch.record?.bind Recording.due? = some entry →
      s.store.status? entry.messageId ≠ some .pending)
    (h : s.answer? t call fate (batch.request c) = some (answer, mid)) :
    Deed s.store mid.store ((batch.request c).accepted? answer)
      ((batch.request c).unreleased answer) stopping carried batch.hand
      (batch.resume c stop carried answer).1
      ((batch.resume c stop carried answer).2.progress.look Batching.hand .empty) ∧
    (batch.resume c stop carried answer).2.progress.look
      (Batching.Fits (batch.resume c stop carried answer).1) True := by
  cases batch with
  | opening =>
    obtain ⟨rfl, -⟩ := answer_enter h
    simp only [Batching.resume, hand_recoverNext]
    exact ⟨.rests (.refl _) rfl rfl, fits_recoverNext _ _⟩
  | recovering summary outcome rec =>
    obtain ⟨rfl, hhead⟩ := hfits
    have hpublishing := hcarried _ (List.mem_of_head? hhead)
    have hturn := recordTurn hs h
    have haccepted := accepted?_record rec answer
    have hunreleased := unreleased_record rec answer
    simp only [Batching.resume]
    cases hp : (rec.resume c answer).progress with
    | waiting rec' =>
      rw [hp] at hturn
      cases hturn with
      | waits houtcome _ _ hsame =>
        exact ⟨.rests hsame haccepted hunreleased, houtcome, hhead⟩
      | moves _ hmoved =>
        exact ⟨.moves (.inr hhead) hmoved haccepted hunreleased, rfl, hhead⟩
    | finished result =>
      rw [hp] at hturn
      rcases result with failure | result
      · cases hturn with
        | fails _ hsame => exact ⟨.rests hsame haccepted hunreleased, trivial⟩
      · obtain ⟨hdone, hsame⟩ := hturn.done hpublishing hdue
        cases result with
        | recorded change =>
          simp only [Batching.recovered, hand_recoverNext]
          exact ⟨.recovers hhead hdone hsame haccepted hunreleased, fits_recoverNext _ _⟩
        | notFound => exact ⟨.withdraws hhead hdone hsame haccepted hunreleased, trivial⟩
        | conflict current => exact ⟨.withdraws hhead hdone hsame haccepted hunreleased, trivial⟩
  | freeing summary outcome result =>
    have hdeed := deed_of_release stopping carried h
    change Except StoreFailure Unit at answer
    rcases answer with failure | ⟨⟩
    all_goals
      simp only [Batching.resume, Batching.recovered, Turn.progress_after, hand_recoverNext]
      exact ⟨hdeed, fits_recoverNext _ _⟩
  | fetching summary =>
    obtain ⟨store, rfl, ⟨reason, rfl, hsame⟩ | ⟨batch, rfl, hfetched⟩⟩ := answer_fetch hs h
    · exact ⟨.rests hsame rfl rfl, trivial⟩
    · simp only [Batching.resume, hand_publishNext]
      exact ⟨.fetches hfetched rfl rfl, fits_publishNext _ _ _ _⟩
  | publishing summary m rest =>
    obtain ⟨broker, rfl, -⟩ := answer_publish h
    change Except BrokerFailure Unit at answer
    rcases answer with failure | ⟨⟩
    · exact ⟨.sends rfl (.inr ⟨rfl, rfl⟩) (.refl _) rfl, rfl, .inr rfl⟩
    · exact ⟨.sends rfl (.inl ⟨rfl, rfl⟩) (.refl _) rfl, rfl, .inl rfl⟩
  | recording summary outcome rest rec =>
    obtain ⟨rfl, hpublishing⟩ := hfits
    have hturn := recordTurn hs h
    have haccepted := accepted?_record rec answer
    have hunreleased := unreleased_record rec answer
    simp only [Batching.resume]
    cases hp : (rec.resume c answer).progress with
    | waiting rec' =>
      rw [hp] at hturn
      rw [Turn.andThen_of_waiting hp]
      cases hturn with
      | waits houtcome _ _ hsame =>
        exact ⟨.rests hsame haccepted hunreleased, houtcome, hpublishing⟩
      | moves _ hmoved =>
        exact ⟨.moves (.inl rfl) hmoved haccepted hunreleased, rfl, hpublishing⟩
    | finished result =>
      rw [hp] at hturn
      rw [Turn.andThen_of_finished hp]
      rcases result with failure | result
      · cases hturn with
        | fails _ hsame => exact ⟨.rests hsame haccepted hunreleased, hpublishing⟩
      · obtain ⟨hdone, hsame⟩ := hturn.done hpublishing hdue
        refine ⟨?_, fits_publishNext _ _ _ _⟩
        simp only [hand_publishNext]
        cases stop
        · exact .settles hdone hsame (.inl ⟨rfl, rfl⟩) haccepted hunreleased
        · exact .settles hdone hsame (.inr ⟨rfl, rfl⟩) haccepted hunreleased
  | keeping summary outcome rest =>
    obtain ⟨rfl, -⟩ := answer_enter h
    simp only [Batching.resume, hand_giveBack]
    exact ⟨.keeps (.refl _) rfl rfl, fits_giveBack _ _ _⟩
  | releasing summary rest =>
    have hdeed := deed_of_release stopping carried h
    change Except StoreFailure Unit at answer
    rcases answer with failure | ⟨⟩
    · exact ⟨hdeed, trivial⟩
    · exact ⟨hdeed, trivial⟩

theorem hand_afterBatch (stop : Bool) (result : Except StoreFailure BatchSummary) :
    (Publishing.afterBatch c stop result).progress.look Publishing.hand .empty = .empty := by
  obtain ⟨next, hwaits, hbetween⟩ := Publishing.afterBatch_waits c stop result
  rw [hwaits]
  cases hbetween <;> rfl

theorem fits_afterBatch (stop : Bool) (result : Except StoreFailure BatchSummary)
    (carried : List Outcome) :
    (Publishing.afterBatch c stop result).progress.look (Publishing.Fits carried) True = True := by
  obtain ⟨next, hwaits, hbetween⟩ := Publishing.afterBatch_waits c stop result
  rw [hwaits]
  cases hbetween <;> rfl

/-- **A turn of the publisher's loop is one deed.** -/
theorem deed_of_publishing (stop : Bool) {work : Publishing} {answer : (work.request c).Answer}
    (hs : s.store.Sound) (hfits : work.Fits carried)
    (hcarried : ∀ outcome ∈ carried, outcome.IsOfPublishing)
    (hdue : ∀ entry, work.record?.bind Recording.due? = some entry →
      s.store.status? entry.messageId ≠ some .pending)
    (h : s.answer? t call fate (work.request c) = some (answer, mid)) :
    Deed s.store mid.store ((work.request c).accepted? answer)
      ((work.request c).unreleased answer) work.isAbandoning carried work.hand
      (work.resume c stop carried answer).1
      ((work.resume c stop carried answer).2.progress.look Publishing.hand .empty) ∧
    (work.resume c stop carried answer).2.progress.look
      (Publishing.Fits (work.resume c stop carried answer).1) True := by
  cases work with
  | starting =>
    rw [answer_proceed h]
    cases stop
    · exact ⟨.rests (.refl _) rfl rfl, trivial⟩
    · exact ⟨.rests (.refl _) rfl rfl, trivial⟩
  | batching batch =>
    obtain ⟨hdeed, hnext⟩ := deed_of_batching false stop hs hfits hcarried hdue h
    simp only [Publishing.resume]
    rw [Turn.look_andThen (fun _ => rfl) (hand_afterBatch stop),
      Turn.look_andThen (fun _ => rfl) fun result => fits_afterBatch stop result _]
    exact ⟨hdeed, hnext⟩
  | pausing milliseconds =>
    rw [answer_pause h]
    change Bool at answer
    cases answer
    · cases stop
      · exact ⟨.rests (.refl _) rfl rfl, trivial⟩
      · exact ⟨.rests (.refl _) rfl rfl, trivial⟩
    · exact ⟨.rests (.refl _) rfl rfl, trivial⟩
  | abandoning =>
    obtain ⟨rfl, -⟩ := answer_enter h
    cases carried with
    | nil => exact ⟨.rests (.refl _) rfl rfl, trivial⟩
    | cons outcome later => exact ⟨.abandons rfl (.refl _) rfl rfl, trivial⟩
  | releasing ids =>
    have hdeed := deed_of_release false carried h
    change Except StoreFailure Unit at answer
    rcases answer with failure | ⟨⟩
    · exact ⟨hdeed, trivial⟩
    · exact ⟨hdeed, trivial⟩

end Batching

/-! ## The work of any call -/

namespace Work

/-- What a call has in hand. -/
def hand : Work → Hand
  | .batching _ batch => batch.hand
  | .publishing _ work => work.hand
  | .recording _ | .handling _ | .consuming _ => .empty

/-- Whether a publisher's loop is about to give up the carried outcomes. -/
def isAbandoning : Work → Bool
  | .publishing _ work => work.isAbandoning
  | .recording _ | .handling _ | .consuming _ | .batching .. => false

/-- What a call records is what it is to record. -/
def Fits (carried : List Outcome) : Work → Prop
  | .recording _ => True
  | .handling work => work.Fits
  | .consuming work => work.Fits
  | .batching _ batch => batch.Fits carried
  | .publishing _ work => work.Fits carried

end Work

section Work

variable {s mid : System} {t : TaskId} {call : Call} {fate : Fate} {c : Config}
  {carried : List Outcome}

/-- **A turn of a call of a publisher is one deed.** -/
theorem deed_of_work (stop : Bool) {work : Work} {answer : (work.request c).Answer}
    {p : PublisherId} (hp : work.publisher? = some p) (hs : s.store.Sound) (hfits : work.Fits carried)
    (hcarried : ∀ outcome ∈ carried, outcome.IsOfPublishing)
    (hdue : ∀ entry, work.due? = some entry → s.store.status? entry.messageId ≠ some .pending)
    (h : s.answer? t call fate (work.request c) = some (answer, mid)) :
    Deed s.store mid.store ((work.request c).accepted? answer)
      ((work.request c).unreleased answer) work.isAbandoning carried work.hand
      (work.resume c stop carried answer).1
      ((work.resume c stop carried answer).2.progress.look Work.hand .empty) ∧
    (work.resume c stop carried answer).2.progress.look
      (Work.Fits (work.resume c stop carried answer).1) True := by
  cases work with
  | recording | handling | consuming => cases hp
  | batching p batch =>
    obtain ⟨hdeed, hnext⟩ := deed_of_batching false stop hs hfits hcarried hdue h
    simp only [Work.resume]
    rw [Turn.look_andThen (fun _ => rfl) fun _ => rfl,
      Turn.look_andThen (fun _ => rfl) fun _ => rfl]
    exact ⟨hdeed, hnext⟩
  | publishing p work =>
    obtain ⟨hdeed, hnext⟩ := deed_of_publishing stop hs hfits hcarried hdue h
    simp only [Work.resume]
    rw [Turn.look_andThen (fun _ => rfl) fun _ => rfl,
      Turn.look_andThen (fun _ => rfl) fun _ => rfl]
    exact ⟨hdeed, hnext⟩

/-- A receipt reports what became of a message that was enqueued. -/
theorem target_of_receipt (r : Receipt) :
    r.outcome.target = .delivered ∨ r.outcome.target = .deliveredFailed := by
  cases h : r.success
  · right
    simp [Receipt.outcome, Receipt.target, h]
  · left
    simp [Receipt.outcome, Receipt.target, h]

/-- What a turn of a recording does to the store. -/
theorem RecordTurn.store {rec : Recording} {r : Request} {answer : r.Answer}
    {progress : Progress Recording (Except StoreFailure RecordResult)}
    (h : RecordTurn s mid rec answer progress) :
    s.store.Same mid.store ∨
      ∃ old, s.store.Moved rec.outcome.id old rec.outcome.target mid.store := by
  cases h with
  | waits _ _ _ hsame | appends _ hsame | unknown _ _ hsame | refused _ _ _ hsame
  | fails _ hsame => exact .inl hsame
  | moves _ hmoved => exact .inr ⟨_, hmoved⟩

/-- What the handling of a receipt does to the store, and that it records what the receipt says. -/
theorem turn_of_handling {work : Handling} {answer : (work.request c).Answer} (hs : s.store.Sound)
    (hfits : work.Fits) (h : s.answer? t call fate (work.request c) = some (answer, mid)) :
    (s.store.Same mid.store ∨ ∃ rec old, work.record? = some rec ∧
      s.store.Moved rec.outcome.id old rec.outcome.target mid.store) ∧
    (work.resume c answer).progress.look Handling.Fits True := by
  cases work with
  | recording r rechecks rec =>
    obtain ⟨houtcome, hagrees⟩ := hfits
    have hturn := recordTurn hs h
    refine ⟨hturn.store.imp_right fun ⟨old, hmoved⟩ => ⟨rec, old, rfl, hmoved⟩, ?_⟩
    cases hp : (rec.resume c answer).progress with
    | waiting rec' =>
      rw [Handling.resume, Turn.andThen_of_waiting hp]
      rw [hp] at hturn
      cases hturn with
      | waits hout _ hkept => exact ⟨hout.trans houtcome, hkept hagrees⟩
      | moves => exact ⟨houtcome, rfl, rfl⟩
    | finished result =>
      rw [Handling.resume, Turn.andThen_of_finished hp]
      rcases result with failure | (change | _ | current)
      · trivial
      · trivial
      · trivial
      · simp only [Handling.conflicted]
        split
        · trivial
        · split <;> trivial
  | rechecking r rechecks =>
    obtain ⟨rfl, -⟩ := answer_sleep h
    exact ⟨.inl (.refl _), rfl, trivial⟩

theorem accepted?_handling (work : Handling) (answer : (work.request c).Answer) :
    (work.request c).accepted? answer = none ∧ (work.request c).unreleased answer = [] := by
  cases work with
  | recording r rechecks rec => exact ⟨accepted?_record rec answer, unreleased_record rec answer⟩
  | rechecking => exact ⟨rfl, rfl⟩

/-- What the consumer's loop does to the store, and that it records what the receipts say. -/
theorem turn_of_consuming (stop : Bool) {work : Consuming} {answer : (work.request c).Answer}
    (hs : s.store.Sound) (hfits : work.Fits)
    (h : s.answer? t call fate (work.request c) = some (answer, mid)) :
    (s.store.Same mid.store ∨ ∃ rec old, work.record? = some rec ∧
      s.store.Moved rec.outcome.id old rec.outcome.target mid.store) ∧
    (work.resume c stop answer).progress.look Consuming.Fits True := by
  cases work with
  | starting stream =>
    rw [answer_proceed h]
    refine ⟨.inl (.refl _), ?_⟩
    cases stop <;> trivial
  | listening stream =>
    obtain ⟨broker, rfl, -⟩ := answer_receive h
    refine ⟨.inl (.refl _), ?_⟩
    change Heard at answer
    rcases answer with r | failure | _ | (_ | _)
    · exact ⟨rfl, trivial⟩
    · trivial
    · trivial
    · cases stop <;> trivial
    · trivial
  | handling stream work =>
    obtain ⟨hstore, hnext⟩ := turn_of_handling hs hfits h
    refine ⟨hstore, ?_⟩
    simp only [Consuming.resume]
    rw [Turn.look_andThen fun _ => rfl]
    · exact hnext
    · intro disposition
      cases disposition
      case storeFailed => rfl
      all_goals cases stop <;> rfl
  | pausing stream r =>
    rw [answer_pause h]
    refine ⟨.inl (.refl _), ?_⟩
    change Bool at answer
    cases answer
    · exact ⟨rfl, trivial⟩
    · trivial
  | reconnecting stream =>
    rw [answer_pause h]
    refine ⟨.inl (.refl _), ?_⟩
    change Bool at answer
    cases answer <;> trivial
  | subscribing stream =>
    obtain ⟨broker, rfl, -⟩ := answer_subscribe h
    refine ⟨.inl (.refl _), ?_⟩
    change Except BrokerFailure StreamId at answer
    rcases answer with failure | fresh
    · trivial
    · cases stop <;> trivial

theorem accepted?_consuming (work : Consuming) (answer : (work.request c).Answer) :
    (work.request c).accepted? answer = none ∧ (work.request c).unreleased answer = [] := by
  cases work with
  | handling stream work => exact accepted?_handling work answer
  | _ => exact ⟨rfl, rfl⟩

/-- **A turn of a call that works for no publisher** may move the status of the message that it
records, and changes nothing else in the store; the publishers keep what they hold. -/
theorem turn_of_others (stop : Bool) {work : Work} {answer : (work.request c).Answer}
    (hp : work.publisher? = none) (hs : s.store.Sound) (hfits : work.Fits carried)
    (h : s.answer? t call fate (work.request c) = some (answer, mid)) :
    (s.store.Same mid.store ∨ ∃ rec old, work.record? = some rec ∧
      s.store.Moved rec.outcome.id old rec.outcome.target mid.store) ∧
    ((work.request c).accepted? answer = none ∧ (work.request c).unreleased answer = []) ∧
    work.hand = .empty ∧
    (work.resume c stop carried answer).2.progress.look Work.hand .empty = .empty ∧
    (work.resume c stop carried answer).2.progress.look (Work.Fits carried) True := by
  cases work with
  | recording rec =>
    have hturn := recordTurn hs h
    refine ⟨hturn.store.imp_right fun ⟨old, hmoved⟩ => ⟨rec, old, rfl, hmoved⟩,
      ⟨accepted?_record rec answer, unreleased_record rec answer⟩, rfl, ?_⟩
    simp only [Work.resume]
    cases hprogress : (rec.resume c answer).progress with
    | waiting rec' =>
      rw [Turn.andThen_of_waiting hprogress]
      exact ⟨rfl, trivial⟩
    | finished result =>
      rw [Turn.andThen_of_finished hprogress]
      exact ⟨rfl, trivial⟩
  | handling work =>
    obtain ⟨hstore, hnext⟩ := turn_of_handling hs hfits h
    refine ⟨hstore, accepted?_handling work answer, rfl, ?_⟩
    simp only [Work.resume]
    cases hprogress : (work.resume c answer).progress with
    | waiting next =>
      rw [Turn.andThen_of_waiting hprogress]
      rw [hprogress] at hnext
      exact ⟨rfl, hnext⟩
    | finished disposition =>
      rw [Turn.andThen_of_finished hprogress]
      exact ⟨rfl, trivial⟩
  | consuming work =>
    obtain ⟨hstore, hnext⟩ := turn_of_consuming stop hs hfits h
    refine ⟨hstore, accepted?_consuming work answer, rfl, ?_⟩
    simp only [Work.resume]
    cases hprogress : (work.resume c stop answer).progress with
    | waiting next =>
      rw [Turn.andThen_of_waiting hprogress]
      rw [hprogress] at hnext
      exact ⟨rfl, hnext⟩
    | finished outcome =>
      rw [Turn.andThen_of_finished hprogress]
      exact ⟨rfl, trivial⟩
  | batching | publishing => cases hp

end Work

end Interplay

end Outbox
