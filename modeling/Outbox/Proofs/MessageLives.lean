import Outbox.Proofs.Store.Operation
import Outbox.Proofs.Table
/-!
# `Proofs.MessageLives` — messages stay, and live by legal steps

A message that was put in stays in the store, and nothing of it ever changes but its status and the
time of its last step. Its statuses are those that the updates have reported for it, one legal step
after the other. So the store's own count of steps can be read off the statuses: a message has made as
many steps as its status is away from the beginning.
-/

namespace Outbox

/-- How many steps lead from the beginning of a life to a status. -/
def Status.steps : Status → Nat
  | .pending => 0
  | .enqueued | .notEnqueued => 1
  | .delivered | .deliveredFailed => 2

theorem Status.Step.steps {old new : Status} (h : Status.Step old new) :
    new.steps = old.steps + 1 := by
  cases h <;> rfl

/-- No path leads on from the end of a life. -/
theorem Status.Path.eq_nil {start : Status} {path : List Status} (h : Status.Path start path)
    (hterminal : start.isTerminal = true) : path = [] := by
  cases path with
  | nil => rfl
  | cons next rest =>
    obtain ⟨hstep, -⟩ := h
    cases hstep <;> cases hterminal

namespace Tally

theorem total_foldl (statuses : List Status) (t : Tally) :
    (statuses.foldl add t).total = t.total + statuses.length := by
  induction statuses generalizing t with
  | nil => rfl
  | cons status rest ih =>
    rw [List.foldl_cons, ih, total_add, List.length_cons]
    omega

/-- How many steps the counted messages have made. -/
def steps (t : Tally) : Nat :=
  t.enqueued + t.notEnqueued + 2 * (t.delivered + t.deliveredFailed)

theorem steps_add (t : Tally) (status : Status) : (t.add status).steps = t.steps + status.steps := by
  cases status <;> simp +arith [add, steps, Status.steps]

theorem steps_foldl (statuses : List Status) (t : Tally) :
    (statuses.foldl add t).steps = t.steps + (statuses.map Status.steps).sum := by
  induction statuses generalizing t with
  | nil => rfl
  | cons status rest ih =>
    rw [List.foldl_cons, ih, steps_add, List.map_cons, List.sum_cons]
    omega

end Tally

/-- A message goes on to another by the steps of a path, and is otherwise the same message. -/
structure Message.Lives (m : Message) (path : List Status) (m' : Message) : Prop where
  id : m'.id = m.id
  destination : m'.destination = m.destination
  content : m'.content = m.content
  metadata : m'.metadata = m.metadata
  createdAt : m'.createdAt = m.createdAt
  legal : Status.Path m.status path
  status : m'.status = path.getLastD m.status

theorem Message.Lives.refl (m : Message) : m.Lives [] m :=
  ⟨rfl, rfl, rfl, rfl, rfl, trivial, rfl⟩

/-- One step, and then those of a path. -/
theorem Message.Lives.cons {m m' : Message} {new : Status} {now : Instant} {path : List Status}
    (hstep : Status.Step m.status new)
    (h : { m with status := new, updatedAt := now }.Lives path m') : m.Lives (new :: path) m' := by
  refine ⟨h.id, h.destination, h.content, h.metadata, h.createdAt, ⟨hstep, h.legal⟩, ?_⟩
  rw [h.status]
  cases path <;> rfl

/-- A message whose life has ended keeps its status. -/
theorem Message.Lives.terminal {m m' : Message} {path : List Status} (h : m.Lives path m')
    (hterminal : m.status.isTerminal = true) : m'.status = m.status := by
  rw [h.status, h.legal.eq_nil hterminal]
  rfl

namespace Store

/-! ## What the answers tell -/

/-- The identifier that a message was put in under. -/
def Done.inserted? : Done → Option MessageId
  | ⟨.insert id _ _, _⟩ => some id
  | _ => none

/-- The step that an update has reported. -/
def Done.change? : Done → Option Transition
  | ⟨.update .., answer⟩ =>
    match (answer : Except StoreFailure Transition) with
    | .ok change => some change
    | .error _ => none
  | _ => none

/-- The identifiers that messages were put in under. -/
def insertions (trace : List Done) : List MessageId :=
  trace.filterMap Done.inserted?

/-- The statuses that a message was moved to, as the updates have reported. -/
def reported (id : MessageId) (trace : List Done) : List Status :=
  ((trace.filterMap Done.change?).filter fun change => change.id = id).map Transition.new

/-- How many steps the messages have made, going by their statuses. -/
def stepsMade (s : Store) : Nat :=
  (s.messages.values.map fun m => m.status.steps).sum

/-! ## What an operation does to the messages -/

/-- What an operation does to the messages. -/
inductive Alters (s s' : Store) : Done → Prop
  /-- A new message has been put in. -/
  | put {id : MessageId} {draft : Draft} {now : Instant}
      (messages : s'.messages = s.messages.put id (.ofDraft id draft now))
      (writes : s'.writes = s.writes) :
      Alters s s' ⟨.insert id draft now, Message.ofDraft id draft now⟩
  /-- A message has made a legal step, which was reported. -/
  | moved {id : MessageId} {m : Message} {new : Status} {now : Instant}
      (found : s.messages.get? id = some m) (legal : Status.Step m.status new)
      (messages : s'.messages = s.messages.put id { m with status := new, updatedAt := now })
      (writes : s'.writes = s.writes + 1) :
      Alters s s' ⟨.update id new now, Except.ok ⟨id, m.status, new⟩⟩
  /-- All messages are what they were. -/
  | kept {done : Done} (messages : s'.messages = s.messages) (writes : s'.writes = s.writes)
      (inserted : done.inserted? = none) (change : done.change? = none) : Alters s s' done

section Alters

variable {s s' : Store} {done : Done} {trace : List Done} {id : MessageId} {m : Message}

/-- Every operation does what `Alters` says of it. -/
theorem alters_of_perform {op : Operation} {answer : op.Answer}
    (h : s.perform op = (answer, s')) : Alters s s' ⟨op, answer⟩ := by
  cases op with
  | insert id draft now =>
    cases h
    exact .put rfl rfl
  | fetch limit =>
    have h : s.fetch limit = (answer, s') := h
    rcases attempt_cases h with ⟨reason, rfl, hsame⟩ | hdone
    · exact .kept hsame.messages hsame.writes rfl rfl
    · cases hdone
      exact .kept rfl rfl rfl rfl
  | update id new now =>
    have h : s.update id new now = (answer, s') := h
    rcases attempt_cases h with ⟨reason, rfl, hsame⟩ | hdone
    · exact .kept hsame.messages hsame.writes rfl rfl
    · split at hdone
      · cases hdone
        exact .kept rfl rfl rfl rfl
      · split at hdone
        · cases hdone
          exact .kept rfl rfl rfl rfl
        · next m hm =>
          split at hdone
          · next hlegal =>
            cases hdone
            exact .moved hm (Status.canBecome_iff.mp hlegal) rfl rfl
          · cases hdone
            exact .kept rfl rfl rfl rfl
  | release ids =>
    have h : s.release ids = (answer, s') := h
    rcases attempt_cases h with ⟨reason, rfl, hsame⟩ | hdone
    · exact .kept hsame.messages hsame.writes rfl rfl
    · cases hdone
      exact .kept rfl rfl rfl rfl
  | get id =>
    have hstore : (s.get id).2 = s' := congrArg Prod.snd h
    have hsame := hstore ▸ same_get s id
    exact .kept hsame.messages hsame.writes rfl rfl
  | tally =>
    have hstore : s.tally.2 = s' := congrArg Prod.snd h
    have hsame := hstore ▸ same_tally s
    exact .kept hsame.messages hsame.writes rfl rfl
  | failOperations n | failUpdates n =>
    cases h
    exact .kept rfl rfl rfl rfl

theorem insertions_cons (done : Done) (trace : List Done) :
    insertions (done :: trace) = done.inserted?.toList ++ insertions trace := by
  rw [insertions, List.filterMap_cons, insertions]
  cases done.inserted? <;> rfl

theorem insertions_append (before later : List Done) :
    insertions (before ++ later) = insertions before ++ insertions later :=
  List.filterMap_append

theorem reported_cons_of_none (h : done.change? = none) (id : MessageId) (trace : List Done) :
    reported id (done :: trace) = reported id trace := by
  rw [reported, List.filterMap_cons, h, reported]

theorem reported_cons_of_some {change : Transition} (h : done.change? = some change)
    (id : MessageId) (trace : List Done) : reported id (done :: trace) =
      if change.id = id then change.new :: reported id trace else reported id trace := by
  rw [reported, List.filterMap_cons, h, reported]
  by_cases hid : change.id = id <;> simp [hid]

/-- Under an identifier that no message is put in under, there is a message later only if there was
one before. -/
theorem Alters.absent (h : Alters s s' done) (hid : id ∉ done.inserted?.toList)
    (habsent : s.messages.get? id = none) : s'.messages.get? id = none := by
  cases h with
  | @put other draft now hmessages =>
    have hne : other ≠ id := fun heq => hid (heq ▸ List.mem_singleton_self _)
    rw [hmessages, Table.get?_put, if_neg hne]
    exact habsent
  | @moved other m new now hfound _ hmessages =>
    rw [hmessages, Table.get?_put]
    split
    · next heq =>
      rw [heq, habsent] at hfound
      cases hfound
    · exact habsent
  | kept hmessages => rw [hmessages, habsent]

/-! ## What a run does to the messages -/

/-- A message that is there, and whose identifier is not given out again, goes on by the steps that
are reported. -/
theorem Performed.lives (h : Performed s trace s') (hid : id ∉ insertions trace)
    (hfound : s.messages.get? id = some m) :
    ∃ m', s'.messages.get? id = some m' ∧ m.Lives (reported id trace) m' := by
  induction h generalizing m with
  | nil => exact ⟨m, hfound, .refl m⟩
  | @cons s s₁ s' op answer trace hdone _ ih =>
    rw [insertions_cons, List.mem_append, not_or] at hid
    cases alters_of_perform hdone with
    | @put other draft now hmessages =>
      have hne : other ≠ id := fun heq => hid.1 (heq ▸ List.mem_singleton_self _)
      rw [reported_cons_of_none rfl]
      exact ih hid.2 (by rw [hmessages, Table.get?_put, if_neg hne, hfound])
    | @moved other m₁ new now hother hlegal hmessages =>
      rw [reported_cons_of_some rfl]
      split
      · next heq =>
        obtain rfl : other = id := heq
        cases hother.symm.trans hfound
        obtain ⟨m', hm', hlives⟩ := ih hid.2 (by rw [hmessages, Table.get?_put, if_pos rfl])
        exact ⟨m', hm', hlives.cons hlegal⟩
      · next hne =>
        exact ih hid.2 (by rw [hmessages, Table.get?_put, if_neg hne, hfound])
    | kept hmessages _ _ hchange =>
      rw [reported_cons_of_none hchange]
      exact ih hid.2 (by rw [hmessages, hfound])

/-- There is a message only where there was one before, or where one was put in. -/
theorem Performed.absent (h : Performed s trace s') (hid : id ∉ insertions trace)
    (habsent : s.messages.get? id = none) : s'.messages.get? id = none := by
  induction h with
  | nil => exact habsent
  | cons hdone _ ih =>
    rw [insertions_cons, List.mem_append, not_or] at hid
    exact ih hid.2 ((alters_of_perform hdone).absent hid.1 habsent)

/-- A message more is a value more, and one that is replaced is not. -/
theorem length_values_put (t : Table MessageId Message) (id : MessageId) (m : Message) :
    (t.put id m).values.length + ((t.get? id).map fun _ => 1).getD 0 = t.values.length + 1 := by
  have h := t.sum_put id m fun _ => 1
  simpa using h

/-- What an operation does to the number of messages and to the steps that they have made, as long as
a message that is put in is new. -/
theorem Alters.counts (h : Alters s s' done)
    (hfresh : ∀ id ∈ done.inserted?.toList, s.messages.get? id = none) :
    s'.messages.values.length = s.messages.values.length + done.inserted?.toList.length ∧
    s'.writes + s.stepsMade = s.writes + s'.stepsMade := by
  cases h with
  | @put id draft now hmessages hwrites =>
    have hnone := hfresh id List.mem_cons_self
    have hlength := length_values_put s.messages id (.ofDraft id draft now)
    have hsteps := s.messages.sum_put id (.ofDraft id draft now) fun m => m.status.steps
    rw [hnone] at hlength hsteps
    rw [hmessages, hwrites, stepsMade, stepsMade, hmessages]
    exact ⟨hlength, congrArg (s.writes + ·) hsteps.symm⟩
  | @moved id m new now hfound hlegal hmessages hwrites =>
    have hlength := length_values_put s.messages id { m with status := new, updatedAt := now }
    have hsteps := s.messages.sum_put id { m with status := new, updatedAt := now }
      fun m => m.status.steps
    rw [hfound] at hlength hsteps
    rw [hmessages, hwrites, stepsMade, stepsMade, hmessages]
    simp only [Option.map_some, Option.getD_some, hlegal.steps] at hlength hsteps
    exact ⟨Nat.succ.inj hlength, by omega⟩
  | kept hmessages hwrites hnone =>
    rw [hmessages, hwrites, hnone, stepsMade, stepsMade, hmessages]
    exact ⟨rfl, rfl⟩

/-- As long as every identifier is given out once, there are as many more messages as were put in,
and the store has counted as many more steps as their statuses tell. -/
theorem Performed.counts (h : Performed s trace s') (distinct : (insertions trace).Nodup)
    (hfresh : ∀ id ∈ insertions trace, s.messages.get? id = none) :
    s'.messages.values.length = s.messages.values.length + (insertions trace).length ∧
    s'.writes + s.stepsMade = s.writes + s'.stepsMade := by
  induction h with
  | nil => exact ⟨rfl, rfl⟩
  | @cons s s₁ s' op answer trace hdone _ ih =>
    have halters := alters_of_perform hdone
    rw [insertions_cons] at distinct hfresh ⊢
    obtain ⟨-, hrest, hapart⟩ := List.nodup_append.mp distinct
    obtain ⟨hlength, hwrites⟩ := halters.counts fun id hid => hfresh id (List.mem_append_left _ hid)
    obtain ⟨hlengths, hwritten⟩ := ih hrest fun id hid =>
      halters.absent (fun hput => hapart _ hput _ hid rfl) (hfresh id (List.mem_append_right _ hid))
    rw [List.length_append]
    exact ⟨by omega, by omega⟩

/-- A tally that was counted tells how many messages there are and how many steps they have made. -/
theorem tally_counts {t : Tally} (h : s.tally = (.ok t, s')) :
    t.total = s.messages.values.length ∧ t.steps = s.stepsMade := by
  rcases attempt_cases h with ⟨_, herror, -⟩ | hdone
  · cases herror
  · cases hdone
    refine ⟨?_, ?_⟩
    · rw [Tally.ofList, Tally.total_foldl, List.length_map]
      exact Nat.zero_add _
    · rw [Tally.ofList, Tally.steps_foldl, List.map_map]
      exact Nat.zero_add _

end Alters

section Lives

variable {s mid : Store} {trace before later : List Done} {id : MessageId} {m : Message}

/-- A message that is there in the midst of a run was put in before, and is not put in again. -/
theorem Performed.not_inserted_again (hbefore : Performed .empty before mid)
    (distinct : (insertions (before ++ later)).Nodup) (hfound : mid.messages.get? id = some m) :
    id ∉ insertions later := by
  intro hlater
  rw [insertions_append] at distinct
  have hnot : id ∉ insertions before :=
    fun hid => (List.nodup_append.mp distinct).2.2 _ hid _ hlater rfl
  cases (hbefore.absent hnot rfl).symm.trans hfound

end Lives

/-- **Messages live by legal steps, and the store counts them.** Whatever is done to an empty store,
as long as no identifier is given out twice:

* from any moment on, a message goes on by the steps that the updates report for it, each one legal,
  keeps its status once its life has ended, and is otherwise the same message at the end;
* so does a message from the moment when it is put in, with what was put in;
* an update that succeeds reports exactly the step that it makes;
* a tally that is counted has as many messages as were put in before, and the store has by then
  counted one step for each that was enqueued or refused and two for each that was delivered or
  failed. -/
theorem lives_accounted {trace : List Done} {s : Store} (h : Performed .empty trace s)
    (distinct : (insertions trace).Nodup) :
    (∀ {before later mid id m}, trace = before ++ later → Performed .empty before mid →
      Performed mid later s → mid.messages.get? id = some m →
      ∃ m', s.messages.get? id = some m' ∧ m.Lives (reported id later) m' ∧
        (m.status.isTerminal = true → m'.status = m.status)) ∧
    (∀ {before later id draft now answer},
      trace = before ++ ⟨.insert id draft now, answer⟩ :: later →
      ∃ m, s.messages.get? id = some m ∧ (Message.ofDraft id draft now).Lives (reported id later) m) ∧
    (∀ {before later id new now change},
      trace = before ++ ⟨.update id new now, Except.ok change⟩ :: later →
      ∃ s₁ s₂ old, Performed .empty before s₁ ∧ s₁.update id new now = (.ok change, s₂) ∧
        Performed s₂ later s ∧ change = ⟨id, old, new⟩ ∧ s₁.status? id = some old ∧
        s₂.status? id = some new ∧ Status.Step old new) ∧
    (∀ {before later t}, trace = before ++ ⟨.tally, Except.ok t⟩ :: later →
      ∃ s₁, Performed .empty before s₁ ∧ s₁.tally.1 = .ok t ∧
        t.total = (insertions before).length ∧
        s₁.writes = t.enqueued + t.notEnqueued + 2 * (t.delivered + t.deliveredFailed)) := by
  refine ⟨?_, ?_, ?_, ?_⟩
  · rintro before later mid id m rfl hbefore hlater hfound
    obtain ⟨m', hm', hlives⟩ :=
      hlater.lives (hbefore.not_inserted_again distinct hfound) hfound
    exact ⟨m', hm', hlives, hlives.terminal⟩
  · rintro before later id draft now answer rfl
    obtain ⟨s₁, hbefore, hrest⟩ := h.split
    cases hrest with
    | cons hdone hlater =>
      cases hdone
      rw [insertions_append, insertions_cons] at distinct
      obtain ⟨-, hagain, -⟩ := List.nodup_append.mp distinct
      refine hlater.lives (List.nodup_cons.mp hagain).1 ?_
      rw [insert, Table.get?_put]
      exact if_pos rfl
  · rintro before later id new now change rfl
    obtain ⟨s₁, hbefore, hrest⟩ := h.split
    cases hrest with
    | @cons _ s₂ _ _ _ _ hdone hlater =>
      cases alters_of_perform hdone with
      | moved hfound hlegal hmessages =>
        refine ⟨s₁, s₂, _, hbefore, hdone, hlater, rfl, ?_, ?_, hlegal⟩
        · rw [status?, hfound]
          rfl
        · rw [status?, hmessages, Table.get?_put, if_pos rfl]
          rfl
      | kept _ _ _ hnone => cases hnone
  · rintro before later t rfl
    obtain ⟨s₁, hbefore, hrest⟩ := h.split
    cases hrest with
    | cons hdone _ =>
      obtain ⟨htotal, hsteps⟩ := tally_counts hdone
      rw [insertions_append] at distinct
      obtain ⟨hlength, hwrites⟩ :=
        hbefore.counts (List.nodup_append.mp distinct).1 fun _ _ => rfl
      refine ⟨s₁, hbefore, congrArg Prod.fst hdone, ?_, ?_⟩
      · rw [htotal, hlength]
        exact Nat.zero_add _
      · have hall : s₁.writes = s₁.stepsMade := hwrites.trans (Nat.zero_add _)
        rw [hall, ← hsteps, Tally.steps]

/-- One message is delivered, though not at the first attempt to write that it was enqueued, and is
reported once more; another is refused. -/
def deliveredAndRefused : List Done :=
  let make (n : Nat) := Message.ofDraft (.ofNat n) default .epoch
  [⟨.insert (.ofNat 1) default .epoch, make 1⟩,
    ⟨.insert (.ofNat 2) default .epoch, make 2⟩,
    ⟨.fetch 2, Except.ok [make 1, make 2]⟩,
    ⟨.failUpdates 1, ()⟩,
    ⟨.update (.ofNat 1) .enqueued .epoch, Except.error updateFault⟩,
    ⟨.update (.ofNat 1) .enqueued .epoch, Except.ok ⟨.ofNat 1, .pending, .enqueued⟩⟩,
    ⟨.update (.ofNat 2) .notEnqueued .epoch, Except.ok ⟨.ofNat 2, .pending, .notEnqueued⟩⟩,
    ⟨.update (.ofNat 1) .delivered .epoch, Except.ok ⟨.ofNat 1, .enqueued, .delivered⟩⟩,
    ⟨.update (.ofNat 1) .deliveredFailed .epoch,
      Except.error (.conflict (.ofNat 1) .delivered .deliveredFailed)⟩,
    ⟨.tally, Except.ok ⟨0, 0, 1, 1, 0⟩⟩]

theorem lives_accounted_deliveredAndRefused : ∃ s, Performed .empty deliveredAndRefused s ∧
    (insertions deliveredAndRefused).Nodup ∧
    (∃ m, s.messages.get? (.ofNat 1) = some m ∧
      (Message.ofDraft (.ofNat 1) default .epoch).Lives [.enqueued, .delivered] m) ∧
    ∃ s₁ : Store, s₁.tally.1 = .ok ⟨0, 0, 1, 1, 0⟩ ∧ s₁.writes = 3 := by
  have h : Performed .empty deliveredAndRefused _ :=
    .cons rfl (.cons rfl (.cons rfl (.cons rfl (.cons rfl (.cons rfl (.cons rfl (.cons rfl
      (.cons rfl (.cons rfl .nil)))))))))
  have hdistinct : (insertions deliveredAndRefused).Nodup := by decide
  obtain ⟨-, hlives, -, htally⟩ := lives_accounted h hdistinct
  obtain ⟨s₁, -, hanswer, -, hwrites⟩ := @htally (deliveredAndRefused.take 9) [] _ rfl
  exact ⟨_, h, hdistinct, @hlives [] _ _ _ _ _ rfl, s₁, hanswer, hwrites⟩

end Store

end Outbox
