import Outbox.Proofs.Rehearsal.Shown
/-!
# `Proofs.Rehearsal.Call` — the turn of a task at a call is a step of the interplay

The world answers a request as the interplay would with the right fate: what the script makes of a
call is that the store or the broker is out of reach, and what the clock and the supply of
identifiers give is what the fate leaves open. The call then makes the same of the answer in both.
-/

namespace Outbox.Rehearsal

open Interplay
open World (storeFault brokerFault)

/-! ## Requests -/

/-- Whether a request is one that calls make. -/
def isOfCall : Request → Bool
  | .ready | .take _ | .listen _ | .launch .. | .halt _ | .join _ => false
  | .proceed | .enter | .fetch _ | .update .. | .release _ | .append _ | .publish .. | .subscribe _
  | .sleep _ | .pause _ | .receive _ => true

theorem isOfCall_recording (c : Config) (s : Recording) : isOfCall (s.request c) = true := by
  cases s <;> rfl

theorem isOfCall_handling (c : Config) (s : Handling) : isOfCall (s.request c) = true := by
  cases s with
  | recording => exact isOfCall_recording c _
  | _ => rfl

theorem isOfCall_batching (c : Config) (s : Batching) : isOfCall (s.request c) = true := by
  cases s with
  | recovering => exact isOfCall_recording c _
  | recording => exact isOfCall_recording c _
  | _ => rfl

/-- A call fetches as many messages as a batch may have. -/
theorem limit_of_request {c : Config} {work : Work} {limit : Nat}
    (fetches : work.request c = .fetch limit) : limit = c.batchSize := by
  have hrecord {s : Recording} : s.request c ≠ .fetch limit := by cases s <;> nofun
  have hbatch {s : Batching} (h : s.request c = .fetch limit) : limit = c.batchSize := by
    cases s with
    | fetching summary => exact (Request.fetch.inj h).symm
    | recovering | recording => exact absurd h hrecord
    | opening | freeing | publishing | keeping | releasing => cases h
  have hhandle {s : Handling} : s.request c ≠ .fetch limit := by
    cases s with
    | recording => exact hrecord
    | rechecking => nofun
  cases work with
  | recording s => exact absurd fetches hrecord
  | handling s => exact absurd fetches hhandle
  | consuming s =>
    cases s with
    | handling stream s => exact absurd fetches hhandle
    | starting | listening | pausing | reconnecting | subscribing => cases fetches
  | batching publisher s => exact hbatch fetches
  | publishing publisher s =>
    cases s with
    | batching s => exact hbatch fetches
    | starting | pausing | abandoning | releasing => cases fetches

theorem isOfCall_work (c : Config) (work : Work) : isOfCall (work.request c) = true := by
  cases work with
  | recording s => exact isOfCall_recording c s
  | handling s => exact isOfCall_handling c s
  | batching publisher s => exact isOfCall_batching c s
  | consuming s =>
    cases s with
    | handling => exact isOfCall_handling c _
    | _ => rfl
  | publishing publisher s =>
    cases s with
    | batching => exact isOfCall_batching c _
    | _ => rfl

/-! ## Answers -/

/-- The interplay can give the answer that a request got in the rehearsal. -/
def Answered (s : System) (id : TaskId) (call : Call) (r : Request) (w : World)
    (answer? : Option r.Answer) : Prop :=
  ∃ fate answer s', answer? = some answer ∧ s.answer? id call fate r = some (answer, s') ∧
    Shows s' w

section Answers

variable {s : System} {w w' : World} {id : TaskId} {call : Call} {wait : Wait}

/-- Who is due has waited for as long as the request says. -/
theorem lasted {since milliseconds : Nat} (h : Shows s w) (due : w.isDue wait = true)
    (lasts : wait.due = some (since + milliseconds)) : since + milliseconds ≤ s.now := by
  rw [World.isDue, lasts, Option.all_some, h.now] at due
  exact of_decide_eq_true due

/-- A script or the call itself crashes the caller, the script makes the call fail, or the call is
made. -/
theorem callOrCrash_cases {ε α : Type} {fault : Fault → Option ε}
    {operation : World → Option (Except ε α × World)} {answer? : Option (Except ε α)}
    (h : w.callOrCrash wait fault operation = some (w', answer?)) :
    ((wait.interference.crash = true ∨ operation w = none) ∧ answer? = none ∧ w' = w) ∨
      (∃ f failure, wait.interference.fault = some f ∧ fault f = some failure ∧
        answer? = some (.error failure) ∧ w' = w) ∨
      ∃ answer, operation w = some (answer, w') ∧ answer? = some answer := by
  rw [World.callOrCrash] at h
  split at h
  · split at h
    · next hcrash =>
      cases h
      exact .inl ⟨.inl hcrash, rfl, rfl⟩
    · split at h
      · next failure hfault =>
        cases h
        obtain ⟨f, hf, hfailure⟩ := Option.bind_eq_some_iff.mp hfault
        exact .inr (.inl ⟨f, failure, hf, hfailure, rfl, rfl⟩)
      · split at h
        · next hdone =>
          cases h
          exact .inr (.inr ⟨_, hdone, rfl⟩)
        · next hcrash =>
          cases h
          exact .inl ⟨.inr hcrash, rfl, rfl⟩
  · cases h

/-- A script crashes the caller or makes the call fail, or the call is made. -/
theorem call_cases {ε α : Type} {fault : Fault → Option ε} {operation : World → Except ε α × World}
    {answer? : Option (Except ε α)} (h : w.call wait fault operation = some (w', answer?)) :
    (wait.interference.crash = true ∧ answer? = none ∧ w' = w) ∨
      (∃ f failure, wait.interference.fault = some f ∧ fault f = some failure ∧
        answer? = some (.error failure) ∧ w' = w) ∨
      ∃ answer, operation w = (answer, w') ∧ answer? = some answer := by
  rcases callOrCrash_cases h with ⟨hcrash, h⟩ | h | ⟨answer, hdone, hanswer⟩
  · exact .inl ⟨hcrash.resolve_right (Option.some_ne_none _), h⟩
  · exact .inr (.inl h)
  · exact .inr (.inr ⟨answer, Option.some.inj hdone, hanswer⟩)

/-- A call comes to something when its wait is over. -/
theorem callOrCrash_of_due {ε α : Type} {fault : Fault → Option ε}
    {operation : World → Option (Except ε α × World)} (due : w.isDue wait = true) :
    (w.callOrCrash wait fault operation).isSome = true := by
  rw [World.callOrCrash, if_pos due]
  split
  · rfl
  · split
    · rfl
    · split <;> rfl

/-- A call leaves the world as it was, or as its operation does. -/
theorem world_of_call {ε α : Type} {fault : Fault → Option ε}
    {operation : World → Except ε α × World} {answer? : Option (Except ε α)}
    (h : w.call wait fault operation = some (w', answer?)) : w' = w ∨ w' = (operation w).2 := by
  rcases call_cases h with ⟨-, -, rfl⟩ | ⟨-, -, -, -, -, rfl⟩ | ⟨answer, hdone, -⟩
  · exact .inl rfl
  · exact .inl rfl
  · exact .inr (congrArg Prod.snd hdone).symm

/-- A script or the want of room crashes who fetches, the script makes the fetch fail, or it is made.
-/
theorem fetch_cases {task : Task} {activity : Activity} {limit : Nat}
    {answer? : Option (Except StoreFailure (List Message))}
    (h : w.answer? id task activity wait (.fetch limit) = some (w', answer?)) :
    ((wait.interference.crash = true ∨ w.store.fetch? limit = none) ∧ answer? = none ∧ w' = w) ∨
      (∃ f failure, wait.interference.fault = some f ∧
        storeFault (.ofNat 0) .pending f = some failure ∧ answer? = some (.error failure) ∧
        w' = w) ∨
      answer? = some (w.store.fetch limit).1 ∧
        w' = { w with store := (w.store.fetch limit).2 } := by
  simp only [World.answer?] at h
  rcases callOrCrash_cases h with ⟨hcrash, h⟩ | h | ⟨answer, hdone, rfl⟩
  · exact .inl ⟨hcrash.imp_right Option.map_eq_none_iff.mp, h⟩
  · exact .inr (.inl h)
  · obtain ⟨⟨given, store⟩, hfetched, hgiven⟩ := Option.map_eq_some_iff.mp hdone
    rw [Store.fetch_of_fetch? hfetched]
    cases hgiven
    exact .inr (.inr ⟨rfl, rfl⟩)

/-- Who fetches leaves the world as it was, or as the fetch does. -/
theorem world_of_fetch {task : Task} {activity : Activity} {limit : Nat}
    {answer? : Option (Except StoreFailure (List Message))}
    (h : w.answer? id task activity wait (.fetch limit) = some (w', answer?)) :
    w' = w ∨ w' = { w with store := (w.store.fetch limit).2 } := by
  rcases fetch_cases h with ⟨-, -, rfl⟩ | ⟨-, -, -, -, -, rfl⟩ | ⟨-, hdone⟩
  · exact .inl rfl
  · exact .inl rfl
  · exact .inr hdone

/-- So does the action. -/
theorem world_of_fetchAtOnce {limit : Nat} {reply : Reply}
    (h : w.actAtOnce? (.fetch limit) = some (reply, w')) :
    w' = w ∨ w' = { w with store := (w.store.fetch limit).2 } := by
  simp only [World.actAtOnce?] at h
  split at h
  · next answer store hfetched =>
    cases h
    rw [Store.fetch_of_fetch? hfetched]
    exact .inr rfl
  · cases h
    exact .inl rfl

/-- A mild script makes a call fail, or the call is made. -/
theorem call_cases_of_mild {ε α : Type} {fault : Fault → Option ε}
    {operation : World → Except ε α × World} {answer? : Option (Except ε α)}
    (mild : wait.interference.isMild = true)
    (h : w.call wait fault operation = some (w', answer?)) :
    (∃ f failure, wait.interference.fault = some f ∧ fault f = some failure ∧
      answer? = some (.error failure) ∧ w' = w) ∨
      ∃ answer, operation w = (answer, w') ∧ answer? = some answer := by
  rcases call_cases h with ⟨hcrash, -⟩ | h
  · simp [Interference.isMild, hcrash] at mild
  · exact h

/-- The failure that a mild script makes up for the store is one that the store may give. -/
theorem unavailable_of_mild {f : Fault} {failure : StoreFailure} {message : MessageId}
    {status : Status} (mild : wait.interference.isMild = true)
    (hf : wait.interference.fault = some f)
    (hfailure : storeFault message status f = some failure) :
    ∃ reason, failure = .unavailable reason := by
  rw [Interference.isMild, hf] at mild
  cases f with
  | broker failure => cases hfailure
  | store fault =>
    cases fault with
    | unavailable reason =>
      cases hfailure
      exact ⟨reason, rfl⟩
    | notFound => simp at mild
    | conflict current => simp at mild

/-- A call of the store. -/
theorem answered_by_store {α : Type} {message : MessageId} {status : Status}
    {operation : World → Except StoreFailure α × World} {answer? : Option (Except StoreFailure α)}
    (h : Shows s w) (mild : wait.interference.isMild = true)
    (operation' : Instant → Stamp → Store → Except StoreFailure α × Store)
    (hcall : w.call wait (storeFault message status) operation = some (w', answer?))
    (same : ∃ clock stamp, (operation w).1 = (operation' clock stamp s.store).1 ∧
      Shows { s with store := (operation' clock stamp s.store).2 } (operation w).2) :
    ∃ fate answer s', answer? = some answer ∧ s.onStore fate operation' = some (answer, s') ∧
      Shows s' w' := by
  rcases call_cases_of_mild mild hcall with
    ⟨f, failure, hf, hfailure, rfl, rfl⟩ | ⟨answer, hop, rfl⟩
  · obtain ⟨reason, rfl⟩ := unavailable_of_mild mild hf hfailure
    exact ⟨.storeDown reason, _, s, rfl, rfl, h⟩
  · obtain ⟨clock, stamp, hanswer, hshows⟩ := same
    rw [hop] at hanswer hshows
    subst hanswer
    exact ⟨.served clock stamp, _, _, rfl, rfl, hshows⟩

/-- A call of the broker. -/
theorem answered_by_broker {α : Type} {operation : World → Except BrokerFailure α × World}
    {answer? : Option (Except BrokerFailure α)} (h : Shows s w)
    (mild : wait.interference.isMild = true)
    (operation' : Broker → Except BrokerFailure α × Broker)
    (hcall : w.call wait brokerFault operation = some (w', answer?))
    (same : (operation w).1 = (operation' s.broker).1 ∧
      Shows { s with broker := (operation' s.broker).2 } (operation w).2) :
    ∃ fate answer s', answer? = some answer ∧ s.onBroker fate operation' = some (answer, s') ∧
      Shows s' w' := by
  rcases call_cases_of_mild mild hcall with ⟨f, failure, -, -, rfl, rfl⟩ | ⟨answer, hop, rfl⟩
  · exact ⟨.brokerDown failure, _, s, rfl, rfl, h⟩
  · obtain ⟨hanswer, hshows⟩ := same
    rw [hop] at hanswer hshows
    subst hanswer
    exact ⟨.served .epoch default, _, _, rfl, rfl, hshows⟩

/-- Who may enter finds nobody inside. -/
theorem isFree_of_mayEnter (h : Shows s w) {p : PublisherId} (hp : call.work.publisher? = some p)
    (hmay : w.mayEnter id (.ofWork call.work) wait = true) : s.isFree id p = true := by
  rw [System.isFree, List.all_eq_true]
  intro ⟨other, theirs⟩ hmem
  -- the call of somebody else is shown by a task, which is among those that were looked at
  obtain ⟨watch, theirWait, htask, -, -⟩ := h.call (Table.get?_of_mem_entries h.nodup hmem)
  have hactive : (other, Activity.ofWork theirs.work, theirWait) ∈ w.activities :=
    List.mem_filterMap.mpr ⟨_, Table.mem_entries_of_get? htask, rfl⟩
  have hlook := List.all_eq_true.mp hmay _ hactive
  simp only [Bool.or_eq_true, Bool.not_eq_true', Bool.or_eq_false_iff, bne_iff_ne] at hlook ⊢
  rcases hlook with (hsame | hroom) | ⟨hinside, -⟩
  · exact .inl (.inl hsame)
  · refine .inl (.inr fun hpublisher => hroom ?_)
    rw [Activity.room?_ofWork hp, Activity.room?_ofWork hpublisher]
  · rw [Activity.isInside_ofWork] at hinside
    exact .inr hinside

/-- A watch has no part in what is shown. -/
theorem Shown.watching {task : Task} {call? : Option Call} (h : Shown (some task) call?)
    (watch : Option Watch) : Shown (some { task with watch }) call? := by
  cases h with
  | ended => exact .ended
  | aside haside => exact .aside haside
  | call hmild hlasts => exact .call hmild hlasts

theorem Shows.see (h : Shows s w) (id : TaskId) : Shows s (w.see id) := by
  unfold World.see
  split
  · next task htask =>
    have hshown := h.tasks id
    rw [htask] at hshown
    exact h.replace (h.lt_fresh htask) (hshown.watching _) (h.taskHasRoom id task htask)
  · exact h

/-- A message is moved and the step is stamped. -/
theorem Shows.update (h : Shows s w) (message : MessageId) (status : Status) :
    (w.update message status).1 =
        (System.stampedUpdate message status w.clock w.takeStamp.1 w.store).1 ∧
      Shows
        { s with store := (System.stampedUpdate message status w.clock w.takeStamp.1 w.store).2 }
        (w.update message status).2 := by
  have hstored := h.onStore (w.store.update message status w.clock).2
  simp only [World.update, System.stampedUpdate]
  generalize w.store.update message status w.clock = result at hstored
  obtain ⟨answer, store⟩ := result
  cases answer with
  | error failure => exact ⟨rfl, hstored⟩
  | ok change => exact ⟨rfl, { hstored with }⟩

/-- A message is handed to the broker, and the doorbell rings if the broker took it. -/
theorem Shows.publish (h : Shows s w) (exchange : String) (m : Message) :
    (w.publish exchange m).1 = (w.broker.publish exchange m).1 ∧
      Shows { s with broker := (w.broker.publish exchange m).2 } (w.publish exchange m).2 := by
  have hbroker := h.onBroker (w.broker.publish exchange m).2
  simp only [World.publish]
  generalize w.broker.publish exchange m = result at hbroker
  obtain ⟨answer, broker⟩ := result
  cases answer with
  | error failure => exact ⟨rfl, hbroker⟩
  | ok => exact ⟨rfl, { hbroker with }⟩

/-- **What the world answers is an answer of the interplay.** -/
theorem answered_of_answer? (h : Shows s w) {task : Task} {r : Request}
    {answer? : Option r.Answer} (mild : wait.interference.isMild = true)
    (lasts : Lasts call.since wait r) (hasRoom : ∀ limit, r = .fetch limit → limit ≤ Store.room)
    (hr : isOfCall r = true)
    (hanswer : w.answer? id task (.ofWork call.work) wait r = some (w', answer?)) :
    Answered s id call r w' answer? := by
  cases r with
  | proceed =>
    cases hanswer
    exact ⟨.served .epoch default, (), s, rfl, rfl, h⟩
  | enter =>
    simp only [World.answer?] at hanswer
    split at hanswer
    · next hmay =>
      cases hanswer
      have hfree : call.work.publisher?.all (s.isFree id) = true := by
        cases hp : call.work.publisher? with
        | none => rfl
        | some p => exact isFree_of_mayEnter h hp hmay
      exact ⟨.served .epoch default, (), s, rfl, if_pos hfree, h⟩
    · cases hanswer
  | fetch limit =>
    simp only [World.answer?, Store.fetch?_of_le (hasRoom limit rfl), Option.map_some] at hanswer
    refine answered_by_store h mild (fun _ _ store => store.fetch limit) hanswer
      ⟨.epoch, default, ?_, ?_⟩
    · show (w.store.fetch limit).1 = _
      rw [h.store]
    · rw [← h.store]
      exact h.onStore _
  | update message status =>
    simp only [World.answer?] at hanswer
    refine answered_by_store h mild (System.stampedUpdate message status) hanswer
      ⟨w.clock, w.takeStamp.1, ?_⟩
    rw [← h.store]
    exact h.update message status
  | release ids =>
    simp only [World.answer?] at hanswer
    refine answered_by_store h mild (fun _ _ store => store.release ids) hanswer
      ⟨.epoch, default, ?_, ?_⟩
    · show (w.store.release ids).1 = _
      rw [h.store]
    · rw [← h.store]
      exact h.onStore _
  | append entry =>
    simp only [World.answer?] at hanswer
    rcases call_cases_of_mild mild hanswer with
      ⟨f, failure, hf, hfailure, rfl, rfl⟩ | ⟨answer, hop, rfl⟩
    · obtain ⟨reason, rfl⟩ := unavailable_of_mild mild hf hfailure
      exact ⟨.storeDown reason, _, s, rfl, rfl, h⟩
    · cases hop
      refine ⟨.served .epoch default, _, _, rfl, rfl, ?_⟩
      rw [← h.history]
      exact { h with history := rfl }
  | publish exchange m =>
    simp only [World.answer?] at hanswer
    refine answered_by_broker h mild (·.publish exchange m) hanswer ?_
    rw [← h.broker]
    exact h.publish exchange m
  | subscribe queue =>
    simp only [World.answer?] at hanswer
    refine answered_by_broker h mild (·.subscribe queue) hanswer ⟨?_, ?_⟩
    · show (w.broker.subscribe queue).1 = _
      rw [h.broker]
    · rw [← h.broker]
      exact h.onBroker _
  | sleep milliseconds =>
    simp only [World.answer?] at hanswer
    split at hanswer
    · next hdue =>
      cases hanswer
      exact ⟨.served .epoch default, (), s, rfl, if_pos (lasted h hdue lasts), h⟩
    · cases hanswer
  | pause milliseconds =>
    simp only [World.answer?] at hanswer
    split at hanswer
    · split at hanswer
      · next hdue =>
        cases hanswer
        exact ⟨.served .epoch default, false, s, rfl, if_pos (lasted h hdue lasts), h⟩
      · cases hanswer
    · next watch hwatch =>
      -- the signal may have changed or time may have passed: a pause may end either way
      split at hanswer
      · cases hanswer
        exact ⟨.signalled ((w.signal watch.signal).halts watch.seen), _, s, rfl, rfl, h.see id⟩
      · cases hanswer
  | receive stream =>
    simp only [World.answer?] at hanswer
    split at hanswer
    · next signal seen hsignal =>
      cases hanswer
      exact ⟨.signalled !(signal.hasNews seen), _, s, rfl, rfl, h.see id⟩
    · rw [h.broker] at hanswer
      split at hanswer
      · cases hanswer
      all_goals
        next broker hreceived =>
          cases hanswer
          refine ⟨.served .epoch default, _, _, rfl, ?_, h.onBroker broker⟩
          simp only [System.answer?, System.hear?, hreceived]
          rfl
  | ready | take | listen | launch | halt | join => cases hr

end Answers

/-! ## Turns -/

/-- What a task at a call makes of an answer. -/
def World.goOn (w : World) (id : TaskId) (c : Config) (stop : Bool) (work : Work)
    (answer : (work.request c).Answer) : World :=
  match work.publisher? with
  | none => w.settle id .ofWork .ofResult (work.resume c stop [] answer).2
  | some p =>
    let (carried, turn) := work.resume c stop (w.carried.getD p []) answer
    { w with carried := w.carried.put p carried }.settle id .ofWork .ofResult turn

/-- The turn of a part of a larger process settles as the part does. -/
theorem settle_andThen {σ τ α β : Type} (w : World) (id : TaskId) (turn : Turn σ α)
    (inner : σ → τ) (next : α → β) (wrap : τ → Activity) (reply : β → Reply) :
    w.settle id wrap reply (turn.andThen inner fun a => .finish (next a)) =
      w.settle id (fun s => wrap (inner s)) (fun a => reply (next a)) turn := by
  obtain ⟨notices, progress⟩ := turn
  cases progress with
  | waiting state => rfl
  | finished outcome => simp [Turn.andThen, World.settle, Turn.finish]

/-- The turn of a task at a call. -/
theorem turn?_of_call {w : World} {id : TaskId} {c : Config} {watch : Option Watch} {work : Work}
    {wait : Wait} (htask : w.tasks.get? id = some ⟨c, watch, .running (.ofWork work) wait⟩) :
    w.turn? id = World.answered id
      (w.answer? id ⟨c, watch, .running (.ofWork work) wait⟩ (.ofWork work) wait (work.request c))
      fun w' answer =>
        w'.goOn id c (w'.stops ⟨c, watch, .running (.ofWork work) wait⟩) work answer := by
  simp only [World.turn?, htask, Option.bind_eq_bind, Option.bind_some]
  cases work with
  | recording s =>
    simp only [Activity.ofWork, World.goOn, Work.publisher?, Work.resume, settle_andThen]
    rfl
  | handling s =>
    simp only [Activity.ofWork, World.goOn, Work.publisher?, Work.resume, settle_andThen]
    rfl
  | consuming s =>
    simp only [Activity.ofWork, World.goOn, Work.publisher?, Work.resume, settle_andThen]
    rfl
  | batching publisher s =>
    simp only [Activity.ofWork, World.goOn, Work.publisher?, Work.resume, settle_andThen]
    rfl
  | publishing publisher s =>
    simp only [Activity.ofWork, World.goOn, Work.publisher?, Work.resume, settle_andThen]
    rfl

section Turns

variable {s : System} {w w' : World} {id : TaskId} {call : Call}

/-- A call makes the same of an answer in both. -/
theorem Shows.goOn (h : Shows s w) (get : s.calls.get? id = some call) (stop : Bool)
    (answer : call.request.Answer) :
    Shows (s.resume id call stop answer).2 (w.goOn id call.config stop call.work answer) := by
  cases hp : call.work.publisher? with
  | none =>
    simp only [System.resume, World.goOn, hp]
    exact h.settle get _
  | some p =>
    have hcarried : w.carried.getD p [] = s.carriedOf p := by
      rw [System.carriedOf, h.carried]
    simp only [System.resume, World.goOn, hp, hcarried]
    exact (h.carry p _).settle get _

/-- **A turn of a task at a call is a step of the interplay.** -/
theorem follows_of_call (h : Shows s w) (get : s.calls.get? id = some call)
    (hturn : w.turn? id = some w') : Follows s w' := by
  obtain ⟨watch, wait, htask, hmild, hlasts⟩ := h.call get
  rw [turn?_of_call htask, World.answered, Option.map_eq_some_iff] at hturn
  obtain ⟨⟨answered, answer?⟩, hanswer, hturn⟩ := hturn
  obtain ⟨fate, answer, mid, rfl, hfate, hmid⟩ :=
    answered_of_answer? h hmild hlasts
      (fun _ fetches =>
        Nat.le_trans (Nat.le_of_eq (limit_of_request fetches)) (h.taskHasRoom id _ htask))
      (isOfCall_work _ _) hanswer
  subst hturn
  -- an answer leaves the call where it is
  have hstill : mid.calls.get? id = some call := by
    rw [(answer?_frame hfate).2.2]
    exact get
  show Follows s (answered.goOn id call.config (answered.stops _) call.work answer)
  generalize answered.stops _ = stop
  have hmove : s.perform? (.turn id fate stop) =
      some (.turn id call answer (mid.resume id call stop answer).1,
        (mid.resume id call stop answer).2) := by
    simp only [System.perform?, get, Option.bind_eq_bind, Option.bind_some, hfate]
  exact follows_of_move hmove (hmid.goOn hstill stop answer)

end Turns

end Outbox.Rehearsal
