import Outbox.Proofs.FirstLook
/-!
# `Proofs.RecordUnderFaults` — recording while the store and the history are out of reach

A recording makes two writes, one after the other. Each is tried again after a fault, as often as the
settings allow and with a wait before each time, and each has this allowance to itself. Nothing
changes by a try that meets a fault. So it only depends on the number of faults that a write meets
whether it is done at last, and a status that is written at last is written to the store as it is
then, whatever others have made of it during the waits.
-/

namespace Outbox

namespace Request

/-- Whether a status is to be written. -/
def isUpdate : Request → Bool
  | .update _ _ => true
  | _ => false

/-- Whether an entry is to be written. -/
def isAppend : Request → Bool
  | .append _ => true
  | _ => false

/-- For how long the caller is to wait. -/
def rest : Request → Nat
  | .sleep milliseconds => milliseconds
  | _ => 0

end Request

namespace Store

/-- The store after a message has made a step. -/
def stepped (s : Store) (id : MessageId) (m : Message) (status : Status) (now : Instant) : Store :=
  { s with
    messages := s.messages.put id { m with status, updatedAt := now }
    claimed := s.claimed.filter (· ≠ id)
    writes := s.writes + 1 }

/-- What an update does to any store. -/
theorem update_stepped {s s' : Store} {id : MessageId} {status : Status} {now : Instant}
    {answer : Except StoreFailure Transition} (h : s.update id status now = (answer, s')) :
    (∃ reason, answer = .error (.unavailable reason) ∧ s.Same s') ∨
    (answer = .error (.notFound id) ∧ s.status? id = none ∧ s' = s) ∨
    (∃ current, answer = .error (.conflict id current status) ∧ s.status? id = some current ∧
      ¬ Status.Step current status ∧ s' = s) ∨
    ∃ m, answer = .ok ⟨id, m.status, status⟩ ∧ s.messages.get? id = some m ∧
      Status.Step m.status status ∧ s' = s.stepped id m status now := by
  rcases attempt_cases h with h | h
  · exact .inl h
  · split at h
    · cases h
      exact .inl ⟨_, rfl, rfl, rfl, rfl, rfl⟩
    · right
      split at h
      · next hnone =>
        cases h
        exact .inl ⟨rfl, by rw [status?, hnone]; rfl, rfl⟩
      · next m hfound =>
        right
        have hstatus : s.status? id = some m.status := by rw [status?, hfound]; rfl
        split at h
        · next hlegal =>
          cases h
          exact .inr ⟨m, rfl, hfound, Status.canBecome_iff.mp hlegal, rfl⟩
        · next hillegal =>
          cases h
          refine .inl ⟨m.status, rfl, hstatus, ?_, rfl⟩
          rwa [← Status.canBecome_iff]

end Store

namespace Interplay

/-- What a request to move a message comes to, whatever the store. -/
theorem answer_stepped {s mid : System} {t : TaskId} {call : Call} {fate : Fate} {id : MessageId}
    {status : Status} {answer : Except StoreFailure (Transition × Stamp)}
    (h : s.answer? t call fate (.update id status) = some (answer, mid)) :
    ∃ store, mid = { s with store } ∧
      ((∃ reason, answer = .error (.unavailable reason) ∧ s.store.Same store) ∨
      (answer = .error (.notFound id) ∧ s.store.status? id = none ∧ store = s.store) ∨
      (∃ current, answer = .error (.conflict id current status) ∧
        s.store.status? id = some current ∧ ¬ Status.Step current status ∧ store = s.store) ∨
      ∃ m stamp now, answer = .ok (⟨id, m.status, status⟩, stamp) ∧
        s.store.messages.get? id = some m ∧ Status.Step m.status status ∧
        store = s.store.stepped id m status now) := by
  change s.onStore fate (System.stampedUpdate id status) = _ at h
  rcases onStore_cases h with ⟨reason, rfl, rfl⟩ | ⟨clock, stamp, store, hop, hmid⟩
  · exact ⟨_, rfl, .inl ⟨reason, rfl, .refl _⟩⟩
  · refine ⟨store, hmid, ?_⟩
    -- the stamp goes into the answer only
    obtain ⟨plain, store', hplain⟩ : ∃ plain store', s.store.update id status clock =
        (plain, store') := ⟨_, _, rfl⟩
    rw [System.stampedUpdate, hplain] at hop
    obtain rfl : store' = store := congrArg Prod.snd hop
    rcases Store.update_stepped hplain with ⟨reason, rfl, hsame⟩ | ⟨rfl, hnone, hstore⟩ |
      ⟨current, rfl, hstatus, hillegal, hstore⟩ | ⟨m, rfl, hfound, hlegal, hstore⟩
    · cases hop
      exact .inl ⟨reason, rfl, hsame⟩
    · cases hop
      exact .inr (.inl ⟨rfl, hnone, hstore⟩)
    · cases hop
      exact .inr (.inr (.inl ⟨current, rfl, hstatus, hillegal, hstore⟩))
    · cases hop
      exact .inr (.inr (.inr ⟨m, stamp, clock, rfl, hfound, hlegal, hstore⟩))

/-! ## Faults and waits -/

/-- Whether the store or the history has done what was asked at a turn. -/
def Beat.served (b : Beat) : Bool :=
  b.call.request.isServed b.answer

/-- Which requests of a kind were served, in the order in which they were made. -/
def replies (kind : Request → Bool) (beats : List Beat) : List Bool :=
  (beats.filter fun b => kind b.call.request).map Beat.served

/-- Just the first `n` requests were not served. -/
def FaultsFirst (n : Nat) (replies : List Bool) : Prop :=
  ∀ i served, replies[i]? = some served → served = decide (n ≤ i)

/-- What is asked for to make a write and to make it again some number of times. -/
def retried (c : Config) (write : Request) (retries : Nat) : List Request :=
  (List.replicate retries [write, .sleep c.errorBackoff]).flatten ++ [write]

/-- How long was waited altogether. -/
def waited (beats : List Beat) : Nat :=
  ((requests beats).map Request.rest).sum

/-- What is asked of the surroundings of a call: the call is left to itself, and the clock is not
turned back. -/
structure Elsewhere (t : TaskId) (s s' : System) : Prop where
  call : s'.calls.get? t = s.calls.get? t
  now : s.now ≤ s'.now

theorem Apart.elsewhere {t : TaskId} {s s' : System} (h : Apart t s s') : Elsewhere t s s' :=
  ⟨h.call, h.now⟩

section Replies

variable {kind : Request → Bool} {beats : List Beat} {b : Beat} {n k : Nat} {given : List Bool}

theorem replies_append (kind : Request → Bool) (before later : List Beat) :
    replies kind (before ++ later) = replies kind before ++ replies kind later := by
  rw [replies, List.filter_append, List.map_append, replies, replies]

theorem replies_singleton (kind : Request → Bool) (b : Beat) :
    replies kind [b] = if kind b.call.request then [b.served] else [] := by
  rw [replies, List.filter_singleton]
  cases kind b.call.request <;> rfl

theorem requests_append (before later : List Beat) :
    requests (before ++ later) = requests before ++ requests later :=
  List.map_append

theorem results_append (before later : List Beat) :
    results (before ++ later) = results before ++ results later :=
  List.filterMap_append

theorem waited_append (before later : List Beat) :
    waited (before ++ later) = waited before + waited later := by
  rw [waited, requests_append, List.map_append, List.sum_append, waited, waited]

theorem waited_singleton (b : Beat) : waited [b] = b.call.request.rest :=
  Nat.add_zero _

/-- One request more, and whether it was served. -/
theorem FaultsFirst.snoc {served : Bool} (h : FaultsFirst n given)
    (hserved : served = decide (n ≤ given.length)) : FaultsFirst n (given ++ [served]) := by
  intro i other hi
  rcases Nat.lt_trichotomy i given.length with hlt | rfl | hgt
  · rw [List.getElem?_append_left hlt] at hi
    exact h i other hi
  · rw [List.getElem?_concat_length] at hi
    exact Option.some.inj hi ▸ hserved
  · rw [List.getElem?_eq_none (by simpa using Nat.succ_le_of_lt hgt)] at hi
    cases hi

theorem FaultsFirst.of_append {later : List Bool} (h : FaultsFirst n (given ++ later)) :
    FaultsFirst n given := by
  intro i served hi
  obtain ⟨hlt, -⟩ := List.getElem?_eq_some_iff.mp hi
  exact h i served (by rw [List.getElem?_append_left hlt, hi])

/-- As many faults have been met as there were requests not served. -/
theorem FaultsFirst.le (h : FaultsFirst n (List.replicate k false)) : k ≤ n := by
  cases k with
  | zero => exact Nat.zero_le n
  | succ k =>
    have hlast := h k false (by simp)
    exact Nat.lt_of_not_le (of_decide_eq_false hlast.symm)

/-- The first request that is served comes after all the faults. -/
theorem FaultsFirst.eq (h : FaultsFirst n (List.replicate k false ++ [true])) : n = k := by
  have hle : k ≤ n := h.of_append.le
  have hserved := h k true (by simp)
  exact Nat.le_antisymm (of_decide_eq_true hserved.symm) hle

/-- The shortest list of replies with a given number of faults and one that was served. -/
theorem faultsFirst_replicate (n : Nat) : FaultsFirst n (List.replicate n false ++ [true]) := by
  have hfaults (k : Nat) (hk : k ≤ n) : FaultsFirst n (List.replicate k false) := by
    induction k with
    | zero => exact fun _ _ h => by cases h
    | succ k ih =>
      rw [List.replicate_succ']
      refine (ih (Nat.le_of_succ_le hk)).snoc ?_
      rw [List.length_replicate]
      exact (decide_eq_false (Nat.not_le_of_lt hk)).symm
  refine (hfaults n (Nat.le_refl n)).snoc ?_
  rw [List.length_replicate]
  exact (decide_eq_true (Nat.le_refl n)).symm

end Replies

/-! ## The tries of one write -/

/-- What a recording writes. -/
inductive Errand
  | status (outcome : Outcome)
  /-- The entry for a step that has been made. -/
  | entry (change : Transition) (told : HistoryEntry)

namespace Errand

/-- What is asked for to write it. -/
def request : Errand → Request
  | .status outcome => .update outcome.id outcome.target
  | .entry _ told => .append told

/-- The recording that tries to write it. -/
def trying : Errand → Nat → Recording
  | .status outcome => .updating outcome
  | .entry change told => .appending change told

/-- The recording that waits to try again. -/
def resting : Errand → Nat → Recording
  | .status outcome => .updatePause outcome
  | .entry change told => .appendPause change told

end Errand

/-- A turn at which a write was not served, and that changes nothing. -/
structure Beat.Fails (b : Beat) (write : Request) : Prop where
  request : b.call.request = write
  served : b.served = false
  spares : b.Spares

/-- The end of a wait, after which the call goes on. -/
structure Beat.Rests (b : Beat) (c : Config) : Prop where
  request : b.call.request = .sleep c.errorBackoff
  spares : b.Spares
  goesOn : b.result = none

/-- A write was tried some number of times, was not served, and was to be tried again each time. -/
inductive Retries (c : Config) (write : Request) : Nat → List Beat → Prop
  | none : Retries c write 0 []
  | more {k : Nat} {beats : List Beat} {attempt pause : Beat} : Retries c write k beats →
      attempt.Fails write → attempt.result = .none → pause.Rests c →
      Retries c write (k + 1) (beats ++ [attempt, pause])

/-- A write was tried again some number of times, and served then; this began at a moment. -/
structure Reached (c : Config) (write : Request) (start k : Nat) (beats : List Beat) (last : Beat) :
    Prop where
  retries : Retries c write k beats
  few : k ≤ c.storeRetries
  time : start + c.errorBackoff * k ≤ last.before.now
  request : last.call.request = write
  served : last.served = true

/-- Where a write is that has met faults only. -/
inductive Trying (c : Config) (w : Errand) (t : TaskId) (start : Nat) (s : System) :
    List Beat → Prop
  /-- It is about to be tried. -/
  | asking {k since : Nat} {beats : List Beat} (retries : Retries c w.request k beats)
      (few : k ≤ c.storeRetries) (time : start + c.errorBackoff * k ≤ s.now)
      (call : s.calls.get? t = some ⟨c, .recording (w.trying k), since⟩) :
      Trying c w t start s beats
  /-- It is to be tried again after a while. -/
  | resting {k since : Nat} {beats : List Beat} {attempt : Beat}
      (retries : Retries c w.request k beats) (fails : attempt.Fails w.request)
      (goesOn : attempt.result = none) (more : k < c.storeRetries)
      (time : start + c.errorBackoff * k ≤ since)
      (call : s.calls.get? t = some ⟨c, .recording (w.resting (k + 1)), since⟩) :
      Trying c w t start s (beats ++ [attempt])
  /-- It has been given up. -/
  | lost {beats : List Beat} {last : Beat} {reason : String}
      (retries : Retries c w.request c.storeRetries beats) (fails : last.Fails w.request)
      (time : start + c.errorBackoff * c.storeRetries ≤ s.now)
      (result : last.result = some (.recorded (.error (.unavailable reason))))
      (ended : s.calls.get? t = none) : Trying c w t start s (beats ++ [last])

section Tries

variable {c : Config} {w : Errand} {write : Request} {t : TaskId} {start k since : Nat}
  {s s' mid : System} {beats : List Beat} {last : Beat} {call : Call} {stop : Bool}
  {result : Option Result}

/-! ### What the tries show -/

theorem Retries.requests (h : Retries c write k beats) :
    requests beats = (List.replicate k [write, .sleep c.errorBackoff]).flatten := by
  induction h with
  | none => rfl
  | more _ hfails _ hrests ih =>
    rw [requests_append, ih, List.replicate_succ', List.flatten_append]
    simp [Interplay.requests, hfails.request, hrests.request]

theorem Retries.length (h : Retries c write k beats) : beats.length = 2 * k := by
  induction h with
  | none => rfl
  | more _ _ _ _ ih =>
    rw [List.length_append, ih]
    rfl

theorem Retries.results (h : Retries c write k beats) : results beats = [] := by
  induction h with
  | none => rfl
  | more _ _ hgoesOn hrests ih =>
    rw [results_append, ih]
    simp [Interplay.results, hgoesOn, hrests.goesOn]

theorem Retries.spares (h : Retries c write k beats) : ∀ b ∈ beats, b.Spares := by
  induction h with
  | none => exact fun _ hb => absurd hb List.not_mem_nil
  | more _ hfails _ hrests ih =>
    exact List.forall_mem_append.mpr
      ⟨ih, List.forall_mem_cons.mpr ⟨hfails.spares, List.forall_mem_singleton.mpr hrests.spares⟩⟩

theorem Retries.waited (h : Retries c write k beats) (hwrite : write.rest = 0) :
    waited beats = c.errorBackoff * k := by
  induction h with
  | none => rfl
  | more _ hfails _ hrests ih =>
    have hsleep : (Request.sleep c.errorBackoff).rest = c.errorBackoff := rfl
    rw [waited_append, ih, Nat.mul_succ]
    simp [Interplay.waited, Interplay.requests, hfails.request, hrests.request, hwrite, hsleep]

/-- Of the requests of its own kind none was served, and there are none of a kind that has neither
the write nor a wait in it. -/
theorem Retries.replies (h : Retries c write k beats) {kind : Request → Bool}
    (hrest : kind (.sleep c.errorBackoff) = false) :
    replies kind beats = if kind write then List.replicate k false else [] := by
  induction h with
  | none => cases kind write <;> rfl
  | more _ hfails _ hrests ih =>
    rw [replies_append, ih, List.replicate_succ']
    cases hkind : kind write <;>
      simp [Interplay.replies, hfails.request, hrests.request, hrest, hkind, hfails.served]

/-- The tries before, and one more. -/
theorem Retries.requests_last (h : Retries c write k beats) (hlast : last.call.request = write) :
    Interplay.requests (beats ++ [last]) = retried c write k := by
  rw [requests_append, h.requests, retried, ← hlast]
  rfl

theorem Retries.replies_last (h : Retries c write k beats) (hlast : last.call.request = write)
    (kind : Request → Bool) (hrest : kind (.sleep c.errorBackoff) = false) :
    Interplay.replies kind (beats ++ [last]) =
      if kind write then List.replicate k false ++ [last.served] else [] := by
  rw [replies_append, h.replies hrest, replies_singleton, hlast]
  cases kind write <;> rfl

theorem Retries.waited_last (h : Retries c write k beats) (hlast : last.call.request = write)
    (hwrite : write.rest = 0) : Interplay.waited (beats ++ [last]) = c.errorBackoff * k := by
  rw [waited_append, h.waited hwrite, waited_singleton, hlast, hwrite, Nat.add_zero]

theorem Retries.spares_last (h : Retries c write k beats) (hlast : last.Fails write) :
    ∀ b ∈ beats ++ [last], b.Spares :=
  List.forall_mem_append.mpr ⟨h.spares, List.forall_mem_singleton.mpr hlast.spares⟩

theorem Retries.results_last (h : Retries c write k beats) (last : Beat) :
    Interplay.results (beats ++ [last]) = last.result.toList := by
  rw [results_snoc, h.results, List.nil_append]

/-! ### Turns -/

/-- What is left of a recording after a turn. -/
theorem Turned.recording_next {rec : Recording}
    {answer : (Call.request ⟨c, .recording rec, since⟩).Answer}
    {progress : Progress Recording (Except StoreFailure RecordResult)}
    (h : Turned s t ⟨c, .recording rec, since⟩ answer stop result mid s')
    (hprogress : (rec.resume c answer).progress = progress) :
    result = progress.outcome?.map .recorded ∧ s'.calls.get? t =
      progress.look (fun next => some ⟨c, .recording next, s.now⟩) none := by
  have hcalls := h.calls t
  have hresult := h.result
  rw [if_pos rfl] at hcalls
  simp only [System.turnOf, Work.resume] at hcalls hresult
  cases progress with
  | waiting next =>
    rw [Turn.andThen_of_waiting hprogress] at hcalls hresult
    exact ⟨hresult, hcalls⟩
  | finished outcome =>
    rw [Turn.andThen_of_finished hprogress] at hcalls hresult
    exact ⟨hresult, hcalls⟩

/-- A failure puts the write off as long as there are retries left. -/
theorem progress_unserved (outcome : Outcome) (reason : String) :
    ((Recording.updating outcome k).resume c (Except.error (.unavailable reason))).progress =
      if k < c.storeRetries then .waiting (.updatePause outcome (k + 1))
      else .finished (.error (.unavailable reason)) := by
  by_cases hk : k < c.storeRetries
  · simp [Recording.resume, Recording.triesAgain, StoreFailure.kind, hk]
  · simp [Recording.resume, Recording.triesAgain, Recording.refused, hk]

theorem progress_untold (change : Transition) (told : HistoryEntry) (reason : String) :
    ((Recording.appending change told k).resume c (Except.error (.unavailable reason))).progress =
      if k < c.storeRetries then .waiting (.appendPause change told (k + 1))
      else .finished (.error (.unavailable reason)) := by
  by_cases hk : k < c.storeRetries
  · simp [Recording.resume, Recording.triesAgain, StoreFailure.kind, hk]
  · simp [Recording.resume, Recording.triesAgain, hk]

/-- What is left of a recording of which a write was put off or given up. -/
theorem Turned.put_off {rec later : Recording}
    {answer : (Call.request ⟨c, .recording rec, since⟩).Answer} {reason : String}
    (h : Turned s t ⟨c, .recording rec, since⟩ answer stop result mid s')
    (hprogress : (rec.resume c answer).progress = if k < c.storeRetries then .waiting later
      else .finished (.error (.unavailable reason))) :
    (k < c.storeRetries ∧ result = none ∧
      s'.calls.get? t = some ⟨c, .recording later, s.now⟩) ∨
    (c.storeRetries ≤ k ∧ (∃ reason, result = some (.recorded (.error (.unavailable reason)))) ∧
      s'.calls.get? t = none) := by
  obtain ⟨hresult, hcall⟩ := h.recording_next hprogress
  by_cases hk : k < c.storeRetries
  · rw [if_pos hk] at hresult hcall
    exact .inl ⟨hk, hresult, hcall⟩
  · rw [if_neg hk] at hresult hcall
    exact .inr ⟨Nat.le_of_not_lt hk, ⟨reason, hresult⟩, hcall⟩

/-- A write that is not served changes nothing, and is tried again if there are retries left. -/
theorem Turned.unserved {answer : (Call.request ⟨c, .recording (w.trying k), since⟩).Answer}
    (h : Turned s t ⟨c, .recording (w.trying k), since⟩ answer stop result mid s')
    (hserved : (Call.request ⟨c, .recording (w.trying k), since⟩).isServed answer = false) :
    (s.store.Same s'.store ∧ s'.history = s.history) ∧
    ((k < c.storeRetries ∧ result = none ∧
      s'.calls.get? t = some ⟨c, .recording (w.resting (k + 1)), s.now⟩) ∨
    (c.storeRetries ≤ k ∧ (∃ reason, result = some (.recorded (.error (.unavailable reason)))) ∧
      s'.calls.get? t = none)) := by
  obtain ⟨fate, hanswer⟩ := h.answered
  cases w with
  | status outcome =>
    change s.answer? t _ fate (.update outcome.id outcome.target) = _ at hanswer
    obtain ⟨store, rfl, ⟨reason, rfl, hsame⟩ | ⟨rfl, -⟩ | ⟨current, rfl, -⟩ |
      ⟨m, stamp, now, rfl, -⟩⟩ := answer_stepped hanswer
    · exact ⟨⟨h.store ▸ hsame, h.history⟩, h.put_off (progress_unserved outcome reason)⟩
    all_goals cases hserved
  | entry change told =>
    change s.answer? t _ fate (.append told) = _ at hanswer
    rcases answer_append hanswer with ⟨rfl, rfl⟩ | ⟨reason, rfl, rfl⟩
    · cases hserved
    · refine ⟨⟨?_, h.history⟩, h.put_off (progress_untold change told reason)⟩
      rw [h.store]
      exact .refl _

/-- A wait is over, and the write is tried again. -/
theorem Turned.rested {answer : (Call.request ⟨c, .recording (w.resting k), since⟩).Answer}
    (h : Turned s t ⟨c, .recording (w.resting k), since⟩ answer stop result mid s') :
    Beat.Rests ⟨s, ⟨c, .recording (w.resting k), since⟩, answer, result, s'⟩ c ∧
    since + c.errorBackoff ≤ s.now ∧
    s'.calls.get? t = some ⟨c, .recording (w.trying k), s.now⟩ := by
  obtain ⟨fate, hanswer⟩ := h.answered
  cases w
  all_goals
    change s.answer? t _ fate (.sleep c.errorBackoff) = _ at hanswer
    obtain ⟨rfl, hpassed⟩ := answer_sleep hanswer
    obtain ⟨hresult, hcall⟩ := h.recording_next rfl
    have hsame : mid.store.Same s'.store := h.store ▸ .refl _
    exact ⟨⟨rfl, ⟨hsame, h.history⟩, hresult⟩, hpassed, hcall⟩

/-- What happens between the turns does not concern the write. -/
theorem Trying.meanwhile (h : Trying c w t start s beats) (other : Elsewhere t s s') :
    Trying c w t start s' beats := by
  cases h with
  | asking retries few time call =>
    exact .asking retries few (Nat.le_trans time other.now) (other.call.trans call)
  | resting retries fails goesOn more time call =>
    exact .resting retries fails goesOn more time (other.call.trans call)
  | lost retries fails time result ended =>
    exact .lost retries fails (Nat.le_trans time other.now) result (other.call.trans ended)

/-- A turn of a recording at which no write is served leaves it at the same write. -/
theorem Trying.turn {answer : call.request.Answer} (h : Trying c w t start s beats)
    (hturn : Turned s t call answer stop result mid s') :
    Trying c w t start s' (beats ++ [⟨s, call, answer, result, s'⟩]) ∨
    ∃ k since, call = ⟨c, .recording (w.trying k), since⟩ ∧
      Reached c w.request start k beats ⟨s, call, answer, result, s'⟩ := by
  have hrequest (k : Nat) : (w.trying k).request c = w.request := by cases w <;> rfl
  cases h with
  | @asking k since beats retries few time hcall =>
    cases hcall.symm.trans hturn.found
    cases hserved : (Call.request ⟨c, .recording (w.trying k), since⟩).isServed answer with
    | true => exact .inr ⟨k, since, rfl, retries, few, time, hrequest k, hserved⟩
    | false =>
      left
      obtain ⟨⟨hstore, hhistory⟩, hnext⟩ := hturn.unserved hserved
      have hfails : Beat.Fails ⟨s, ⟨c, .recording (w.trying k), since⟩, answer, result, s'⟩
          w.request := ⟨hrequest k, hserved, hstore, hhistory⟩
      rcases hnext with ⟨hk, rfl, hcall⟩ | ⟨hk, ⟨reason, rfl⟩, hended⟩
      · exact .resting retries hfails rfl hk time hcall
      · obtain rfl : k = c.storeRetries := Nat.le_antisymm few hk
        exact .lost retries hfails (hturn.now ▸ time) rfl hended
  | @resting k since beats attempt retries fails goesOn more time hcall =>
    cases hcall.symm.trans hturn.found
    left
    obtain ⟨hrests, hpassed, hcall⟩ := hturn.rested
    have hlater : start + c.errorBackoff * (k + 1) ≤ s'.now := by
      rw [hturn.now, Nat.mul_succ, ← Nat.add_assoc]
      exact Nat.le_trans (Nat.add_le_add_right time _) hpassed
    rw [List.append_assoc]
    exact .asking (.more retries fails goesOn hrests) more hlater hcall
  | lost _ _ _ _ ended => cases ended.symm.trans hturn.found

end Tries

/-! ## The two writes of a recording -/

/-- A turn that moves a message, and ends the claim on it. -/
structure Beat.Steps (b : Beat) (id : MessageId) (old new : Status) : Prop where
  legal : Status.Step old new
  store : ∃ m now, b.before.store.messages.get? id = some m ∧ m.status = old ∧
    b.after.store = b.before.store.stepped id m new now
  history : b.after.history = b.before.history

/-- A turn that adds one entry to the history. -/
structure Beat.Enters (b : Beat) (entry : HistoryEntry) : Prop where
  store : b.before.store.Same b.after.store
  history : b.after.history = b.before.history.append entry

/-- Where the recording of an outcome is. -/
inductive Effort (c : Config) (outcome : Outcome) (t : TaskId) (start : Nat) (s : System) :
    List Beat → Prop
  /-- The status has not been written. -/
  | status {beats : List Beat} (trying : Trying c (.status outcome) t start s beats) :
      Effort c outcome t start s beats
  /-- The store knows no such message. -/
  | unknown {k : Nat} {beats : List Beat} {look : Beat}
      (reached : Reached c (.update outcome.id outcome.target) start k beats look)
      (absent : look.before.store.status? outcome.id = none) (spares : look.Spares)
      (result : look.result = some (.recorded (.ok .notFound))) (now : look.before.now ≤ s.now)
      (ended : s.calls.get? t = none) : Effort c outcome t start s (beats ++ [look])
  /-- The step is not legal. -/
  | refused {k : Nat} {beats : List Beat} {look : Beat} {current : Status}
      (reached : Reached c (.update outcome.id outcome.target) start k beats look)
      (found : look.before.store.status? outcome.id = some current)
      (illegal : ¬ Status.Step current outcome.target) (spares : look.Spares)
      (result : look.result = some (.recorded (.ok (.conflict current))))
      (now : look.before.now ≤ s.now) (ended : s.calls.get? t = none) :
      Effort c outcome t start s (beats ++ [look])
  /-- The status has been written, and the entry has not. -/
  | entry {k : Nat} {beats after : List Beat} {look : Beat} {old : Status} {id : EntryId}
      {time : Instant} (reached : Reached c (.update outcome.id outcome.target) start k beats look)
      (steps : look.Steps outcome.id old outcome.target) (goesOn : look.result = none)
      (trying : Trying c (.entry ⟨outcome.id, old, outcome.target⟩
        (.make id outcome.id outcome.target outcome.detail time)) t look.before.now s after) :
      Effort c outcome t start s (beats ++ look :: after)
  /-- Both have been written. -/
  | told {k l : Nat} {beats after : List Beat} {look tell : Beat} {old : Status} {id : EntryId}
      {time : Instant} (reached : Reached c (.update outcome.id outcome.target) start k beats look)
      (steps : look.Steps outcome.id old outcome.target) (goesOn : look.result = none)
      (again : Reached c (.append (.make id outcome.id outcome.target outcome.detail time))
        look.before.now l after tell)
      (enters : tell.Enters (.make id outcome.id outcome.target outcome.detail time))
      (result : tell.result =
        some (.recorded (.ok (.recorded ⟨outcome.id, old, outcome.target⟩))))
      (now : tell.before.now ≤ s.now) (ended : s.calls.get? t = none) :
      Effort c outcome t start s (beats ++ look :: (after ++ [tell]))

section Effort

variable {c : Config} {outcome : Outcome} {t : TaskId} {start : Nat} {s s' mid : System}
  {beats : List Beat} {call : Call} {stop : Bool} {result : Option Result}

/-- What happens between the turns does not concern the recording. -/
theorem Effort.meanwhile (h : Effort c outcome t start s beats) (other : Elsewhere t s s') :
    Effort c outcome t start s' beats := by
  have hcall := other.call
  have later {moment : Nat} (h : moment ≤ s.now) : moment ≤ s'.now := Nat.le_trans h other.now
  cases h with
  | status trying => exact .status (trying.meanwhile other)
  | unknown reached absent spares result now ended =>
    exact .unknown reached absent spares result (later now) (hcall.trans ended)
  | refused reached found illegal spares result now ended =>
    exact .refused reached found illegal spares result (later now) (hcall.trans ended)
  | entry reached steps goesOn trying =>
    exact .entry reached steps goesOn (trying.meanwhile other)
  | told reached steps goesOn again enters result now ended =>
    exact .told reached steps goesOn again enters result (later now) (hcall.trans ended)

/-- What the first update that is served comes to. -/
theorem Turned.reaches {k since : Nat}
    {answer : (Call.request ⟨c, .recording (.updating outcome k), since⟩).Answer}
    (h : Turned s t ⟨c, .recording (.updating outcome k), since⟩ answer stop result mid s')
    (reached : Reached c (.update outcome.id outcome.target) start k beats
      ⟨s, ⟨c, .recording (.updating outcome k), since⟩, answer, result, s'⟩) :
    Effort c outcome t start s'
      (beats ++ [⟨s, ⟨c, .recording (.updating outcome k), since⟩, answer, result, s'⟩]) := by
  obtain ⟨fate, hanswer⟩ := h.answered
  have hnow : s.now ≤ s'.now := Nat.le_of_eq h.now.symm
  change s.answer? t _ fate (.update outcome.id outcome.target) = _ at hanswer
  obtain ⟨store, rfl, ⟨reason, rfl, -⟩ | ⟨rfl, hnone, rfl⟩ | ⟨current, rfl, hfound, hillegal, rfl⟩ |
    ⟨m, stamp, now, rfl, hfound, hlegal, rfl⟩⟩ := answer_stepped hanswer
  · cases reached.served
  · obtain ⟨rfl, hended⟩ := h.recording_next rfl
    exact .unknown reached hnone ⟨h.store ▸ .refl _, h.history⟩ rfl hnow hended
  · obtain ⟨rfl, hended⟩ := h.recording_next rfl
    exact .refused reached hfound hillegal ⟨h.store ▸ .refl _, h.history⟩ rfl hnow hended
  · obtain ⟨rfl, hcall⟩ := h.recording_next rfl
    have htrying : Trying c (.entry ⟨outcome.id, m.status, outcome.target⟩
        (.make stamp.entryId outcome.id outcome.target outcome.detail stamp.time)) t s.now s' [] :=
      .asking .none (Nat.zero_le _) hnow hcall
    exact .entry reached ⟨hlegal, ⟨m, now, hfound, rfl, h.store⟩, h.history⟩ rfl htrying

/-- A turn of a recording. -/
theorem Effort.turn {answer : call.request.Answer} (h : Effort c outcome t start s beats)
    (hturn : Turned s t call answer stop result mid s') :
    Effort c outcome t start s' (beats ++ [⟨s, call, answer, result, s'⟩]) := by
  cases h with
  | status trying =>
    rcases trying.turn hturn with htrying | ⟨k, since, rfl, hreached⟩
    · exact .status htrying
    · exact hturn.reaches hreached
  | unknown _ _ _ _ _ ended | refused _ _ _ _ _ _ ended | told _ _ _ _ _ _ _ ended =>
    cases ended.symm.trans hturn.found
  | entry reached steps goesOn trying =>
    rw [List.append_assoc, List.cons_append]
    rcases trying.turn hturn with htrying | ⟨k, since, rfl, hreached⟩
    · exact .entry reached steps goesOn htrying
    · obtain ⟨fate, hanswer⟩ := hturn.answered
      rcases answer_append hanswer with ⟨rfl, rfl⟩ | ⟨reason, rfl, rfl⟩
      · obtain ⟨rfl, hended⟩ := hturn.recording_next rfl
        have hnow : s.now ≤ s'.now := Nat.le_of_eq hturn.now.symm
        exact .told reached steps goesOn hreached ⟨hturn.store ▸ .refl _, hturn.history⟩ rfl hnow
          hended
      · cases hreached.served

/-- **Whatever goes on around it**, a recording is where its writes have brought it. -/
theorem Course.effort {s₀ : System} {since : Nat} (course : Course (Elsewhere t) t s₀ beats s)
    (begun : s₀.calls.get? t = some ⟨c, .recording (.begin outcome), since⟩) :
    Effort c outcome t s₀.now s beats := by
  induction course with
  | begin => exact .status (.asking .none (Nat.zero_le _) (Nat.le_refl _) begun)
  | meanwhile _ other ih => exact ih.meanwhile other
  | turn _ step ih =>
    obtain ⟨stop, mid, hturn⟩ := step.turned
    exact ih.turn hturn

end Effort

/-! ## What a recording comes to -/

/-- What comes of the first update that is served, and of all that follows it, if the first `a`
appends are not served. -/
inductive Decides (c : Config) (outcome : Outcome) (a : Nat) (look : Beat) :
    List Beat → List Result → Prop
  /-- The store knows no such message. -/
  | unknown (absent : look.before.store.status? outcome.id = none) (spares : look.Spares) :
      Decides c outcome a look [] [.recorded (.ok .notFound)]
  /-- The step is not legal. -/
  | refused {current : Status} (found : look.before.store.status? outcome.id = some current)
      (illegal : ¬ Status.Step current outcome.target) (spares : look.Spares) :
      Decides c outcome a look [] [.recorded (.ok (.conflict current))]
  /-- The message has made the step, and one entry has been added for it. -/
  | told {old : Status} {id : EntryId} {time : Instant} {after : List Beat} {tell : Beat}
      (steps : look.Steps outcome.id old outcome.target) (within : a ≤ c.storeRetries)
      (requests : requests (after ++ [tell]) =
        retried c (.append (.make id outcome.id outcome.target outcome.detail time)) a)
      (spares : ∀ b ∈ after, b.Spares)
      (enters : tell.Enters (.make id outcome.id outcome.target outcome.detail time)) :
      Decides c outcome a look (after ++ [tell])
        [.recorded (.ok (.recorded ⟨outcome.id, old, outcome.target⟩))]
  /-- The message has made the step, and the entry could not be added. -/
  | lost {old : Status} {id : EntryId} {time : Instant} {after : List Beat} {reason : String}
      (steps : look.Steps outcome.id old outcome.target) (beyond : c.storeRetries < a)
      (requests : requests after = retried c
        (.append (.make id outcome.id outcome.target outcome.detail time)) c.storeRetries)
      (spares : ∀ b ∈ after, b.Spares) :
      Decides c outcome a look after [.recorded (.error (.unavailable reason))]

/-- What recording an outcome comes to, if the first `u` updates and the first `a` appends are not
served. -/
structure Recorded (c : Config) (outcome : Outcome) (u a : Nat) (beats : List Beat) : Prop where
  /-- The status cannot be written. -/
  unreachable : c.storeRetries < u →
    requests beats = retried c (.update outcome.id outcome.target) c.storeRetries ∧
    (∃ reason, results beats = [.recorded (.error (.unavailable reason))]) ∧
    ∀ b ∈ beats, b.Spares
  /-- The status is written, or refused, at the first update that is served. -/
  reachable : u ≤ c.storeRetries → ∃ before look after, beats = before ++ look :: after ∧
    requests (before ++ [look]) = retried c (.update outcome.id outcome.target) u ∧
    (∀ b ∈ before, b.Spares) ∧ Decides c outcome a look after (results beats)
  /-- There was a wait before each time that a write was made again. -/
  waits : waited beats = c.errorBackoff *
    (((replies Request.isUpdate beats).length - 1) + ((replies Request.isAppend beats).length - 1))

section Ends

variable {c : Config} {outcome : Outcome} {t : TaskId} {start u a k : Nat} {s : System}
  {beats before after : List Beat} {look : Beat}

/-- Up to the time when the status was asked for, no entry was to be written. -/
theorem Reached.appends_after (h : Reached c (.update outcome.id outcome.target) start k before look) :
    replies Request.isAppend (before ++ look :: after) = replies Request.isAppend after := by
  rw [List.append_cons, replies_append, h.retries.replies_last h.request _ rfl]
  rfl

/-- Up to the time when the status was written, the recording had no result. -/
theorem Reached.results_after (h : Reached c (.update outcome.id outcome.target) start k before look)
    (goesOn : look.result = none) : results (before ++ look :: after) = results after := by
  rw [List.append_cons, results_append, h.retries.results_last, goesOn]
  rfl

/-- The waits for both writes are over when the recording is. -/
theorem Reached.elapsed (h : Reached c (.update outcome.id outcome.target) start k before look)
    {now : Nat} (hafter : look.before.now + waited after ≤ now) :
    start + waited (before ++ look :: after) ≤ now := by
  have htime := h.time
  rw [List.append_cons, waited_append, h.retries.waited_last h.request rfl]
  omega

/-- Once the status has been asked for in time, the rest is what follows. -/
theorem Reached.recorded
    (h : Reached c (.update outcome.id outcome.target) start k before look)
    (none : replies Request.isUpdate after = [])
    (updates : FaultsFirst u (replies Request.isUpdate (before ++ look :: after)))
    (decides : Decides c outcome a look after (results (before ++ look :: after)))
    (waits : waited after = c.errorBackoff * ((replies Request.isAppend after).length - 1)) :
    Recorded c outcome u a (before ++ look :: after) := by
  have hupdates : replies Request.isUpdate (before ++ look :: after) =
      List.replicate k false ++ [true] := by
    rw [List.append_cons, replies_append, none, List.append_nil, h.retries.replies_last h.request _ rfl,
      h.served]
    rfl
  rw [hupdates] at updates
  obtain rfl : u = k := updates.eq
  refine ⟨fun hbeyond => absurd hbeyond (Nat.not_lt_of_le h.few), fun _ => ?_, ?_⟩
  · exact ⟨before, look, after, rfl, h.retries.requests_last h.request, h.retries.spares, decides⟩
  · rw [hupdates, h.appends_after, List.append_cons, waited_append, h.retries.waited_last h.request rfl,
      waits, ← Nat.mul_add]
    simp

/-- What a recording has come to at its end. -/
theorem Effort.recorded (h : Effort c outcome t start s beats) (ended : s.calls.get? t = none)
    (updates : FaultsFirst u (replies Request.isUpdate beats))
    (appends : FaultsFirst a (replies Request.isAppend beats)) :
    Recorded c outcome u a beats ∧ start + waited beats ≤ s.now := by
  cases h with
  | status trying =>
    cases trying with
    | asking _ _ _ call | resting _ _ _ _ _ call => cases ended.symm.trans call
    | @lost beats last reason retries fails time result =>
      have hupdates := retries.replies_last fails.request Request.isUpdate rfl
      have happends := retries.replies_last fails.request Request.isAppend rfl
      have hwaited := retries.waited_last fails.request rfl
      rw [fails.served, ← List.replicate_succ'] at hupdates
      rw [hupdates] at updates
      refine ⟨⟨fun _ => ⟨retries.requests_last fails.request, ⟨reason, ?_⟩,
        retries.spares_last fails⟩, fun hwithin => ?_, ?_⟩, hwaited ▸ time⟩
      · rw [retries.results_last, result]
        rfl
      · exact absurd updates.le (Nat.not_le_of_lt (Nat.lt_succ_of_le hwithin))
      · rw [hwaited, hupdates, happends]
        simp [Errand.request, Request.isUpdate, Request.isAppend]
  | @unknown k beats look reached absent spares result now =>
    have hresults := reached.retries.results_last look
    rw [result] at hresults
    refine ⟨reached.recorded rfl updates ?_ rfl, reached.elapsed now⟩
    exact hresults ▸ .unknown absent spares
  | @refused k beats look current reached found illegal spares result now =>
    have hresults := reached.retries.results_last look
    rw [result] at hresults
    refine ⟨reached.recorded rfl updates ?_ rfl, reached.elapsed now⟩
    exact hresults ▸ .refused found illegal spares
  | entry reached steps goesOn trying =>
    cases trying with
    | asking _ _ _ call | resting _ _ _ _ _ call => cases ended.symm.trans call
    | @lost after last reason retries fails time result =>
      have hupdates := retries.replies_last fails.request Request.isUpdate rfl
      have happends := retries.replies_last fails.request Request.isAppend rfl
      have hwaited := retries.waited_last fails.request rfl
      rw [fails.served, ← List.replicate_succ'] at happends
      rw [reached.appends_after, happends] at appends
      refine ⟨reached.recorded hupdates updates ?_ ?_, reached.elapsed (hwaited ▸ time)⟩
      · rw [reached.results_after goesOn, retries.results_last, result]
        exact .lost steps appends.le (retries.requests_last fails.request)
          (retries.spares_last fails)
      · rw [hwaited, happends]
        simp [Errand.request, Request.isAppend]
  | @told k l before after look tell old id time reached steps goesOn again enters result now =>
    have hupdates := again.retries.replies_last again.request Request.isUpdate rfl
    have happends := again.retries.replies_last again.request Request.isAppend rfl
    have hwaited := again.retries.waited_last again.request rfl
    rw [again.served] at happends
    rw [reached.appends_after, happends] at appends
    obtain rfl : a = l := appends.eq
    refine ⟨reached.recorded hupdates updates ?_ ?_,
      reached.elapsed (hwaited ▸ Nat.le_trans again.time now)⟩
    · rw [reached.results_after goesOn, again.retries.results_last, result]
      exact .told steps again.few (again.retries.requests_last again.request) again.retries.spares
        enters
    · rw [hwaited, happends]
      simp [Request.isAppend]

/-! ### It does come to its end -/

/-- The store does what it is asked unless it is out of reach, and whoever waited since a given
moment has waited long enough. -/
structure System.Rested (s : System) (c : Config) (since : Nat) : Prop where
  failures : s.store.failures = 0
  updateFailures : s.store.updateFailures = 0
  passed : since + c.errorBackoff ≤ s.now

/-- A turn after which as many requests of a kind have met faults as are to do so: it ends a wait, or
makes a write that is served or not as it should. -/
theorem faultsFirst_turn {kind : Request → Bool} {n : Nat} {write : Request} {wanted : Bool}
    {b : Beat} (h : FaultsFirst n (replies kind beats))
    (turn : b.call.request = .sleep c.errorBackoff ∨ b.call.request = write ∧ b.served = wanted)
    (hrest : kind (.sleep c.errorBackoff) = false)
    (hwanted : kind write = true → wanted = decide (n ≤ (replies kind beats).length)) :
    FaultsFirst n (replies kind (beats ++ [b])) := by
  rw [replies_append, replies_singleton]
  rcases turn with hsleep | ⟨hwrite, hserved⟩
  · rw [hsleep, hrest]
    simpa using h
  · rw [hwrite]
    cases hkind : kind write with
    | true => exact h.snoc (hserved.trans (hwanted hkind))
    | false => simpa using h

/-- A write that is not at its end has few turns behind it, and can take the next one, whether the
write is to be served or not. -/
theorem Trying.goes_on {w : Errand} (h : Trying c w t start s beats) {call : Call}
    (found : s.calls.get? t = some call) :
    beats.length ≤ 2 * c.storeRetries ∧ results beats = [] ∧
    ∀ wanted, s.Rested c call.since → ∃ answer result s', Step s (.turn t call answer result) s' ∧
      (call.request = .sleep c.errorBackoff ∨
        call.request = w.request ∧ call.request.isServed answer = wanted) := by
  have turn {answer : call.request.Answer} {mid : System} (fate : Fate) (wanted : Bool)
      (hanswer : s.answer? t call fate call.request = some (answer, mid))
      (hgood : call.request = .sleep c.errorBackoff ∨
        call.request = w.request ∧ call.request.isServed answer = wanted) :
      ∃ answer result s', Step s (.turn t call answer result) s' ∧
        (call.request = .sleep c.errorBackoff ∨
          call.request = w.request ∧ call.request.isServed answer = wanted) := by
    obtain ⟨result, s', hstep, -⟩ := exists_turn found false hanswer
    exact ⟨answer, result, s', hstep, hgood⟩
  cases h with
  | asking retries few time hcall =>
    cases hcall.symm.trans found
    refine ⟨by rw [retries.length]; omega, retries.results, fun wanted rested => ?_⟩
    cases w with
    | status outcome =>
      cases wanted with
      | true =>
        have hserved := isServed_update rested.failures rested.updateFailures outcome.id
          outcome.target default default
        exact turn (.served default default) true rfl (.inr ⟨rfl, hserved⟩)
      | false => exact turn (.storeDown default) false rfl (.inr ⟨rfl, rfl⟩)
    | entry change told =>
      cases wanted with
      | true => exact turn (.served default default) true rfl (.inr ⟨rfl, rfl⟩)
      | false => exact turn (.storeDown default) false rfl (.inr ⟨rfl, rfl⟩)
  | resting retries fails goesOn more time hcall =>
    cases hcall.symm.trans found
    refine ⟨?_, by rw [retries.results_last, goesOn]; rfl, fun wanted rested => ?_⟩
    · rw [List.length_append, retries.length, List.length_singleton]
      omega
    · cases w with
      | status | entry =>
        exact turn (.served default default) wanted (if_pos rested.passed) (.inl rfl)
  | lost _ _ _ _ ended => cases ended.symm.trans found

/-- A recording that has not come to its end has not taken all its turns, and can take the next. -/
theorem Effort.goes_on (h : Effort c outcome t start s beats) {call : Call}
    (found : s.calls.get? t = some call)
    (updates : FaultsFirst u (replies Request.isUpdate beats))
    (appends : FaultsFirst a (replies Request.isAppend beats)) :
    beats.length < 4 * c.storeRetries + 2 ∧ results beats = [] ∧
    (s.Rested c call.since → ∃ answer result s', Step s (.turn t call answer result) s' ∧
      FaultsFirst u (replies Request.isUpdate (beats ++ [⟨s, call, answer, result, s'⟩])) ∧
      FaultsFirst a (replies Request.isAppend (beats ++ [⟨s, call, answer, result, s'⟩]))) := by
  cases h with
  | status trying =>
    obtain ⟨hfew, hresults, hturn⟩ := trying.goes_on found
    refine ⟨by omega, hresults, fun rested => ?_⟩
    obtain ⟨answer, result, s', hstep, hgood⟩ :=
      hturn (decide (u ≤ (replies Request.isUpdate beats).length)) rested
    exact ⟨answer, result, s', hstep, faultsFirst_turn updates hgood rfl fun _ => rfl,
      faultsFirst_turn appends hgood rfl nofun⟩
  | @entry k before after look old id time reached steps goesOn trying =>
    obtain ⟨hfew, hresults, hturn⟩ := trying.goes_on found
    have hlength := reached.retries.length
    have hwithin := reached.few
    refine ⟨?_, (reached.results_after goesOn).trans hresults, fun rested => ?_⟩
    · rw [List.length_append, List.length_cons]
      omega
    · obtain ⟨answer, result, s', hstep, hgood⟩ :=
        hturn (decide (a ≤ (replies Request.isAppend (before ++ look :: after)).length)) rested
      exact ⟨answer, result, s', hstep, faultsFirst_turn updates hgood rfl nofun,
        faultsFirst_turn appends hgood rfl fun _ => rfl⟩
  | unknown _ _ _ _ _ ended | refused _ _ _ _ _ _ ended | told _ _ _ _ _ _ _ ended =>
    cases ended.symm.trans found

end Ends

/-- **Recording under faults.** Take the recording of any outcome, whatever goes on around it, and
let the first `u` updates and the first `a` appends that it asks for meet faults. If there are more
faults than retries, all the updates are made in vain: the recording fails, and nothing has changed.
Otherwise the first update that is served decides by the store as it is then. An unknown message and
an illegal step are reported as such, with nothing changed and no further try. A legal step is
made, and then the entry for it is appended: one entry, if there are enough retries for it, which the
append has to itself; else the recording fails after all of them, and the step has no entry. The
waits are as many as the retries and as long as the settings say. And the recording does come to its
end: it takes a limited number of turns, and can take the next one once its wait is over. -/
theorem recorded_under_faults {c : Config} {outcome : Outcome} {t : TaskId} {s₀ s : System}
    {since u a : Nat} {beats : List Beat}
    (begun : s₀.calls.get? t = some ⟨c, .recording (.begin outcome), since⟩)
    (course : Course (Elsewhere t) t s₀ beats s)
    (updates : FaultsFirst u (replies Request.isUpdate beats))
    (appends : FaultsFirst a (replies Request.isAppend beats)) :
    (s.calls.get? t = none →
      Recorded c outcome u a beats ∧ s₀.now + waited beats ≤ s.now) ∧
    (∀ call, s.calls.get? t = some call → beats.length < 4 * c.storeRetries + 2 ∧
      results beats = [] ∧ (s.Rested c call.since → ∃ answer result s',
        Step s (.turn t call answer result) s' ∧
        FaultsFirst u (replies Request.isUpdate (beats ++ [⟨s, call, answer, result, s'⟩])) ∧
        FaultsFirst a (replies Request.isAppend (beats ++ [⟨s, call, answer, result, s'⟩])))) := by
  have heffort := course.effort begun
  exact ⟨fun ended => heffort.recorded ended updates appends,
    fun call found => heffort.goes_on found updates appends⟩

/-- A message is inserted, and somebody begins to record that it was delivered. -/
def earlyRecordMoves : List Move :=
  [.outside (.insert (.ofNat 1) default .epoch),
    .start 0 .default (.record ⟨.ofNat 1, .delivered, none⟩)]

/-- Each write meets one fault. While the recording waits to write the status, somebody else records
that the message was enqueued. -/
def twoFaultsMoves : List Move :=
  [.turn 0 (.storeDown "away") false,
    .start 1 .default (.record ⟨.ofNat 1, .enqueued, none⟩),
    .turn 1 (.served .epoch default) false,
    .outside (.wait 2000),
    .turn 0 (.served .epoch default) false,
    .turn 0 (.served .epoch default) false,
    .turn 0 (.storeDown "away") false,
    .outside (.wait 2000),
    .turn 0 (.served .epoch default) false,
    .turn 0 (.served .epoch default) false]

/-- Whether a request of a kind was served. -/
def Event.reply? (kind : Request → Bool) : Event → Option Bool
  | .turn _ call answer _ =>
    if kind call.request then some (call.request.isServed answer) else none
  | .outside _ | .start .. => none

theorem replies_eq_moments (kind : Request → Bool) (t : TaskId) (beats : List Beat) :
    replies kind beats =
      (beats.map (Beat.moment t)).filterMap fun moment => moment.event.reply? kind := by
  induction beats with
  | nil => rfl
  | cons b rest ih =>
    rw [← List.singleton_append, replies_append, replies_singleton, ih, List.map_append,
      List.filterMap_append]
    simp only [List.map_cons, List.map_nil, List.filterMap_cons, Beat.moment, Event.reply?]
    cases kind b.call.request <;> rfl

/-- A task is not given another call, each of its writes is served after one fault, and it comes to
its end. -/
def EndsAfterFaults (t : TaskId) (trace : List Moment) (s : System) : Prop :=
  (∀ moment ∈ trace, moment.event.isStartOf t = false) ∧ s.calls.get? t = none ∧
    ∀ kind ∈ [Request.isUpdate, Request.isAppend],
      (trace.filter fun moment => moment.event.isTurnOf t).filterMap
        (fun moment => moment.event.reply? kind) = [false, true]

instance (t : TaskId) (trace : List Moment) (s : System) :
    Decidable (EndsAfterFaults t trace s) :=
  inferInstanceAs (Decidable (_ ∧ _))

theorem recorded_under_faults_twoFaults : ∃ s₀ s beats,
    s₀.calls.get? 0 = some ⟨.default, .recording (.begin ⟨.ofNat 1, .delivered, none⟩), 0⟩ ∧
    Course (Elsewhere 0) 0 s₀ beats s ∧ FaultsFirst 1 (replies Request.isUpdate beats) ∧
    FaultsFirst 1 (replies Request.isAppend beats) ∧ s.calls.get? 0 = none ∧
    s.store.status? (.ofNat 1) = some .delivered ∧ s.history.size = 1 ∧
    Recorded .default ⟨.ofNat 1, .delivered, none⟩ 1 1 beats := by
  obtain ⟨before, s₀, first, begun, hlater⟩ := exists_run earlyRecordMoves (s := .initial)
    (P := fun _ s₀ => s₀.calls.get? 0 =
        some ⟨.default, .recording (.begin ⟨.ofNat 1, .delivered, none⟩), 0⟩ ∧
      (s₀.play? twoFaultsMoves).any (fun p => decide (EndsAfterFaults 0 p.1 p.2 ∧
        p.2.store.status? (.ofNat 1) = some .delivered ∧ p.2.history.size = 1)) = true)
    (by decide +kernel)
  obtain ⟨trace, s, run, ⟨alone, ended, hreplies⟩, delivered, told⟩ := exists_run twoFaultsMoves
    (P := fun trace s => EndsAfterFaults 0 trace s ∧
      s.store.status? (.ofNat 1) = some .delivered ∧ s.history.size = 1) hlater
  obtain ⟨beats, course, hbeats⟩ : ∃ beats, Course (Elsewhere 0) 0 s₀ beats s ∧ _ :=
    run.course fun moment hmem hturn _ h => (h.apart (alone moment hmem) hturn).elsewhere
  have faults (kind : Request → Bool) (hkind : kind ∈ [Request.isUpdate, Request.isAppend]) :
      FaultsFirst 1 (replies kind beats) := by
    rw [replies_eq_moments kind 0, hbeats, hreplies kind hkind]
    exact faultsFirst_replicate 1
  have updates := faults Request.isUpdate List.mem_cons_self
  have appends := faults Request.isAppend (List.mem_cons_of_mem _ (List.mem_singleton_self _))
  exact ⟨s₀, s, beats, begun, course, updates, appends, ended, delivered, told,
    ((recorded_under_faults begun course updates appends).1 ended).1⟩

end Interplay

end Outbox
