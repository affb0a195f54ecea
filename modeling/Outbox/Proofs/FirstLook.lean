import Mathlib.Data.List.Chain
import Outbox.Proofs.Interplay.Course
import Outbox.Proofs.Interplay.Hearing
/-!
# `Proofs.FirstLook` — a receipt is judged by the first status that is not pending

While the store and the history do what they are asked, the handling of a receipt looks at its
message again and again, with a pause before each look but the first, until it finds another status
than pending or has looked as often as it may. Others may do what they like in between: what they
have made of the message by the time of the last look decides what becomes of the receipt.
-/

namespace Outbox

/-- What becomes of a receipt by the status in which its message is found at last. -/
def Receipt.verdict (r : Receipt) : Option Status → Disposition
  | none => .unknownMessage
  | some .pending => .dropped .pending
  | some .enqueued => .applied r.target
  | some status => .duplicate status

namespace Interplay

/-! ## Looks -/

/-- What was found when the store was asked to move a message, and when. -/
structure Look where
  time : Nat
  status : Option Status

/-- The look that a turn takes at a message. -/
def Beat.look? (b : Beat) : Option Look :=
  match b.call.request with
  | .update id _ => some ⟨b.before.now, b.before.store.status? id⟩
  | _ => none

/-- The looks that a call takes at messages. -/
def looks (beats : List Beat) : List Look :=
  beats.filterMap Beat.look?

theorem looks_snoc (beats : List Beat) (b : Beat) :
    looks (beats ++ [b]) = looks beats ++ b.look?.toList := by
  rw [looks, List.filterMap_append]
  cases h : b.look? <;> simp [looks, h]

/-- What the handling of a receipt asks for while the message is pending: to move it, to wait, to
move it, and so on. -/
def inTurn (c : Config) (r : Receipt) (n : Nat) : Request :=
  if n % 2 = 0 then .update r.messageId r.target else .sleep c.recheckDelay

namespace Beat

/-- The turn leaves the store and the history as they were. -/
structure Spares (b : Beat) : Prop where
  store : b.before.store.Same b.after.store
  history : b.after.history = b.before.history

/-- The message makes the step that the receipt reports. -/
structure Moves (b : Beat) (r : Receipt) : Prop where
  store : b.before.store.Moved r.messageId .enqueued r.target b.after.store
  history : b.after.history = b.before.history

/-- An entry for the step that the receipt reports is added to the history. -/
structure Tells (b : Beat) (r : Receipt) : Prop where
  store : b.before.store.Same b.after.store
  history : ∃ id time, b.after.history =
    b.before.history.append (.make id r.messageId r.target r.detail time)

/-- A turn that looks at the message of a receipt. -/
structure Finds (b : Beat) (r : Receipt) (status : Option Status) : Prop where
  request : b.call.request = .update r.messageId r.target
  status : b.before.store.status? r.messageId = status

theorem Finds.look? {b : Beat} {r : Receipt} {status : Option Status} (h : b.Finds r status) :
    b.look? = some ⟨b.before.now, status⟩ := by
  rw [Beat.look?, h.request, ← h.status]

end Beat

/-! ## Rounds -/

/-- The receipt was looked at some number of times, found its message pending each time, and waited
each time; `ready` is when that was over. -/
inductive Rounds (c : Config) (r : Receipt) : Nat → List Beat → Nat → Prop
  | none {ready : Nat} : Rounds c r 0 [] ready
  | more {k ready later : Nat} {beats : List Beat} {look pause : Beat} :
      Rounds c r k beats ready → ready ≤ look.before.now → look.Finds r (some .pending) →
      look.Spares → look.result = .none → pause.call.request = .sleep c.recheckDelay →
      pause.Spares → pause.result = .none → look.before.now + c.recheckDelay ≤ later →
      Rounds c r (k + 1) (beats ++ [look, pause]) later

/-- After some rounds the receipt is looked at once more, and its message found in a status. -/
structure LooksAgain (c : Config) (r : Receipt) (k : Nat) (beats : List Beat) (look : Beat)
    (status : Option Status) : Prop where
  rounds : ∃ ready ≤ look.before.now, Rounds c r k beats ready
  within : k ≤ c.recheckAttempts
  found : look.Finds r status

/-- Where the handling of a receipt is after some turns. -/
inductive Inquiry (c : Config) (r : Receipt) (t : TaskId) (s : System) : List Beat → Prop
  /-- The receipt is about to be looked at. -/
  | asking {k ready since : Nat} {beats : List Beat} (rounds : Rounds c r k beats ready)
      (now : ready ≤ s.now) (within : k ≤ c.recheckAttempts)
      (call : s.calls.get? t = some ⟨c, .handling (.recording r k (.begin r.outcome)), since⟩) :
      Inquiry c r t s beats
  /-- The message was pending, and the receipt is to be looked at again after a while. -/
  | waiting {k since : Nat} {beats : List Beat} {look : Beat}
      (looks : LooksAgain c r k beats look (some .pending)) (spares : look.Spares)
      (goesOn : look.result = none) (time : look.before.now ≤ since)
      (more : k < c.recheckAttempts)
      (call : s.calls.get? t = some ⟨c, .handling (.rechecking r (k + 1)), since⟩) :
      Inquiry c r t s (beats ++ [look])
  /-- The message has made its step, and the history is to be told. -/
  | telling {k since : Nat} {beats : List Beat} {look : Beat} {id : EntryId} {time : Instant}
      (looks : LooksAgain c r k beats look (some .enqueued)) (moves : look.Moves r)
      (goesOn : look.result = none)
      (call : s.calls.get? t = some ⟨c, .handling (.recording r k (.appending
        ⟨r.messageId, .enqueued, r.target⟩ (.make id r.messageId r.target r.detail time) 0)),
        since⟩) :
      Inquiry c r t s (beats ++ [look])
  /-- The message was in a status in which nothing is to be done. -/
  | refused {k : Nat} {beats : List Beat} {look : Beat} {status : Option Status}
      (looks : LooksAgain c r k beats look status) (notEnqueued : status ≠ some .enqueued)
      (last : status = some .pending → k = c.recheckAttempts) (spares : look.Spares)
      (result : look.result = some (.handled (r.verdict status)))
      (ended : s.calls.get? t = none) : Inquiry c r t s (beats ++ [look])
  /-- The message has made its step, and the history was told. -/
  | applied {k : Nat} {beats : List Beat} {look tell : Beat} {entry : HistoryEntry}
      (looks : LooksAgain c r k beats look (some .enqueued)) (moves : look.Moves r)
      (goesOn : look.result = none) (request : tell.call.request = .append entry)
      (tells : tell.Tells r) (result : tell.result = some (.handled (.applied r.target)))
      (ended : s.calls.get? t = none) : Inquiry c r t s (beats ++ [look, tell])

section Progress

variable {c : Config} {r : Receipt} {n k : Nat} {id : MessageId} {status : Status}

theorem progress_pending (h : n < c.recheckAttempts) :
    ((Handling.recording r n (.updating r.outcome k)).resume c
      (Except.error (.conflict id .pending status))).progress =
      .waiting (.rechecking r (n + 1)) := by
  show (Handling.conflicted c r n .pending).progress = _
  rw [Handling.conflicted, if_neg (by decide), if_pos ⟨rfl, h⟩]
  rfl

theorem progress_dropped (h : ¬ n < c.recheckAttempts) :
    ((Handling.recording r n (.updating r.outcome k)).resume c
      (Except.error (.conflict id .pending status))).progress = .finished (.dropped .pending) := by
  show (Handling.conflicted c r n .pending).progress = _
  rw [Handling.conflicted, if_neg (by decide), if_neg fun hmore => h hmore.2]
  rfl

theorem progress_rested (answer : ((Handling.rechecking r n).request c).Answer) :
    ((Handling.rechecking r n).resume c answer).progress =
      .waiting (.recording r n (.begin r.outcome)) := rfl

theorem verdict_of_terminal (h : status.isTerminal = true) :
    r.verdict (some status) = .duplicate status := by
  cases status with
  | pending | enqueued => cases h
  | notEnqueued | delivered | deliveredFailed => rfl

end Progress

section Inquiry

variable {c : Config} {r : Receipt} {t : TaskId} {s s' mid : System} {beats : List Beat}
  {call : Call} {answer : call.request.Answer} {stop : Bool} {result : Option Result}

/-- What is left of a call that handles a receipt after its turn. -/
theorem Turned.handling_next {work : Handling} {since : Nat}
    {answer : (Call.request ⟨c, .handling work, since⟩).Answer}
    {progress : Progress Handling Disposition}
    (h : Turned s t ⟨c, .handling work, since⟩ answer stop result mid s')
    (hprogress : (work.resume c answer).progress = progress) :
    result = progress.outcome?.map .handled ∧ s'.calls.get? t =
      progress.look (fun next => some ⟨c, .handling next, s.now⟩) none := by
  have hcalls := h.calls t
  have hresult := h.result
  rw [if_pos rfl] at hcalls
  simp only [System.turnOf, Work.resume] at hcalls hresult
  cases progress with
  | waiting next =>
    rw [Turn.andThen_of_waiting hprogress] at hcalls hresult
    exact ⟨hresult, hcalls⟩
  | finished d =>
    rw [Turn.andThen_of_finished hprogress] at hcalls hresult
    exact ⟨hresult, hcalls⟩

/-- What a look comes to. -/
theorem Turned.looks {k since : Nat}
    {answer : (Call.request ⟨c, .handling (.recording r k (.begin r.outcome)), since⟩).Answer}
    (h : Turned s t ⟨c, .handling (.recording r k (.begin r.outcome)), since⟩ answer stop result mid
      s')
    (hs : s.store.Sound)
    (served : (Request.update r.messageId r.target).isServed answer = true)
    {ready : Nat} (rounds : Rounds c r k beats ready) (now : ready ≤ s.now)
    (within : k ≤ c.recheckAttempts) :
    Inquiry c r t s' (beats ++ [⟨s, ⟨c, .handling (.recording r k (.begin r.outcome)), since⟩,
      answer, result, s'⟩]) := by
  obtain ⟨fate, hanswer⟩ := h.answered
  have looks {status : Option Status} (hstatus : s.store.status? r.messageId = status) :
      LooksAgain c r k beats ⟨s, ⟨c, .handling (.recording r k (.begin r.outcome)), since⟩, answer,
        result, s'⟩ status := ⟨⟨ready, now, rounds⟩, within, rfl, hstatus⟩
  change s.answer? t _ fate (.update r.messageId r.target) = _ at hanswer
  obtain ⟨store, rfl, ⟨reason, rfl, -⟩ | ⟨rfl, hstatus, hsame⟩ |
    ⟨current, rfl, hstatus, hillegal, hsame⟩ | ⟨old, stamp, rfl, hmoved⟩⟩ :=
      answer_update hs hanswer
  · cases served
  · obtain ⟨rfl, hcall⟩ := h.handling_next (progress_unknown r.messageId)
    exact .refused (looks hstatus) nofun nofun ⟨h.store ▸ hsame, h.history⟩ rfl hcall
  · have spares : Beat.Spares ⟨s, ⟨c, .handling (.recording r k (.begin r.outcome)), since⟩,
        Except.error (.conflict r.messageId current r.target), result, s'⟩ :=
      ⟨h.store ▸ hsame, h.history⟩
    by_cases hpending : current = .pending
    · subst hpending
      by_cases hmore : k < c.recheckAttempts
      · obtain ⟨rfl, hcall⟩ := h.handling_next (progress_pending hmore)
        exact .waiting (looks hstatus) spares rfl (Nat.le_refl _) hmore hcall
      · obtain ⟨rfl, hcall⟩ := h.handling_next (progress_dropped hmore)
        exact .refused (looks hstatus) nofun (fun _ => by omega) spares rfl hcall
    · have hillegal : current.canBecome r.target = false :=
        Bool.eq_false_iff.mpr fun h => hillegal (Status.canBecome_iff.mp h)
      have hterminal := isTerminal_of_illegal hillegal hpending
      obtain ⟨rfl, hcall⟩ := h.handling_next (progress_repeated hterminal)
      have henqueued : some current ≠ some Status.enqueued := by
        rintro heq
        cases heq
        cases hterminal
      refine .refused (looks hstatus) henqueued (fun heq => absurd (Option.some.inj heq) hpending)
        spares ?_ hcall
      rw [verdict_of_terminal hterminal]
      rfl
  · obtain rfl : old = .enqueued :=
      (canBecome_target old r).mp (Status.canBecome_iff.mpr hmoved.legal)
    obtain ⟨rfl, hcall⟩ := h.handling_next (progress_moved _ stamp)
    exact .telling (looks hmoved.was) ⟨h.store ▸ hmoved, h.history⟩ rfl hcall

/-- A turn of the handling of a receipt, while nothing fails. -/
theorem Inquiry.turn (h : Inquiry c r t s beats) (hs : s.store.Sound)
    (step : Step s (.turn t call answer result) s')
    (served : call.request.isServed answer = true) :
    Inquiry c r t s' (beats ++ [⟨s, call, answer, result, s'⟩]) := by
  obtain ⟨stop, mid, hturn⟩ := step.turned
  cases h with
  | asking rounds now within hcall =>
    cases hcall.symm.trans hturn.found
    exact hturn.looks hs served rounds now within
  | @waiting k since _ look looks spares goesOn time more hcall =>
    cases hcall.symm.trans hturn.found
    obtain ⟨fate, hanswer⟩ := hturn.answered
    have hslept : mid = s ∧ since + c.recheckDelay ≤ s.now := answer_sleep hanswer
    obtain ⟨hmid, hpassed⟩ := hslept
    obtain ⟨rfl, hcall⟩ := hturn.handling_next (progress_rested answer)
    obtain ⟨⟨ready, hready, rounds⟩, -, hfound⟩ := looks
    rw [List.append_assoc]
    have hlater : look.before.now + c.recheckDelay ≤ s'.now := by
      rw [hturn.now]
      exact Nat.le_trans (Nat.add_le_add_right time _) hpassed
    have hspares : Beat.Spares ⟨s, ⟨c, .handling (.rechecking r (k + 1)), since⟩, answer, none,
        s'⟩ := by
      constructor
      · rw [hturn.store, hmid]
        exact .refl _
      · rw [hturn.history, hmid]
    exact .asking (.more rounds hready hfound spares goesOn rfl hspares rfl hlater) (Nat.le_refl _)
      more hcall
  | @telling _ _ _ _ id time looks moves goesOn hcall =>
    cases hcall.symm.trans hturn.found
    obtain ⟨fate, hanswer⟩ := hturn.answered
    rcases answer_append hanswer with ⟨rfl, rfl⟩ | ⟨reason, rfl, rfl⟩
    · obtain ⟨rfl, hcall⟩ := hturn.handling_next (progress_told _ _)
      rw [List.append_assoc]
      have hspares : s.store.Same s'.store := hturn.store ▸ .refl _
      exact .applied looks moves goesOn rfl ⟨hspares, id, time, hturn.history⟩ rfl hcall
    · cases served
  | refused _ _ _ _ _ ended | applied _ _ _ _ _ _ ended =>
    cases ended.symm.trans hturn.found

/-- What happens between the turns does not concern the handling. -/
theorem Inquiry.meanwhile (h : Inquiry c r t s beats) (other : Apart t s s') :
    Inquiry c r t s' beats := by
  have hcall := other.call
  cases h with
  | asking rounds now within call =>
    exact .asking rounds (Nat.le_trans now other.now) within (hcall.trans call)
  | waiting looks spares goesOn time more call =>
    exact .waiting looks spares goesOn time more (hcall.trans call)
  | telling looks moves goesOn call => exact .telling looks moves goesOn (hcall.trans call)
  | refused looks notEnqueued last spares result ended =>
    exact .refused looks notEnqueued last spares result (hcall.trans ended)
  | applied looks moves goesOn request tells result ended =>
    exact .applied looks moves goesOn request tells result (hcall.trans ended)

/-- **Whatever goes on around it**, the handling of a receipt is where its looks have brought it. -/
theorem Course.inquiry {s₀ : System} {since : Nat} (course : Course (Apart t) t s₀ beats s)
    (begun : s₀.calls.get? t = some ⟨c, .handling (.begin r), since⟩) (hs : s₀.store.Sound)
    (served : ∀ b ∈ beats, b.call.request.isServed b.answer = true) : Inquiry c r t s beats := by
  induction course with
  | begin => exact .asking .none (Nat.zero_le _) (Nat.zero_le _) begun
  | meanwhile _ other ih => exact (ih served).meanwhile other
  | turn course step ih =>
    obtain ⟨hbefore, hlast⟩ := List.forall_mem_append.mp served
    exact (ih hbefore).turn (course.sound id hs) step (hlast _ (List.mem_singleton_self _))

end Inquiry

/-! ## What the looks show -/

/-- Between one look and the next at least the delay has passed. -/
def Spaced (c : Config) (ls : List Look) : Prop :=
  ls.IsChain fun a b => a.time + c.recheckDelay ≤ b.time

section Looks

variable {c : Config} {r : Receipt} {k ready : Nat} {beats : List Beat} {look : Beat}
  {status : Option Status}

theorem Rounds.requests (h : Rounds c r k beats ready) :
    requests beats = (List.range (2 * k)).map (inTurn c r) := by
  induction h with
  | none => rfl
  | @more k ready later beats look pause _ _ hfound _ _ hpause _ _ _ ih =>
    have hlook : inTurn c r (2 * k) = .update r.messageId r.target := if_pos (by omega)
    have hsleep : inTurn c r (2 * k + 1) = .sleep c.recheckDelay := if_neg (by omega)
    rw [List.append_cons, requests_snoc, requests_snoc, ih, hfound.request, hpause, Nat.mul_succ,
      List.range_succ, List.range_succ, List.map_append, List.map_append]
    simp [hlook, hsleep]

theorem Rounds.length (h : Rounds c r k beats ready) : beats.length = 2 * k := by
  have hlength := congrArg List.length h.requests
  simpa [Interplay.requests] using hlength

theorem Rounds.results (h : Rounds c r k beats ready) : results beats = [] := by
  induction h with
  | none => rfl
  | more _ _ _ _ hlook _ _ hpause _ ih =>
    rw [List.append_cons, results_snoc, results_snoc, ih, hlook, hpause]
    rfl

theorem Rounds.spares (h : Rounds c r k beats ready) : ∀ b ∈ beats, b.Spares := by
  induction h with
  | none => exact fun _ hb => absurd hb List.not_mem_nil
  | more _ _ _ hlook _ _ hpause _ _ ih =>
    exact List.forall_mem_append.mpr
      ⟨ih, List.forall_mem_cons.mpr ⟨hlook, List.forall_mem_singleton.mpr hpause⟩⟩

theorem Rounds.looks (h : Rounds c r k beats ready) :
    (looks beats).length = k ∧ (∀ look ∈ looks beats, look.status = some .pending) ∧
      Spaced c (looks beats) ∧
      ∀ look ∈ (looks beats).getLast?, look.time + c.recheckDelay ≤ ready := by
  induction h with
  | none => exact ⟨rfl, nofun, .nil, nofun⟩
  | @more k ready later beats look pause _ hready hfound _ _ hpause _ _ hlater ih =>
    obtain ⟨hlength, hpending, hspaced, hlast⟩ := ih
    have hnone : pause.look? = .none := by rw [Beat.look?, hpause]
    rw [List.append_cons, looks_snoc, looks_snoc, hfound.look?, hnone, Option.toList_none,
      List.append_nil, Option.toList_some]
    refine ⟨by simp [hlength], List.forall_mem_append.mpr ⟨hpending, by simp⟩, ?_, ?_⟩
    · refine List.isChain_append.mpr ⟨hspaced, .singleton _, fun a ha b hb => ?_⟩
      cases hb
      exact Nat.le_trans (hlast a ha) hready
    · simpa using hlater

theorem LooksAgain.looks (h : LooksAgain c r k beats look status) :
    (looks (beats ++ [look])).length = k + 1 ∧
      (∀ l ∈ (looks (beats ++ [look])).dropLast, l.status = some .pending) ∧
      Spaced c (looks (beats ++ [look])) ∧
      (looks (beats ++ [look])).getLast? = some ⟨look.before.now, status⟩ := by
  obtain ⟨ready, hready, rounds⟩ := h.rounds
  obtain ⟨hlength, hpending, hspaced, hlast⟩ := rounds.looks
  rw [looks_snoc, h.found.look?, Option.toList_some]
  refine ⟨by simp [hlength], by simpa using hpending, ?_, by simp⟩
  refine List.isChain_append.mpr ⟨hspaced, .singleton _, fun a ha b hb => ?_⟩
  cases hb
  exact Nat.le_trans (hlast a ha) hready

theorem LooksAgain.requests (h : LooksAgain c r k beats look status) :
    requests (beats ++ [look]) = (List.range (beats ++ [look]).length).map (inTurn c r) := by
  obtain ⟨ready, -, rounds⟩ := h.rounds
  have hlook : inTurn c r (2 * k) = .update r.messageId r.target := if_pos (by omega)
  rw [requests_snoc, rounds.requests, h.found.request, List.length_append, rounds.length]
  simp [List.range_succ, hlook]

theorem LooksAgain.results (h : LooksAgain c r k beats look status) :
    results (beats ++ [look]) = look.result.toList := by
  obtain ⟨ready, -, rounds⟩ := h.rounds
  rw [results_snoc, rounds.results, List.nil_append]

/-- A turn that tells the history looks at nothing. -/
theorem looks_of_append {tell : Beat} {entry : HistoryEntry}
    (request : tell.call.request = .append entry) :
    looks (beats ++ [look, tell]) = looks (beats ++ [look]) := by
  have hlook : tell.look? = none := by rw [Beat.look?, request]
  rw [List.append_cons, looks_snoc, hlook, Option.toList_none, List.append_nil]

theorem LooksAgain.spares (h : LooksAgain c r k beats look status) : ∀ b ∈ beats, b.Spares :=
  have ⟨_, _, rounds⟩ := h.rounds
  rounds.spares

theorem LooksAgain.length (h : LooksAgain c r k beats look status) :
    (beats ++ [look]).length = 2 * k + 1 := by
  obtain ⟨ready, -, rounds⟩ := h.rounds
  rw [List.length_append, rounds.length, List.length_singleton]

end Looks

/-! ## How the handling of a receipt ends -/

/-- The store and the history do what they are asked, and whoever waited since a given moment has
waited long enough. -/
structure System.Calm (s : System) (c : Config) (since : Nat) : Prop where
  failures : s.store.failures = 0
  updateFailures : s.store.updateFailures = 0
  rested : since + c.recheckDelay ≤ s.now

/-- The looks that the handling of a receipt takes, and what it asks for in between. -/
structure Inquires (c : Config) (r : Receipt) (beats : List Beat) : Prop where
  /-- The receipt is looked at once, and as often again as the settings allow. -/
  few : (looks beats).length ≤ c.recheckAttempts + 1
  spaced : Spaced c (looks beats)
  /-- No look follows one that found another status than pending. -/
  pending : ∀ look ∈ (looks beats).dropLast, look.status = some .pending
  /-- The store is asked to move the message, with a pause before each time but the first; at most
  one entry is written, at the end. -/
  requests : ∃ entries : List HistoryEntry, entries.length ≤ 1 ∧ requests beats =
    (List.range (beats.length - entries.length)).map (inTurn c r) ++ entries.map .append

/-- What a receipt came to, by the status that the last look found. -/
structure Judges (c : Config) (r : Receipt) (beats : List Beat) (status : Option Status) :
    Prop where
  result : results beats = [.handled (r.verdict status)]
  /-- A receipt is given up for a pending message only after all its looks. -/
  last : status = some .pending → (looks beats).length = c.recheckAttempts + 1
  idle : status ≠ some .enqueued → ∀ b ∈ beats, b.Spares
  /-- The message makes one step, and one entry is written for it. -/
  applied : status = some .enqueued → ∃ before move tell, beats = before ++ [move, tell] ∧
    (∀ b ∈ before, b.Spares) ∧ move.Moves r ∧ tell.Tells r

section Ends

variable {c : Config} {r : Receipt} {t : TaskId} {s : System} {beats : List Beat}

theorem Inquiry.inquires (h : Inquiry c r t s beats) : Inquires c r beats := by
  cases h with
  | @asking k ready since _ rounds now within =>
    obtain ⟨hlength, hpending, hspaced, -⟩ := rounds.looks
    refine ⟨by omega, hspaced, fun look hlook => hpending look (List.dropLast_subset _ hlook),
      [], Nat.zero_le 1, ?_⟩
    simp [rounds.requests, rounds.length]
  | waiting looks | telling looks | refused looks =>
    obtain ⟨hlength, hpending, hspaced, -⟩ := looks.looks
    have hwithin := looks.within
    refine ⟨by omega, hspaced, hpending, [], Nat.zero_le 1, ?_⟩
    simpa using looks.requests
  | @applied k beats look tell entry looks moves goesOn request =>
    obtain ⟨hlength, hpending, hspaced, -⟩ := looks.looks
    have hwithin := looks.within
    have hlooks : Interplay.looks (beats ++ [look, tell]) = Interplay.looks (beats ++ [look]) :=
      looks_of_append request
    refine ⟨by rw [hlooks]; omega, hlooks ▸ hspaced, hlooks ▸ hpending, [entry], Nat.le_refl 1, ?_⟩
    rw [List.append_cons, requests_snoc, looks.requests]
    simp [request]

theorem Inquiry.judges (h : Inquiry c r t s beats) (ended : s.calls.get? t = none) :
    ∃ look, (looks beats).getLast? = some look ∧ Judges c r beats look.status := by
  cases h with
  | asking _ _ _ call | waiting _ _ _ _ _ call | telling _ _ _ call =>
    cases ended.symm.trans call
  | @refused k beats look status looks notEnqueued last spares result =>
    obtain ⟨hlength, -, -, hlast⟩ := looks.looks
    refine ⟨_, hlast, ?_, fun hpending => ?_, fun _ => ?_, fun h => absurd h notEnqueued⟩
    · rw [looks.results, result]
      rfl
    · rw [hlength, last hpending]
    · exact List.forall_mem_append.mpr ⟨looks.spares, List.forall_mem_singleton.mpr spares⟩
  | @applied k beats look tell entry looks moves goesOn request tells result =>
    obtain ⟨-, -, -, hlast⟩ := looks.looks
    have hlooks : Interplay.looks (beats ++ [look, tell]) = Interplay.looks (beats ++ [look]) :=
      looks_of_append request
    refine ⟨_, hlooks ▸ hlast, ?_, (fun h => by cases h), fun h => absurd rfl h, fun _ => ?_⟩
    · rw [List.append_cons, results_snoc, looks.results, goesOn, result]
      rfl
    · exact ⟨beats, look, tell, rfl, looks.spares, moves, tells⟩

/-- A handling that has not come to its end has not taken all its turns, and can take the next. -/
theorem Inquiry.goes_on (h : Inquiry c r t s beats) {call : Call}
    (found : s.calls.get? t = some call) :
    beats.length < 2 * c.recheckAttempts + 2 ∧ results beats = [] ∧ (s.Calm c call.since →
      ∃ answer result s', Step s (.turn t call answer result) s' ∧
        call.request.isServed answer = true) := by
  have turn {answer : call.request.Answer} {mid : System}
      (hanswer : s.answer? t call (.served default default) call.request = some (answer, mid))
      (hserved : call.request.isServed answer = true) :
      ∃ answer result s', Step s (.turn t call answer result) s' ∧
        call.request.isServed answer = true := by
    obtain ⟨result, s', hstep, -⟩ := exists_turn found false hanswer
    exact ⟨answer, result, s', hstep, hserved⟩
  cases h with
  | asking rounds now within hcall =>
    cases hcall.symm.trans found
    have hlength := rounds.length
    refine ⟨by omega, rounds.results, fun calm => turn rfl ?_⟩
    exact isServed_update calm.failures calm.updateFailures r.messageId r.target default default
  | waiting looks spares goesOn time more hcall =>
    cases hcall.symm.trans found
    have hlength := looks.length
    refine ⟨by omega, by rw [looks.results, goesOn]; rfl, fun calm => turn (if_pos calm.rested) rfl⟩
  | telling looks moves goesOn hcall =>
    cases hcall.symm.trans found
    have hlength := looks.length
    have hwithin := looks.within
    exact ⟨by omega, by rw [looks.results, goesOn]; rfl, fun _ => turn rfl rfl⟩
  | refused _ _ _ _ _ ended | applied _ _ _ _ _ _ ended => cases ended.symm.trans found

end Ends

/-- **The first status that is not pending decides.** Take the handling of any receipt, whatever
goes on around it, as long as the store and the history do what it asks. Its message is looked at
at most once more than the settings allow to look again, with one pause before each look but the
first, and never again after a look that found another status than pending. When the handling has
come to its end, what the last look found says what became of the receipt: it is applied if the
message was enqueued, a repetition if its life had ended, and dropped if the message was still
pending, which takes all the looks. Only a receipt that is applied makes a difference: one step of
its message and one entry with its detail. And the handling does come to its end: it takes a limited
number of turns, and can take the next one once its pause is over. -/
theorem first_look_decides {c : Config} {r : Receipt} {t : TaskId} {s₀ s : System} {since : Nat}
    {beats : List Beat} (begun : s₀.calls.get? t = some ⟨c, .handling (.begin r), since⟩)
    (sound : s₀.store.Sound) (course : Course (Apart t) t s₀ beats s)
    (served : ∀ b ∈ beats, b.call.request.isServed b.answer = true) :
    Inquires c r beats ∧
    (s.calls.get? t = none →
      ∃ look, (looks beats).getLast? = some look ∧ Judges c r beats look.status) ∧
    (∀ call, s.calls.get? t = some call → beats.length < 2 * c.recheckAttempts + 2 ∧
      results beats = [] ∧ (s.Calm c call.since → ∃ answer result s',
        Step s (.turn t call answer result) s' ∧ call.request.isServed answer = true)) := by
  have hinquiry := course.inquiry begun sound served
  exact ⟨hinquiry.inquires, hinquiry.judges, fun call found => hinquiry.goes_on found⟩

/-- A message is inserted, and the handling of its receipt begins. -/
def earlyReceiptMoves : List Move :=
  [.outside (.insert (.ofNat 1) default .epoch),
    .start 1 .default (.handle (.delivered (.ofNat 1)))]

/-- The receipt is looked at; while it rests, somebody else records that the message was enqueued;
then it is looked at again and the history is told. -/
def secondLookMoves : List Move :=
  [.turn 1 (.served .epoch default) false,
    .start 0 .default (.record ⟨.ofNat 1, .enqueued, none⟩),
    .turn 0 (.served .epoch default) false,
    .turn 0 (.served .epoch default) false,
    .outside (.wait 100),
    .turn 1 (.served .epoch default) false,
    .turn 1 (.served .epoch default) false,
    .turn 1 (.served .epoch default) false]

/-- A task is not given another call, its answers are served, and it comes to its end. -/
def ServedToEnd (t : TaskId) (trace : List Moment) (s : System) : Prop :=
  (∀ moment ∈ trace, moment.event.isStartOf t = false) ∧
    (∀ moment ∈ trace.filter fun moment => moment.event.isTurnOf t,
      moment.event.isHearing = true) ∧ s.calls.get? t = none

instance (t : TaskId) (trace : List Moment) (s : System) : Decidable (ServedToEnd t trace s) :=
  inferInstanceAs (Decidable (_ ∧ _))

theorem first_look_decides_secondLook : ∃ s₀ s beats,
    s₀.calls.get? 1 = some ⟨.default, .handling (.begin (.delivered (.ofNat 1))), 0⟩ ∧
    s₀.store.Sound ∧ Course (Apart 1) 1 s₀ beats s ∧
    (∀ b ∈ beats, b.call.request.isServed b.answer = true) ∧ s.calls.get? 1 = none ∧
    s.store.status? (.ofNat 1) = some .delivered ∧
    ∃ look, (looks beats).getLast? = some look ∧
      Judges .default (.delivered (.ofNat 1)) beats look.status := by
  obtain ⟨before, s₀, first, begun, hlater⟩ := exists_run earlyReceiptMoves (s := .initial)
    (P := fun _ s₀ => s₀.calls.get? 1 =
        some ⟨.default, .handling (.begin (.delivered (.ofNat 1))), 0⟩ ∧
      (s₀.play? secondLookMoves).any (fun p => decide (ServedToEnd 1 p.1 p.2 ∧
        p.2.store.status? (.ofNat 1) = some .delivered)) = true) (by decide +kernel)
  obtain ⟨trace, s, run, ⟨alone, hserved, ended⟩, delivered⟩ := exists_run secondLookMoves
    (P := fun trace s => ServedToEnd 1 trace s ∧ s.store.status? (.ofNat 1) = some .delivered)
    hlater
  obtain ⟨beats, course, hbeats⟩ : ∃ beats, Course (Apart 1) 1 s₀ beats s ∧ _ :=
    run.course fun moment hmem hturn _ h => h.apart (alone moment hmem) hturn
  have served : ∀ b ∈ beats, b.call.request.isServed b.answer = true := fun b hb =>
    hserved (b.moment 1) (hbeats ▸ List.mem_map_of_mem hb)
  exact ⟨s₀, s, beats, begun, first.sound, course, served, ended, delivered,
    (first_look_decides begun first.sound course served).2.1 ended⟩

end Interplay

end Outbox
