import Outbox.Proofs.Interplay.Stint
/-!
# `Proofs.Interplay.Course` — one call, and what goes on around it

What a call comes to may be shown without regard to what the other calls are. The *course* of a call
has its turns, one after another, and between them anything may happen that a relation between the
states before and after allows. So a theorem about every course says of the surroundings only what
it asks of them. Every run is a course of each of its calls.
-/

namespace Outbox.Interplay

/-- A turn of a call, with the states before and after it. -/
structure Beat where
  before : System
  call : Call
  answer : call.request.Answer
  result : Option Result
  after : System

/-- What happened at a turn. -/
def Beat.moment (t : TaskId) (b : Beat) : Moment :=
  ⟨b.before, .turn t b.call b.answer b.result⟩

/-- What calls ask for. -/
def requests (beats : List Beat) : List Request :=
  beats.map fun b => b.call.request

/-- What calls come to. -/
def results (beats : List Beat) : List Result :=
  beats.filterMap Beat.result

theorem requests_snoc (beats : List Beat) (b : Beat) :
    requests (beats ++ [b]) = requests beats ++ [b.call.request] :=
  List.map_append

theorem results_snoc (beats : List Beat) (b : Beat) :
    results (beats ++ [b]) = results beats ++ b.result.toList := by
  rw [results, List.filterMap_append]
  cases h : b.result <;> simp [results, h]

/-- The turns of a call up to a state, where `Between` is what can happen between two of them. -/
inductive Course (Between : System → System → Prop) (t : TaskId) (s₀ : System) :
    List Beat → System → Prop
  | begin : Course Between t s₀ [] s₀
  | meanwhile {beats : List Beat} {s s' : System} :
      Course Between t s₀ beats s → Between s s' → Course Between t s₀ beats s'
  | turn {beats : List Beat} {s s' : System} {call : Call} {answer : call.request.Answer}
      {result : Option Result} : Course Between t s₀ beats s →
      Step s (.turn t call answer result) s' →
      Course Between t s₀ (beats ++ [⟨s, call, answer, result, s'⟩]) s'

/-- The least that is asked of what happens between two turns of a call: the call is left to itself,
the clock is not turned back, and the store stays sound. -/
structure Apart (t : TaskId) (s s' : System) : Prop where
  call : s'.calls.get? t = s.calls.get? t
  now : s.now ≤ s'.now
  sound : s.store.Sound → s'.store.Sound

/-- Whether a task is given a call. -/
def Event.isStartOf (t : TaskId) : Event → Bool
  | .start u .. => u == t
  | .outside _ | .turn .. => false

section Course

variable {Between : System → System → Prop} {t : TaskId} {s₀ s s' : System} {beats : List Beat}
  {trace : List Moment}

/-- A turn of a call is an answer, and what the call makes of it. -/
theorem Step.turned {call : Call} {answer : call.request.Answer} {result : Option Result}
    (h : Step s (.turn t call answer result) s') :
    ∃ stop mid, Turned s t call answer stop result mid s' := by
  rcases Step.cases h with ⟨o, he, -⟩ | ⟨u, c, job, he, -⟩ | ⟨u, other, _, stop, _, mid, he, hturn⟩
  · cases he
  · cases he
  · cases he
    exact ⟨stop, mid, hturn⟩

/-- A step that neither gives a task a call nor is a turn of its call leaves the call to itself. -/
theorem Step.apart {e : Event} (h : Step s e s') (hstart : e.isStartOf t = false)
    (hturn : e.isTurnOf t = false) : Apart t s s' := by
  refine ⟨?_, h.now_le, h.sound⟩
  rcases Step.cases h with ⟨o, rfl, hallowed, rfl⟩ | ⟨u, c, job, rfl, hstarted⟩ |
    ⟨u, call, answer, stop, result, mid, rfl, hturned⟩
  · rw [(outside_cases hallowed).2.2.1]
  · rw [hstarted.state, Table.get?_put, if_neg (beq_eq_false_iff_ne.mp hstart)]
  · rw [hturned.calls, if_neg (beq_eq_false_iff_ne.mp hturn)]

theorem Course.sound (course : Course Between t s₀ beats s)
    (apart : ∀ {s s'}, Between s s' → Apart t s s') (hs : s₀.store.Sound) : s.store.Sound := by
  induction course with
  | begin => exact hs
  | meanwhile _ other ih => exact (apart other).sound ih
  | turn _ h ih => exact h.sound ih

/-- In a run the store is sound whenever something happens, if it was at first. -/
theorem Run.sound_of_mem (run : Run s₀ trace s) (hs : s₀.store.Sound) :
    s.store.Sound ∧ ∀ moment ∈ trace, moment.before.store.Sound := by
  induction run with
  | nil => exact ⟨hs, fun _ hmem => absurd hmem List.not_mem_nil⟩
  | snoc _ h ih => exact ⟨h.sound ih.1, forall_mem_snoc.mpr ⟨ih.2, ih.1⟩⟩

/-- **Every run is a course of each of its calls**, if the other steps are as they may be. -/
theorem Run.course (run : Run s₀ trace s)
    (others : ∀ moment ∈ trace, moment.event.isTurnOf t = false →
      ∀ s', Step moment.before moment.event s' → Between moment.before s') :
    ∃ beats, Course Between t s₀ beats s ∧
      beats.map (Beat.moment t) = trace.filter fun moment => moment.event.isTurnOf t := by
  induction run with
  | nil => exact ⟨[], .begin, rfl⟩
  | @snoc trace s s' e run h ih =>
    obtain ⟨hothers, hother⟩ := forall_mem_snoc.mp others
    obtain ⟨beats, course, hbeats⟩ := ih hothers
    rw [List.filter_append, List.filter_singleton, ← hbeats]
    cases hturn : e.isTurnOf t with
    | false =>
      rw [cond_false, List.append_nil]
      exact ⟨beats, course.meanwhile (hother hturn s' h), rfl⟩
    | true =>
      cases e with
      | turn u call answer result =>
        obtain rfl : u = t := beq_iff_eq.mp hturn
        refine ⟨_, course.turn h, ?_⟩
        rw [List.map_append]
        rfl
      | outside | start => cases hturn

end Course

end Outbox.Interplay
