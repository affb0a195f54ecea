import Outbox.Proofs.Rehearsal.Turns
/-!
# `Proofs.Rehearsal.Loops` — which loops were set going, and who knows of them

A loop that is alive must be known to somebody, or nobody could stop it. `Accounts` says that the
pipeline knows every loop of its own that is alive: it is on the roster, or a stop has taken it off
and waits for its end. It also says what a start relies on: nobody else touches the roster
meanwhile, and the loops that it is about to set going are missing. Every scene keeps that, as long
as nobody takes the end of a loop away before the pipeline has seen it.
-/

namespace Outbox.Rehearsal

/-- A loop that was set going, for the pipeline with a number. -/
structure Launch where
  pipeline : Nat
  role : Role
  loop : Launched
  deriving DecidableEq

/-- The loops of a roster, as those of the pipeline with a number. -/
def launchesOf (number : Option Nat) (loops : Roster) : List Launch :=
  number.toList.flatMap fun n =>
    [Role.publisher, Role.consumer].filterMap fun role => (loops.loop role).map (⟨n, role, ·⟩)

/-- The loops that are set going in a scene. -/
def Scene.launches (scene : Scene) : List Launch :=
  match scene.happening with
  | .turn t =>
    match scene.before.stateOf t with
    | some (.running (.starting (.launching publisher consumer)) _) =>
      launchesOf scene.before.number (scene.before.launched publisher consumer)
    | _ => []
  | _ => []

/-- The loops that are set going in some scenes. -/
def launches (scenes : List Scene) : List Launch :=
  scenes.flatMap Scene.launches

/-- The task whose end is taken out in a scene. -/
def Scene.forgets? (scene : Scene) : Option TaskId :=
  match scene.happening with
  | .forget t => some t
  | _ => none

/-- Whether a task comes into being in a scene to take an action. -/
def Scene.begins (scene : Scene) (t : TaskId) : Bool :=
  match scene.happening with
  | .begin _ => scene.before.fresh = t
  | _ => false

/-- What is taken out are the replies of actions. -/
def RepliesTaken (scenes : List Scene) : Prop :=
  ∀ scene ∈ scenes, ∀ t ∈ scene.forgets?, ∃ begun ∈ scenes, begun.begins t = true

instance : DecidablePred RepliesTaken := fun scenes =>
  inferInstanceAs (Decidable
    (∀ scene ∈ scenes, ∀ t ∈ scene.forgets?, ∃ begun ∈ scenes, begun.begins t = true))

/-- The end of every loop that is set going stays for the pipeline to see. -/
def LoopsKept (scenes : List Scene) : Prop :=
  ∀ scene ∈ scenes, ∀ launch ∈ launches scenes, scene.forgets? ≠ some launch.loop.task

namespace World

/-- The pipeline knows of a loop: it is on the roster, or a stop waits for its end. -/
def Keeps (w : World) (role : Role) (loop : Launched) : Prop :=
  w.roster.loop role = some loop ∨
    ∃ t state, w.stateOf t = some state ∧ state.held role = some loop

/-- What is known of the loops that were set going. -/
structure Accounts (launched : List Launch) (w : World) : Prop where
  /-- The numbers that are still to be given out are not those of tasks. -/
  numbered : ∀ t, w.fresh ≤ t → w.stateOf t = none
  /-- At most one task has the roster. -/
  sole : ∀ t state, w.stateOf t = some state → state.isInside = true → w.Alone t
  /-- There is no start without a pipeline. -/
  built : ∀ t state, w.stateOf t = some state → state.isStart = true → w.number.isSome = true
  /-- A start is about to set going what is missing. -/
  fits : ∀ t s wait, w.stateOf t = some (.running (.starting s) wait) → s.Fits w.roster
  number : ∀ n, w.number = some n → n < w.fresh
  older : ∀ l ∈ launched, l.pipeline < w.fresh ∧ l.loop.signal < w.fresh
  /-- Every loop is still there, if only to be seen to have ended. -/
  loops : ∀ l ∈ launched, ∃ state, w.stateOf l.loop.task = some state ∧ state.isLoop = true
  distinct : ∀ l ∈ launched, ∀ l' ∈ launched, l.loop.signal = l'.loop.signal → l = l'
  /-- Whatever the pipeline knows of was set going for it. -/
  listed : ∀ role loop, w.Keeps role loop → ∃ n, w.number = some n ∧ ⟨n, role, loop⟩ ∈ launched
  /-- The pipeline knows of every loop of its own that is alive. -/
  accounted : ∀ l ∈ launched, w.isLive l.loop.task = true → w.number = some l.pipeline →
    w.Keeps l.role l.loop
  /-- At most one loop of a kind is alive. -/
  single : ∀ l ∈ launched, ∀ l' ∈ launched, l.pipeline = l'.pipeline → l.role = l'.role →
    w.isLive l.loop.task = true → w.isLive l'.loop.task = true → l = l'

section Accounts

variable {launched : List Launch} {w w' : World} {who : Option TaskId} {id : TaskId}
  {old new : TaskState} {role : Role} {loop : Launched}

theorem mem_launchesOf {number : Option Nat} {loops : Roster} {l : Launch} :
    l ∈ launchesOf number loops ↔ number = some l.pipeline ∧ loops.loop l.role = some l.loop := by
  obtain ⟨n, role, loop⟩ := l
  cases number with
  | none => simp [launchesOf]
  | some k =>
    have hrole : role = .publisher ∨ role = .consumer := by
      cases role
      · exact .inl rfl
      · exact .inr rfl
    simp only [launchesOf, Option.toList_some, List.flatMap_singleton, List.mem_filterMap,
      Option.map_eq_some_iff, Launch.mk.injEq, Option.some.injEq]
    constructor
    · rintro ⟨role', -, loop', hloop, rfl, rfl, rfl⟩
      exact ⟨rfl, hloop⟩
    · rintro ⟨rfl, hloop⟩
      refine ⟨role, ?_, loop, hloop, rfl, rfl, rfl⟩
      rcases hrole with rfl | rfl <;> simp

theorem eq_of_mem_launchesOf {number : Option Nat} {loops : Roster} {l l' : Launch}
    (hl : l ∈ launchesOf number loops) (hl' : l' ∈ launchesOf number loops)
    (same : l.role = l'.role) : l = l' := by
  obtain ⟨n, role, loop⟩ := l
  obtain ⟨n', role', loop'⟩ := l'
  obtain ⟨hnumber, hloop⟩ := mem_launchesOf.mp hl
  obtain ⟨hnumber', hloop'⟩ := mem_launchesOf.mp hl'
  cases same
  cases hnumber.symm.trans hnumber'
  cases hloop.symm.trans hloop'
  rfl

/-- Only a start that is about to do so sets loops going. -/
theorem launches_eq_nil {happening : Happening}
    (h : ∀ t publisher consumer wait, happening = .turn t →
      w.stateOf t ≠ some (.running (.starting (.launching publisher consumer)) wait)) :
    Scene.launches ⟨w, happening, w'⟩ = [] := by
  cases happening with
  | turn t =>
    simp only [Scene.launches]
    split
    · next publisher consumer wait hstate => exact absurd hstate (h t publisher consumer wait rfl)
    · rfl
  | _ => rfl

theorem launches_of_launching {publisher : Bool} {consumer : Option StreamId} {wait : Wait}
    (was : w.stateOf id = some (.running (.starting (.launching publisher consumer)) wait)) :
    Scene.launches ⟨w, .turn id, w'⟩ = launchesOf w.number (w.launched publisher consumer) := by
  simp only [Scene.launches, was]

/-- Who is alone with the roster may hold loops, and nobody else does. -/
theorem keeps_of_alone (alone : w.Alone id) (was : w.stateOf id = some old) :
    w.Keeps role loop ↔ w.roster.loop role = some loop ∨ old.held role = some loop := by
  refine or_congr_right ⟨?_, fun h => ⟨id, old, was, h⟩⟩
  rintro ⟨t, state, hstate, hheld⟩
  cases alone t state hstate (TaskState.inside_of_held hheld)
  cases hstate.symm.trans was
  exact hheld

theorem Passage.alone (passage : Passage (some id) w w') (alone : w.Alone id) : w'.Alone id := by
  intro t state hstate hinside
  by_contra hne
  rcases Nat.lt_or_ge t w.fresh with hlt | hge
  · rw [passage.others t hlt fun h => hne (Option.some.inj h).symm] at hstate
    exact hne (alone t state hstate hinside)
  · have hnew := (passage.arrivals t state hge hstate).2
    rw [TaskState.outside_of_isNew hnew] at hinside
    cases hinside

/-- When who is alone with the roster gives it back nobody has it. -/
theorem Turned.vacated (turned : Turned w id old new w') (alone : w.Alone id)
    (done : new.isInside = false) {t : TaskId} {state : TaskState}
    (ht : w'.stateOf t = some state) : state.isInside = false := by
  cases hinside : state.isInside with
  | false => rfl
  | true =>
    cases turned.passage.alone alone t state ht hinside
    cases turned.now.symm.trans ht
    exact hinside.symm.trans done

/-! ## Scenes -/

theorem not_live_of_gone (h : w.stateOf id = none) : w.isLive id = false := by
  unfold isLive
  rw [h]

theorem stateOf_erase (w : World) (id t : TaskId) :
    ({ w with tasks := w.tasks.erase id } : World).stateOf t =
      if id = t then none else w.stateOf t := by
  show ((w.tasks.erase id).get? t).map Task.state = _
  rw [Table.get?_erase]
  split <;> rfl

theorem stateOf_forget (w : World) (id : TaskId) :
    ({ w with tasks := w.tasks.erase id } : World).stateOf id = none :=
  (w.stateOf_erase id id).trans (if_pos rfl)

theorem passage_forget (numbered : ∀ t, w.fresh ≤ t → w.stateOf t = none) (id : TaskId) :
    Passage (some id) w { w with tasks := w.tasks.erase id } where
  fresh := Nat.le_refl _
  others t _ ht := (w.stateOf_erase id t).trans (if_neg fun heq => ht (congrArg some heq))
  arrivals t state ht hstate := by
    rw [stateOf_erase, numbered t ht, ite_self] at hstate
    cases hstate

end Accounts

end World

/-- The task whose state can change when something happens. -/
def Happening.mover? : Happening → Option TaskId
  | .turn t | .hear t | .forget t => some t
  | .begin _ | .wait _ | .note _ | .takeTold => none

namespace World

section Accounts

variable {launched : List Launch} {w w' : World} {who : Option TaskId} {id t : TaskId}
  {old new : TaskState} {role : Role} {loop : Launched} {happening : Happening}

/-- Who is alive was alive before, if whoever went on was. -/
theorem Passage.wasLive (passage : Passage who w w')
    (mover : ∀ id, who = some id → w'.isLive id = true → w.isLive id = true)
    (there : t < w.fresh) (live : w'.isLive t = true) : w.isLive t = true := by
  by_cases hwho : who = some t
  · exact mover t hwho live
  · rw [isLive_congr (passage.others t there hwho)] at live
    exact live

/-- In every scene at most one task goes on, and none comes back to life. -/
theorem passage_of_happen (numbered : ∀ t, w.fresh ≤ t → w.stateOf t = none)
    (step : w.happen? happening = some w') :
    Passage happening.mover? w w' ∧
      ∀ id, happening.mover? = some id → w'.isLive id = true → w.isLive id = true := by
  cases happening with
  | begin action =>
    cases step
    exact ⟨(w.adds_addTask w.config none (.acting action)).passage numbered rfl, fun _ ht => by cases ht⟩
  | turn t =>
    obtain ⟨old, new, hturned⟩ := turns_of_turn numbered step
    refine ⟨hturned.passage, fun id ht _ => ?_⟩
    cases ht
    exact hturned.live
  | hear t =>
    obtain ⟨old, new, hturned⟩ := turns_of_hear numbered step
    refine ⟨hturned.passage, fun id ht _ => ?_⟩
    cases ht
    exact hturned.live
  | forget t =>
    simp only [World.happen?] at step
    split at step
    · cases step
      refine ⟨passage_forget numbered t, fun id ht live => ?_⟩
      cases ht
      cases (not_live_of_gone (w.stateOf_forget t)).symm.trans live
    · cases step
  | wait | note | takeTold =>
    cases step
    exact ⟨passage_of_states numbered (fun _ => rfl) (Nat.le_refl _), fun _ ht => by cases ht⟩

namespace Accounts

theorem initial (c : Config) (clockStart : Int) (ids : List MessageId) :
    Accounts [] (initial c clockStart ids) where
  numbered _ _ := rfl
  sole _ _ h := by cases h
  built _ _ h := by cases h
  fits _ _ _ h := by cases h
  number _ h := by cases h
  older _ h := absurd h List.not_mem_nil
  loops _ h := absurd h List.not_mem_nil
  distinct _ h := absurd h List.not_mem_nil
  listed role loop h := by
    rcases h with h | ⟨_, _, h, -⟩
    · cases role <;> cases h
    · cases h
  accounted _ h := absurd h List.not_mem_nil
  single _ h := absurd h List.not_mem_nil

theorem there (h : Accounts launched w) {l : Launch} (hl : l ∈ launched) :
    l.loop.task < w.fresh := by
  obtain ⟨state, hstate, -⟩ := h.loops l hl
  exact lt_fresh_of_stateOf h.numbered hstate

/-- The numbers of a loop and of its pipeline stay given out. -/
theorem still_older (h : Accounts launched w) (passage : Passage who w w') {l : Launch}
    (hl : l ∈ launched) : l.pipeline < w'.fresh ∧ l.loop.signal < w'.fresh := by
  obtain ⟨hpipeline, hsignal⟩ := h.older l hl
  exact ⟨Nat.lt_of_lt_of_le hpipeline passage.fresh, Nat.lt_of_lt_of_le hsignal passage.fresh⟩

theorem wasLive (h : Accounts launched w) (passage : Passage who w w')
    (mover : ∀ id, who = some id → w'.isLive id = true → w.isLive id = true) {l : Launch}
    (hl : l ∈ launched) (live : w'.isLive l.loop.task = true) : w.isLive l.loop.task = true :=
  passage.wasLive mover (h.there hl) live

/-- What is known stays known where the pipeline stays the same, forgets no loop that is alive and
comes to know of no other. -/
theorem passes (h : Accounts launched w) (passage : Passage who w w')
    (mover : ∀ id, who = some id → w'.isLive id = true → w.isLive id = true)
    (stays : ∀ l ∈ launched, who = some l.loop.task →
      ∃ state, w'.stateOf l.loop.task = some state ∧ state.isLoop = true)
    (number : w'.number = w.number)
    (sole : ∀ t state, w'.stateOf t = some state → state.isInside = true → w'.Alone t)
    (built : ∀ t state, w'.stateOf t = some state → state.isStart = true → w.number.isSome = true)
    (fits : ∀ t s wait, w'.stateOf t = some (.running (.starting s) wait) → s.Fits w'.roster)
    (keeps : ∀ role loop, w'.Keeps role loop → w.Keeps role loop)
    (kept : ∀ role loop, w.Keeps role loop → w'.Keeps role loop ∨ w.isLive loop.task = false) :
    Accounts launched w' where
  numbered := passage.numbered
  sole := sole
  built t state ht hstart := number ▸ built t state ht hstart
  fits := fits
  number n hn := Nat.lt_of_lt_of_le (h.number n (number ▸ hn)) passage.fresh
  older l hl := h.still_older passage hl
  loops l hl := by
    by_cases hwho : who = some l.loop.task
    · exact stays l hl hwho
    · rw [passage.others _ (h.there hl) hwho]
      exact h.loops l hl
  distinct := h.distinct
  listed role loop hkeeps := number ▸ h.listed role loop (keeps role loop hkeeps)
  accounted l hl hlive hnumber := by
    have hwas := h.wasLive passage mover hl hlive
    rcases kept l.role l.loop (h.accounted l hl hwas (number ▸ hnumber)) with hkeeps | hended
    · exact hkeeps
    · cases hended.symm.trans hwas
  single l hl l' hl' hpipeline hrole hlive hlive' :=
    h.single l hl l' hl' hpipeline hrole (h.wasLive passage mover hl hlive)
      (h.wasLive passage mover hl' hlive')

/-- Nobody gets the roster or gives it back, and the pipeline stays as it is. -/
theorem idle (h : Accounts launched w) (passage : Passage who w w')
    (mover : ∀ id, who = some id → w'.isLive id = true → w.isLive id = true)
    (stays : ∀ l ∈ launched, who = some l.loop.task →
      ∃ state, w'.stateOf l.loop.task = some state ∧ state.isLoop = true)
    (before : ∀ id state, who = some id → w.stateOf id = some state → state.isInside = false)
    (after : ∀ id state, who = some id → w'.stateOf id = some state → state.isInside = false)
    (built : ∀ id state, who = some id → w'.stateOf id = some state → state.isStart = true →
      w.number.isSome = true)
    (same : w'.pipeline = w.pipeline) : Accounts launched w' := by
  have hroster := roster_of_pipeline same
  have hinside {t : TaskId} {state : TaskState} (inside : state.isInside = true) :
      w'.stateOf t = some state ↔ w.stateOf t = some state := by
    by_cases hwho : who = some t
    · refine ⟨fun ht => ?_, fun ht => ?_⟩
      · cases inside.symm.trans (after t state hwho ht)
      · cases inside.symm.trans (before t state hwho ht)
    · rcases Nat.lt_or_ge t w.fresh with hlt | hge
      · rw [passage.others t hlt hwho]
      · refine ⟨fun ht => ?_, fun ht => ?_⟩
        · have hnew := (passage.arrivals t state hge ht).2
          cases inside.symm.trans (TaskState.outside_of_isNew hnew)
        · cases (h.numbered t hge).symm.trans ht
  have hkeeps (role : Role) (loop : Launched) : w'.Keeps role loop ↔ w.Keeps role loop := by
    unfold Keeps
    rw [hroster]
    refine or_congr_right (exists_congr fun t => exists_congr fun state => ?_)
    exact and_congr_left fun hheld => hinside (TaskState.inside_of_held hheld)
  refine h.passes passage mover stays (number_of_pipeline same) (fun t state ht hin => ?_)
    (fun t state ht hstart => ?_) (fun t s wait ht => ?_) (fun role loop => (hkeeps role loop).mp)
    fun role loop hk => .inl ((hkeeps role loop).mpr hk)
  · intro t' state' ht' hin'
    exact h.sole t state ((hinside hin).mp ht) hin t' state' ((hinside hin').mp ht') hin'
  · by_cases hwho : who = some t
    · exact built t state hwho ht hstart
    · rcases Nat.lt_or_ge t w.fresh with hlt | hge
      · rw [passage.others t hlt hwho] at ht
        exact h.built t state ht hstart
      · have hnew := (passage.arrivals t state hge ht).2
        cases hstart.symm.trans (TaskState.not_start_of_isNew hnew)
  · cases s with
    | opening => trivial
    | _ =>
      rw [hroster]
      exact h.fits t _ wait ((hinside rfl).mp ht)

/-- A task that is alone with the roster, or gets it, leaves the number of the pipeline as it is and
sets no loops going. -/
theorem commands (h : Accounts launched w) (turned : Turned w id old new w')
    (alone : w.Alone id) (task : old.isLoop = false) (number : w'.number = w.number)
    (started : new.isStart = true → old.isStart = true)
    (fits : ∀ s wait, new = .running (.starting s) wait → s.Fits w'.roster)
    (keeps : ∀ role loop, w'.roster.loop role = some loop ∨ new.held role = some loop →
      w.roster.loop role = some loop ∨ old.held role = some loop)
    (kept : ∀ role loop, w.roster.loop role = some loop ∨ old.held role = some loop →
      (w'.roster.loop role = some loop ∨ new.held role = some loop) ∨
        (w.ended loop.task).isSome = true) : Accounts launched w' := by
  have halone := turned.passage.alone alone
  refine h.passes turned.passage (fun t ht _ => ?_) (fun l hl ht => ?_) number
    (fun t state ht hin => ?_) (fun t state ht hstart => ?_) (fun t s wait ht => ?_)
    (fun role loop hkeeps => ?_) fun role loop hkeeps => ?_
  · cases ht
    exact turned.live
  · cases ht
    obtain ⟨state, hstate, hloop⟩ := h.loops l hl
    cases hstate.symm.trans turned.was
    cases task.symm.trans hloop
  · cases halone t state ht hin
    exact halone
  · by_cases hid : id = t
    · subst hid
      cases ht.symm.trans turned.now
      exact h.built id old turned.was (started hstart)
    · rcases Nat.lt_or_ge t w.fresh with hlt | hge
      · rw [turned.passage.others t hlt fun heq => hid (Option.some.inj heq)] at ht
        exact h.built t state ht hstart
      · have hnew := (turned.passage.arrivals t state hge ht).2
        cases hstart.symm.trans (TaskState.not_start_of_isNew hnew)
  · cases s with
    | opening => trivial
    | _ =>
      cases halone t _ ht rfl
      exact fits _ wait (Option.some.inj (turned.now.symm.trans ht))
  · exact (keeps_of_alone alone turned.was).mpr
      (keeps role loop ((keeps_of_alone halone turned.now).mp hkeeps))
  · rcases kept role loop ((keeps_of_alone alone turned.was).mp hkeeps) with hkept | hended
    · exact .inl ((keeps_of_alone halone turned.now).mpr hkept)
    · exact .inr (not_live_of_ended hended)

/-- A task that runs no loop takes a turn; the loops are there as they were. -/
theorem older_loops (h : Accounts launched w) (turned : Turned w id old new w')
    (task : old.isLoop = false) {l : Launch} (hl : l ∈ launched) :
    w'.stateOf l.loop.task = w.stateOf l.loop.task := by
  refine turned.passage.others _ (h.there hl) fun ht => ?_
  cases ht
  obtain ⟨state, hstate, hloop⟩ := h.loops l hl
  cases hstate.symm.trans turned.was
  cases task.symm.trans hloop

/-- Where somebody is alone with the roster and holds no loops, the loops of the pipeline that are
alive are on the roster. -/
theorem listed_of_live (h : Accounts launched w) (alone : w.Alone id) (was : w.stateOf id = some old)
    (empty : ∀ role, old.held role = none) {l : Launch} (hl : l ∈ launched)
    (live : w.isLive l.loop.task = true) (current : w.number = some l.pipeline) :
    w.roster.loop l.role = some l.loop := by
  have hkeeps := (keeps_of_alone alone was).mp (h.accounted l hl live current)
  refine hkeeps.resolve_right fun hheld => ?_
  rw [empty] at hheld
  cases hheld

/-- A new pipeline has no loops yet. -/
theorem builds (h : Accounts launched w) (turned : Turned w id old new w') (alone : w.Alone id)
    (task : old.isLoop = false) (done : new.isInside = false) {k : Nat}
    (number : w'.number = some k) (roster : w'.roster = .empty) (above : w.fresh ≤ k)
    (below : k < w'.fresh) : Accounts launched w' where
  numbered := turned.passage.numbered
  sole t state ht hinside := by
    cases hinside.symm.trans (turned.vacated alone done ht)
  built _ _ _ _ := by
    rw [number]
    rfl
  fits t s wait ht := by
    cases s with
    | opening => trivial
    | _ => cases turned.vacated alone done ht
  number n hn := by
    cases number.symm.trans hn
    exact below
  older l hl := h.still_older turned.passage hl
  loops l hl := by
    rw [h.older_loops turned task hl]
    exact h.loops l hl
  distinct := h.distinct
  listed role loop hkeeps := by
    rcases hkeeps with hlisted | ⟨t, state, ht, hheld⟩
    · rw [roster] at hlisted
      cases role <;> cases hlisted
    · cases (turned.vacated alone done ht).symm.trans (TaskState.inside_of_held hheld)
  accounted l hl _ hnumber := by
    cases number.symm.trans hnumber
    exact absurd (h.older l hl).1 (Nat.not_lt_of_le above)
  single l hl l' hl' hpipeline hrole live live' := by
    rw [isLive_congr (h.older_loops turned task hl)] at live
    rw [isLive_congr (h.older_loops turned task hl')] at live'
    exact h.single l hl l' hl' hpipeline hrole live live'

/-- A start sets going the loops that are missing. -/
theorem launches {publisher : Bool} {consumer : Option StreamId} {wait : Wait}
    (h : Accounts launched w)
    (turned : Turned w id (.running (.starting (.launching publisher consumer)) wait) new w')
    (done : new.isInside = false) (number : w'.number = w.number)
    (roster : w'.roster = (w.launched publisher consumer).over w.roster)
    (loops : w.SetGoing (w.launched publisher consumer) w') :
    Accounts (launched ++ launchesOf w.number (w.launched publisher consumer)) w' := by
  have halone := h.sole id _ turned.was rfl
  have hbuilt := h.built id _ turned.was rfl
  have hmissing := isSome_launched (w.isSome_number ▸ hbuilt) (h.fits id _ wait turned.was)
  have hlive {l : Launch} (hl : l ∈ launched) (live : w'.isLive l.loop.task = true) :
      w.isLive l.loop.task = true := by
    rw [isLive_congr (h.older_loops turned rfl hl)] at live
    exact live
  have hon {l : Launch} (hl : l ∈ launched) (live : w'.isLive l.loop.task = true)
      (current : w.number = some l.pipeline) : w.roster.loop l.role = some l.loop :=
    h.listed_of_live halone turned.was (fun _ => rfl) hl (hlive hl live) current
  have hnew {l : Launch} (hl : l ∈ launchesOf w.number (w.launched publisher consumer)) :
      w.Arrived l.loop w' := loops.arrived l.role l.loop (mem_launchesOf.mp hl).2
  -- of the kinds that are set going no loop was alive
  have hfree {l l' : Launch} (hl : l ∈ launched) (live : w'.isLive l.loop.task = true)
      (hl' : l' ∈ launchesOf w.number (w.launched publisher consumer))
      (hpipeline : l.pipeline = l'.pipeline) : l.role ≠ l'.role := by
    intro hrole
    obtain ⟨hnumber, hloop⟩ := mem_launchesOf.mp hl'
    have hsome := hmissing l.role
    rw [hon hl live (hpipeline ▸ hnumber), hrole, hloop] at hsome
    cases hsome
  have hapart {l l' : Launch} (hl : l ∈ launched)
      (hl' : l' ∈ launchesOf w.number (w.launched publisher consumer)) :
      l.loop.signal ≠ l'.loop.signal :=
    Nat.ne_of_lt (Nat.lt_of_lt_of_le (h.older l hl).2 (hnew hl').above)
  exact {
    numbered := turned.passage.numbered
    sole t state ht hinside := by
      cases hinside.symm.trans (turned.vacated halone done ht)
    built _ _ _ _ := by
      rw [number]
      exact hbuilt
    fits t s wait ht := by
      cases s with
      | opening => trivial
      | _ => cases turned.vacated halone done ht
    number n hn := Nat.lt_of_lt_of_le (h.number n (number ▸ hn)) turned.passage.fresh
    older l hl := by
      rcases List.mem_append.mp hl with hl | hl
      · exact h.still_older turned.passage hl
      · have hpipeline := h.number _ (mem_launchesOf.mp hl).1
        exact ⟨Nat.lt_of_lt_of_le hpipeline turned.passage.fresh, (hnew hl).below⟩
    loops l hl := by
      rcases List.mem_append.mp hl with hl | hl
      · rw [h.older_loops turned rfl hl]
        exact h.loops l hl
      · exact (hnew hl).state
    distinct l hl l' hl' hsignal := by
      rcases List.mem_append.mp hl with hl | hl <;> rcases List.mem_append.mp hl' with hl' | hl'
      · exact h.distinct l hl l' hl' hsignal
      · exact absurd hsignal (hapart hl hl')
      · exact absurd hsignal.symm (hapart hl' hl)
      · have hloop := (mem_launchesOf.mp hl).2
        have hloop' := (mem_launchesOf.mp hl').2
        exact eq_of_mem_launchesOf hl hl' (loops.distinct _ _ _ _ hloop hloop' hsignal)
    listed role loop hkeeps := by
      obtain ⟨n, hn⟩ := Option.isSome_iff_exists.mp hbuilt
      rcases hkeeps with hlisted | ⟨t, state, ht, hheld⟩
      · rw [roster, Roster.loop_over, Option.or_eq_some_iff] at hlisted
        rw [number]
        rcases hlisted with hloop | ⟨-, hloop⟩
        · exact ⟨n, hn, List.mem_append_right _ (mem_launchesOf.mpr ⟨hn, hloop⟩)⟩
        · obtain ⟨n, hn, hmem⟩ := h.listed role loop (.inl hloop)
          exact ⟨n, hn, List.mem_append_left _ hmem⟩
      · cases (turned.vacated halone done ht).symm.trans (TaskState.inside_of_held hheld)
    accounted l hl live hnumber := by
      rw [number] at hnumber
      refine .inl ?_
      rw [roster, Roster.loop_over]
      rcases List.mem_append.mp hl with hl | hl
      · have hoff : (w.launched publisher consumer).loop l.role = none := by
          refine Option.not_isSome_iff_eq_none.mp ?_
          rw [hmissing l.role, hon hl live hnumber]
          exact Bool.false_ne_true
        rw [hoff, hon hl live hnumber, Option.none_or]
      · rw [(mem_launchesOf.mp hl).2, Option.some_or]
    single l hl l' hl' hpipeline hrole live live' := by
      rcases List.mem_append.mp hl with hl | hl <;> rcases List.mem_append.mp hl' with hl' | hl'
      · exact h.single l hl l' hl' hpipeline hrole (hlive hl live) (hlive hl' live')
      · exact absurd hrole (hfree hl live hl' hpipeline)
      · exact absurd hrole.symm (hfree hl' live' hl hpipeline.symm)
      · exact eq_of_mem_launchesOf hl hl' hrole }

/-- **What one turn does to the loops.** -/
theorem turned (h : Accounts launched w) (turned : Turned w id old new w') :
    Accounts (launched ++ Scene.launches ⟨w, .turn id, w'⟩) w' := by
  -- only the turn in which a start sets loops going adds to them
  have hsame (other : ∀ publisher consumer wait,
      old ≠ .running (.starting (.launching publisher consumer)) wait)
      (h' : Accounts launched w') : Accounts (launched ++ Scene.launches ⟨w, .turn id, w'⟩) w' := by
    have hnil : Scene.launches ⟨w, .turn id, w'⟩ = [] := by
      refine launches_eq_nil fun t publisher consumer wait ht hstate => ?_
      cases ht
      exact other publisher consumer wait (Option.some.inj (turned.was.symm.trans hstate))
    rw [hnil, List.append_nil]
    exact h'
  have hdeed := turned.deed
  cases hdeed with
  | aside beside same =>
    refine hsame (fun _ _ _ heq => ?_) (h.idle turned.passage (fun t ht _ => ?_)
      (fun l hl ht => ?_) (fun t state ht hstate => ?_) (fun t state ht hstate => ?_)
      (fun t state ht hstate hstart => ?_) same)
    · rw [heq] at beside
      cases beside.before
    · cases ht
      exact turned.live
    · cases ht
      obtain ⟨state, hstate, hloop⟩ := h.loops l hl
      cases hstate.symm.trans turned.was
      exact ⟨new, turned.now, beside.loops hloop⟩
    · cases ht
      cases hstate.symm.trans turned.was
      exact TaskState.outside_of_not_command beside.before
    · cases ht
      cases hstate.symm.trans turned.now
      exact beside.after
    · cases ht
      cases hstate.symm.trans turned.now
      exact w.isSome_number ▸ beside.built hstart
  | builds alone number roster above below =>
    exact hsame (fun _ _ _ heq => by cases heq)
      (h.builds turned alone rfl rfl number roster above below)
  | surveys alone number roster outcome =>
    have hheld (role : Role) : new.held role = none := by
      cases outcome <;> rfl
    refine hsame (fun _ _ _ heq => by cases heq) (h.commands turned alone rfl number
      (fun _ => rfl) (fun s wait hnew => ?_) (fun role loop hkeeps => ?_)
      fun role loop hkeeps => ?_)
    · subst hnew
      cases outcome with
      | incomplete missing inside fits => exact fits
    · rw [hheld role, roster, Roster.loop_reapAll] at hkeeps
      exact .inl (Option.filter_eq_some_iff.mp (hkeeps.resolve_right nofun)).1
    · have hon := hkeeps.resolve_right nofun
      rw [roster, Roster.loop_reapAll, hon]
      cases hended : w.ended loop.task with
      | none => exact .inl (.inl (by simp [Option.filter, hended]))
      | some ending => exact .inr rfl
  | @prepares s wait _ prepares same outcome =>
    have hinside : s.isInside = true := by
      rcases prepares with rfl | rfl <;> rfl
    have halone := h.sole id _ turned.was hinside
    have hheld (role : Role) : new.held role = none := by
      cases outcome <;> rfl
    have hroster := roster_of_pipeline same
    refine hsame (fun _ _ _ heq => ?_) (h.commands turned halone rfl (number_of_pipeline same)
      (fun _ => rfl) (fun s wait hnew => ?_) (fun role loop hkeeps => ?_)
      fun role loop hkeeps => ?_)
    · cases heq
      rcases prepares with hs | hs <;> cases hs
    · subst hnew
      cases outcome with
      | ready inside next =>
        rw [hroster]
        exact next (h.fits id _ _ turned.was)
    · rw [hheld role, hroster] at hkeeps
      exact .inl (hkeeps.resolve_right nofun)
    · rw [hroster]
      exact .inl (.inl (hkeeps.resolve_right nofun))
  | launches number roster loops =>
    rw [launches_of_launching turned.was]
    exact h.launches turned rfl number roster loops
  | @chooses choice shutDown wait wait' alone number roster signals =>
    refine hsame (fun _ _ _ heq => by cases heq) (h.commands turned alone rfl number
      (fun hstart => by cases hstart) (fun _ _ heq => by cases heq) (fun role loop hkeeps => ?_)
      fun role loop hkeeps => ?_)
    · have hkeeps' : (choice.spared w.roster).loop role = some loop ∨
          (choice.chosen w.roster).loop role = some loop := roster ▸ hkeeps
      rw [choice.loop_spared, choice.loop_chosen] at hkeeps'
      refine .inl ?_
      cases hselects : choice.selects role <;> simpa [hselects] using hkeeps'
    · have hon := hkeeps.resolve_right nofun
      refine .inl ?_
      show w'.roster.loop role = some loop ∨ (choice.chosen w.roster).loop role = some loop
      rw [roster, choice.loop_spared, choice.loop_chosen, hon]
      cases choice.selects role <;> simp
  | stops inside same spared kept dropped next =>
    have halone := h.sole id _ turned.was inside
    have hroster := roster_of_pipeline same
    refine hsame (fun _ _ _ heq => by cases heq) (h.commands turned halone rfl
      (number_of_pipeline same) (fun hstart => ?_) (fun s wait hnew => ?_)
      (fun role loop hkeeps => ?_) fun role loop hkeeps => ?_)
    · rcases next with ⟨s', wait', rfl, -⟩ | ⟨n, rfl⟩ <;> cases hstart
    · rcases next with ⟨s', wait', rfl, -⟩ | ⟨n, rfl⟩ <;> cases hnew
    · rw [hroster] at hkeeps
      exact hkeeps.imp_right (kept role loop)
    · rw [hroster]
      rcases hkeeps with hon | hheld
      · exact .inl (.inl hon)
      · exact (dropped role loop hheld).imp_left .inr

/-- No task goes on. -/
theorem unmoved (h : Accounts launched w) (passage : Passage none w w')
    (same : w'.pipeline = w.pipeline) : Accounts launched w' := by
  refine h.idle passage ?_ ?_ ?_ ?_ ?_ same
  · intro t ht
    cases ht
  · intro l hl ht
    cases ht
  all_goals
    intro t state ht
    cases ht

/-- The end of a task that is no loop of the pipeline is taken away. -/
theorem forget (h : Accounts launched w) (ended : (w.ended id).isSome = true)
    (kept : ∀ l ∈ launched, id ≠ l.loop.task) :
    Accounts launched { w with tasks := w.tasks.erase id } := by
  have hgone := w.stateOf_forget id
  refine h.idle (passage_forget h.numbered id) (fun t ht live => ?_) (fun l hl ht => ?_)
    (fun t state ht hstate => ?_) (fun t state ht hstate => ?_) (fun t state ht hstate => ?_) rfl
  · cases ht
    cases (not_live_of_gone hgone).symm.trans live
  · exact absurd (Option.some.inj ht) (kept l hl)
  · cases ht
    rw [ended_of_stateOf hstate, Bool.not_eq_true'] at ended
    cases state with
    | ended => rfl
    | running activity wait => cases (isLive_of_running hstate).symm.trans ended
  · cases ht
    cases hgone.symm.trans hstate
  · cases ht
    cases hgone.symm.trans hstate

/-- **Every scene keeps the account of the loops.** -/
theorem happen {happening : Happening} (h : Accounts launched w)
    (step : w.happen? happening = some w')
    (kept : ∀ l ∈ launched, Scene.forgets? ⟨w, happening, w'⟩ ≠ some l.loop.task) :
    Accounts (launched ++ Scene.launches ⟨w, happening, w'⟩) w' := by
  have hidle (other : ∀ t, happening ≠ .turn t) (h' : Accounts launched w') :
      Accounts (launched ++ Scene.launches ⟨w, happening, w'⟩) w' := by
    rw [launches_eq_nil fun t _ _ _ ht => absurd ht (other t), List.append_nil]
    exact h'
  cases happening with
  | begin action =>
    cases step
    have hadds := w.adds_addTask w.config none (.acting action)
    exact hidle (fun _ ht => by cases ht) (h.unmoved (hadds.passage h.numbered rfl) rfl)
  | turn t =>
    obtain ⟨old, new, hturned⟩ := turns_of_turn h.numbered step
    exact h.turned hturned
  | hear t =>
    obtain ⟨old, new, hturned⟩ := turns_of_hear h.numbered step
    obtain ⟨stream, wait, hwas⟩ := stateOf_of_hear step
    have hnil : Scene.launches ⟨w, .turn t, w'⟩ = [] := by
      simp only [Scene.launches, hwas]
    have hturn := h.turned hturned
    rw [hnil, List.append_nil] at hturn
    exact hidle (fun _ ht => by cases ht) hturn
  | forget t =>
    simp only [World.happen?] at step
    split at step
    · next hended =>
      cases step
      exact hidle (fun _ ht => by cases ht) (h.forget hended fun l hl htask => kept l hl (congrArg some htask))
    · cases step
  | wait | note | takeTold =>
    cases step
    exact hidle (fun _ ht => by cases ht)
      (h.unmoved (passage_of_states h.numbered (fun _ => rfl) (Nat.le_refl _)) rfl)

end Accounts

end Accounts

end World

theorem launches_append (scenes later : List Scene) :
    launches (scenes ++ later) = launches scenes ++ launches later :=
  List.flatMap_append

theorem mem_launches_left {scenes : List Scene} {l : Launch} (h : l ∈ launches scenes)
    (later : List Scene) : l ∈ launches (scenes ++ later) :=
  launches_append scenes later ▸ List.mem_append_left _ h

theorem LoopsKept.left {scenes later : List Scene} (h : LoopsKept (scenes ++ later)) :
    LoopsKept scenes := fun scene hscene l hl =>
  h scene (List.mem_append_left _ hscene) l (mem_launches_left hl later)

/-- In a play nobody comes back to life. -/
theorem Play.since {w₀ w : World} {scenes : List Scene} (play : Play w₀ scenes w)
    (numbered : ∀ t, w₀.fresh ≤ t → w₀.stateOf t = none) :
    (∀ t, w.fresh ≤ t → w.stateOf t = none) ∧ ∀ t, t < w₀.fresh →
      t < w.fresh ∧ (w.isLive t = true → w₀.isLive t = true) := by
  induction play with
  | nil => exact ⟨numbered, fun t there => ⟨there, id⟩⟩
  | snoc _ step ih =>
    obtain ⟨hnumbered, hsince⟩ := ih
    obtain ⟨hpassage, hmover⟩ := World.passage_of_happen hnumbered step
    refine ⟨hpassage.numbered, fun t there => ?_⟩
    obtain ⟨hthere, hlive⟩ := hsince t there
    exact ⟨Nat.lt_of_lt_of_le hthere hpassage.fresh,
      fun live => hlive (hpassage.wasLive hmover hthere live)⟩

/-- The loops that are set going have tasks that are new. -/
theorem World.tasks_of_launches {w w' : World} {happening : Happening}
    (numbered : ∀ t, w.fresh ≤ t → w.stateOf t = none) (step : w.happen? happening = some w') :
    ∀ l ∈ Scene.launches ⟨w, happening, w'⟩, w.fresh ≤ l.loop.task ∧ l.loop.task < w'.fresh := by
  intro l hl
  unfold Scene.launches at hl
  split at hl
  · next t hhappening =>
    split at hl
    · next publisher consumer wait hwas =>
      cases hhappening
      obtain ⟨old, new, hturned⟩ := World.turns_of_turn numbered step
      cases hturned.was.symm.trans hwas
      obtain ⟨hs, -⟩ | ⟨_, _, _, hs, -, hloops⟩ := hturned.starts rfl rfl
      · rcases hs with hs | hs <;> cases hs
      · cases hs
        have harrived := hloops.arrived l.role l.loop (World.mem_launchesOf.mp hl).2
        obtain ⟨state, hstate, -⟩ := harrived.state
        exact ⟨harrived.task, World.lt_fresh_of_stateOf hturned.passage.numbered hstate⟩
    · cases hl
  · cases hl

/-- A loop is never run by a task that came into being to take an action. -/
theorem Play.apart {c : Config} {clockStart : Int} {ids : List MessageId} {scenes : List Scene}
    {w : World} (play : Play (.initial c clockStart ids) scenes w) :
    (∀ t, w.fresh ≤ t → w.stateOf t = none) ∧ (∀ l ∈ launches scenes, l.loop.task < w.fresh) ∧
      ∀ scene ∈ scenes, ∀ t, scene.begins t = true →
        t < w.fresh ∧ ∀ l ∈ launches scenes, l.loop.task ≠ t := by
  induction play with
  | nil =>
    exact ⟨fun _ _ => rfl, fun _ hl => absurd hl List.not_mem_nil,
      fun _ hscene => absurd hscene List.not_mem_nil⟩
  | @snoc scenes w w' happening _ step ih =>
    obtain ⟨hnumbered, hthere, hbegun⟩ := ih
    have hpassage := (World.passage_of_happen hnumbered step).1
    have hnew := World.tasks_of_launches hnumbered step
    rw [launches_append, launches, launches, List.flatMap_singleton]
    refine ⟨hpassage.numbered, fun l hl => ?_, fun scene hscene t hbegins => ?_⟩
    · rcases List.mem_append.mp hl with hl | hl
      · exact Nat.lt_of_lt_of_le (hthere l hl) hpassage.fresh
      · exact (hnew l hl).2
    · rcases List.mem_append.mp hscene with hscene | hscene
      · obtain ⟨hlt, hapart⟩ := hbegun scene hscene t hbegins
        refine ⟨Nat.lt_of_lt_of_le hlt hpassage.fresh, fun l hl => ?_⟩
        rcases List.mem_append.mp hl with hl | hl
        · exact hapart l hl
        · exact Nat.ne_of_gt (Nat.lt_of_lt_of_le hlt (hnew l hl).1)
      · -- whoever has just begun has a number that no loop has
        cases List.mem_singleton.mp hscene
        cases happening with
        | begin action =>
          cases step
          cases of_decide_eq_true hbegins
          refine ⟨Nat.lt_succ_self _, fun l hl => ?_⟩
          rcases List.mem_append.mp hl with hl | hl
          · exact Nat.ne_of_lt (hthere l hl)
          · cases hl
        | _ => cases hbegins

/-- Where only replies of actions are taken out the ends of loops stay. -/
theorem Play.loopsKept {c : Config} {clockStart : Int} {ids : List MessageId} {scenes : List Scene}
    {w : World} (play : Play (.initial c clockStart ids) scenes w) (taken : RepliesTaken scenes) :
    LoopsKept scenes := by
  intro scene hscene l hl hforgets
  obtain ⟨begun, hbegun, hbegins⟩ := taken scene hscene _ hforgets
  exact (play.apart.2.2 begun hbegun _ hbegins).2 l hl rfl

/-- **The pipeline knows of every loop of its own that is alive.** -/
theorem Play.accounts {c : Config} {clockStart : Int} {ids : List MessageId} {scenes : List Scene}
    {w : World} (play : Play (.initial c clockStart ids) scenes w) (kept : LoopsKept scenes) :
    w.Accounts (launches scenes) := by
  induction play with
  | nil => exact .initial c clockStart ids
  | @snoc scenes w w' happening _ step ih =>
    rw [launches_append, launches, launches, List.flatMap_singleton]
    refine (ih kept.left).happen step fun l hl => ?_
    exact kept _ (List.mem_append_right _ (List.mem_singleton_self _)) l (mem_launches_left hl _)

end Outbox.Rehearsal
