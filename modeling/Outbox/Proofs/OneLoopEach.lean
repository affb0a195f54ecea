import Outbox.Proofs.Rehearsal.Loops
/-!
# `Proofs.OneLoopEach` — one loop of each kind, and what a stop leaves behind

However a pipeline is started and stopped, while its loops come to their ends whenever they like:
at most one publisher's and one consumer's loop of it is alive. A start sets going what is not
running when it looks, a stop waits for what it was told to stop and leaves the rest alone, and what
has been stopped altogether does nothing until the next start.
-/

namespace Outbox.Rehearsal

/-! ## Calls on the pipeline -/

/-- The task that takes a turn in the scene. -/
def Scene.taker? (scene : Scene) : Option TaskId :=
  match scene.happening with
  | .turn t => some t
  | _ => none

/-- Whether in the scene a start gets the roster and looks for what is missing. -/
def Scene.opensStart (scene : Scene) (t : TaskId) : Bool :=
  match scene.happening, scene.before.stateOf t with
  | .turn task, some (.running (.starting .opening) _) => task = t
  | _, _ => false

/-- Which loops are to be stopped, if in the scene a stop gets the roster. -/
def Scene.opensStop? (scene : Scene) (t : TaskId) : Option StopChoice :=
  match scene.happening, scene.before.stateOf t with
  | .turn task, some (.running (.stopping (.opening choice) _) _) =>
    if task = t then some choice else none
  | _, _ => none

/-- The loops that a task has set going. -/
def launchesBy (t : TaskId) (scenes : List Scene) : List Launch :=
  scenes.flatMap fun scene => if scene.taker? = some t then scene.launches else []

/-- What happens from the scene `entry`, in which a task gets the roster, until `last`, which is a
turn of that task. -/
structure Call (scenes earlier call later : List Scene) (t : TaskId) (entry last : Scene) :
    Prop where
  split : scenes = earlier ++ call ++ later
  first : call.head? = some entry
  final : call.getLast? = some last
  turn : last.taker? = some t

/-- A loop of the pipeline with a number is alive. -/
def World.Runs (w : World) (launched : List Launch) (number : Option Nat) (role : Role) : Prop :=
  ∃ l ∈ launched, number = some l.pipeline ∧ l.role = role ∧ w.isLive l.loop.task = true

/-! ## What is to be shown -/

/-- At most one loop of a kind is alive. -/
def SoleLoops (launched : List Launch) (w : World) : Prop :=
  ∀ l ∈ launched, ∀ l' ∈ launched, l.pipeline = l'.pipeline → l.role = l'.role →
    w.isLive l.loop.task = true → w.isLive l'.loop.task = true → l = l'

/-- What a turn of a stop does and does not do to the loops that were set going. -/
structure StopsChosen (launched : List Launch) (entry last : Scene) (t : TaskId)
    (choice : StopChoice) : Prop where
  /-- A loop that was not chosen stays as it is, and so does its signal. -/
  spares : ∀ l ∈ launched,
    ¬ (entry.before.number = some l.pipeline ∧ choice.selects l.role = true) →
      last.after.stateOf l.loop.task = last.before.stateOf l.loop.task ∧
        last.after.signal l.loop.signal = last.before.signal l.loop.signal
  /-- When the stop comes to its end no loop that was chosen is alive. -/
  waits : last.after.isLive t = false → ∀ role, choice.selects role = true →
    ¬ last.after.Runs launched entry.before.number role

/-- What a start that has come to its end has done. `earlier` are the loops that were set going
before it got the roster. -/
structure StartsMissing (earlier : List Launch) (call : List Scene) (entry last : Scene)
    (t : TaskId) (reply : Reply) : Prop where
  /-- It finds that the pipeline runs if both loops were alive when it looked. -/
  running : reply = .startFailure .alreadyRunning ↔
    ∀ role, entry.before.Runs earlier entry.before.number role
  /-- If it is done it has set going the kinds of which no loop was alive when it looked. -/
  done : reply = .done → ∀ role, (∃ l ∈ launchesBy t call, l.role = role) ↔
    ¬ entry.before.Runs earlier entry.before.number role
  failed : reply ≠ .done → launchesBy t call = []
  /-- The loops that it has set going are those of the pipeline and are alive. -/
  alive : ∀ l ∈ launchesBy t call, entry.before.number = some l.pipeline ∧
    last.after.isLive l.loop.task = true

/-- A scene in which the pipeline with a number does nothing: no message that was there is moved,
claimed or set free, and nothing is added to the history, unless by a task that is no loop of the
pipeline and whose own errand it is. -/
def Scene.AtRest (launched : List Launch) (number : Option Nat) (scene : Scene) : Prop :=
  (∀ role, ¬ scene.before.Runs launched number role) ∧
    (Undisturbed scene.before scene.after ∨
      ∃ t state, (scene.happening = .turn t ∨ scene.happening = .hear t) ∧
        scene.before.stateOf t = some state ∧ state.writes = true ∧
        ∀ l ∈ launched, number = some l.pipeline → l.loop.task ≠ t)

namespace World

section Scenes

variable {launched : List Launch} {w w' : World} {id t : TaskId} {happening : Happening}
  {old new : TaskState}

/-! ## Who has the roster -/

/-- The pipeline is changed only by who is alone with the roster. -/
theorem Accounts.alone_or_same (h : Accounts launched w) (turned : Turned w id old new w') :
    w.Alone id ∨ w'.pipeline = w.pipeline := by
  cases turned.deed with
  | aside beside same => exact .inr same
  | builds alone => exact .inl alone
  | surveys alone => exact .inl alone
  | prepares prepares same => exact .inr same
  | launches => exact .inl (h.sole id _ turned.was rfl)
  | chooses alone => exact .inl alone
  | stops inside same => exact .inr same

/-- While somebody has the roster nobody else changes the pipeline. -/
theorem Accounts.bystander (h : Accounts launched w) (step : w.happen? happening = some w')
    (was : w.stateOf t = some old) (inside : old.isInside = true) (other : happening ≠ .turn t) :
    w'.stateOf t = some old ∧ w'.pipeline = w.pipeline := by
  have hturned {id : TaskId} (hne : id ≠ t) (turns : Turns w id w') :
      w'.pipeline = w.pipeline := by
    obtain ⟨old', new', hturned⟩ := turns
    refine (h.alone_or_same hturned).resolve_left fun alone => ?_
    exact hne (alone t old was inside).symm
  have hothers (hne : happening.mover? ≠ some t) : w'.stateOf t = some old :=
    ((passage_of_happen h.numbered step).1.others t (lt_fresh_of_stateOf h.numbered was) hne).trans
      was
  cases happening with
  | turn id =>
    have hne : id ≠ t := fun heq => other (heq ▸ rfl)
    have hturns := turns_of_turn h.numbered step
    exact ⟨hothers fun heq => hne (Option.some.inj heq), hturned hne hturns⟩
  | hear id =>
    -- a loop that hears does not have the roster
    obtain ⟨stream, wait, hstate⟩ := stateOf_of_hear step
    have hne : id ≠ t := by
      rintro rfl
      cases hstate.symm.trans was
      cases inside
    have hturns := turns_of_hear h.numbered step
    exact ⟨hothers fun heq => hne (Option.some.inj heq), hturned hne hturns⟩
  | forget id =>
    simp only [World.happen?] at step
    split at step
    · next hended =>
      have hne : id ≠ t := by
        rintro rfl
        rw [ended_of_stateOf was, Bool.not_eq_true'] at hended
        cases old with
        | ended => cases inside
        | running activity wait => cases (isLive_of_running was).symm.trans hended
      cases step
      exact ⟨hothers fun heq => hne (Option.some.inj heq), rfl⟩
    · cases step
  | begin | wait | note | takeTold =>
    cases step
    exact ⟨hothers (fun heq => by cases heq), rfl⟩

/-- After the loops that have ended were struck off, just those are on the roster that are alive. -/
theorem Accounts.surveyed (h : Accounts launched w) (alone : w.Alone id)
    (was : w.stateOf id = some old) (empty : ∀ role, old.held role = none) (role : Role) :
    ((Roster.reapAll w.ended w.roster).1.loop role).isSome = true ↔
      w.Runs launched w.number role := by
  rw [Roster.loop_reapAll]
  constructor
  · intro hsome
    obtain ⟨loop, hloop⟩ := Option.isSome_iff_exists.mp hsome
    obtain ⟨hon, hrunning⟩ := Option.filter_eq_some_iff.mp hloop
    obtain ⟨n, hn, hmem⟩ := h.listed role loop (.inl hon)
    obtain ⟨state, hstate, -⟩ := h.loops _ hmem
    refine ⟨_, hmem, hn, rfl, ?_⟩
    have hended := ended_of_stateOf hstate
    rw [Option.isNone_iff_eq_none.mp hrunning] at hended
    simpa using hended.symm
  · rintro ⟨l, hmem, hn, rfl, live⟩
    rw [h.listed_of_live alone was empty hmem live hn]
    cases hended : w.ended l.loop.task with
    | none => simp [Option.filter, hended]
    | some ending =>
      have hdead : w.isLive l.loop.task = false := not_live_of_ended (by rw [hended]; rfl)
      cases hdead.symm.trans live

end Scenes

end World

/-! ## What happens in a call -/

section Calls

variable {c : Config} {clockStart : Int} {ids : List MessageId} {earlier within : List Scene}
  {entry : Scene} {t : TaskId} {w w' : World}

theorem Scene.taker?_eq_some : entry.taker? = some t ↔ entry.happening = .turn t := by
  obtain ⟨before, happening, after⟩ := entry
  cases happening <;> simp [taker?]

theorem launchesBy_append (t : TaskId) (scenes later : List Scene) :
    launchesBy t (scenes ++ later) = launchesBy t scenes ++ launchesBy t later :=
  List.flatMap_append

theorem launchesBy_singleton (t : TaskId) (before after : World) :
    launchesBy t [⟨before, .turn t, after⟩] = Scene.launches ⟨before, .turn t, after⟩ := by
  simp [launchesBy, Scene.taker?]

theorem launchesBy_other {happening : Happening} {before after : World}
    (other : happening ≠ .turn t) : launchesBy t [⟨before, happening, after⟩] = [] := by
  have hnot : Scene.taker? ⟨before, happening, after⟩ ≠ some t :=
    fun h => other (Scene.taker?_eq_some.mp h)
  simp [launchesBy, hnot]

theorem Scene.opensStart_iff :
    entry.opensStart t = true ↔ entry.happening = .turn t ∧
      ∃ wait, entry.before.stateOf t = some (.running (.starting .opening) wait) := by
  obtain ⟨before, happening, after⟩ := entry
  unfold opensStart
  constructor
  · intro h
    split at h
    · next task wait hhappening hstate =>
      cases of_decide_eq_true h
      exact ⟨hhappening, wait, hstate⟩
    · cases h
  · rintro ⟨rfl, wait, hstate⟩
    simp only [hstate, decide_true]

theorem Scene.opensStop?_iff {choice : StopChoice} :
    entry.opensStop? t = some choice ↔ entry.happening = .turn t ∧
      ∃ shutDown wait,
        entry.before.stateOf t = some (.running (.stopping (.opening choice) shutDown) wait) := by
  obtain ⟨before, happening, after⟩ := entry
  unfold opensStop?
  constructor
  · intro h
    split at h
    · next task choice' shutDown wait hhappening hstate =>
      split at h
      · next heq =>
        subst heq
        cases h
        exact ⟨hhappening, shutDown, wait, hstate⟩
      · cases h
    · cases h
  · rintro ⟨rfl, shutDown, wait, hstate⟩
    simp only [hstate, if_true]

/-! ## Whoever has the roster -/

/-- The scene `entry` is a turn of a task. -/
theorem turned_of_play (first : Play (.initial c clockStart ids) (earlier ++ [entry]) w)
    (mine : entry.happening = .turn t) (kept : LoopsKept earlier) :
    entry.after = w ∧ entry.before.Accounts (launches earlier) ∧
      ∃ old new, entry.before.Turned t old new entry.after := by
  obtain ⟨before, step, hafter⟩ := first.last
  rw [mine] at step
  have haccounts := before.accounts kept
  exact ⟨hafter, haccounts, World.turns_of_turn haccounts.numbered step⟩

/-- What is known of the loops some time after the scene `entry`. -/
theorem accounts_within (first : Play (.initial c clockStart ids) (earlier ++ [entry]) w)
    (rest : Play w within w') (kept : LoopsKept (earlier ++ entry :: within)) :
    w'.Accounts (launches (earlier ++ entry :: within)) := by
  have hplay := first.append rest
  rw [List.append_assoc] at hplay
  exact hplay.accounts kept

/-- Who got the roster in the scene `entry` has it until its end. What holds after that scene and is
kept by its turns and while it stands by holds as long as it is alive. -/
theorem visit_induction {P : List Scene → World → Prop}
    (first : Play (.initial c clockStart ids) (earlier ++ [entry]) w)
    (mine : entry.happening = .turn t) (rest : Play w within w')
    (kept : LoopsKept (earlier ++ entry :: within)) (live : w'.isLive t = true)
    (entered : ∀ old new, entry.before.Accounts (launches earlier) →
      entry.before.Turned t old new entry.after → entry.after.isLive t = true →
      P [entry] entry.after)
    (inside : ∀ call w₁, P call w₁ → ∃ state, w₁.stateOf t = some state ∧ state.isInside = true)
    (turned : ∀ call w₁ w₂ old new, P call w₁ → w₁.Turned t old new w₂ → w₂.isLive t = true →
      P (call ++ [⟨w₁, .turn t, w₂⟩]) w₂)
    (stoodBy : ∀ call w₁ w₂ happening, P call w₁ → happening ≠ .turn t →
      w₂.stateOf t = w₁.stateOf t → w₂.pipeline = w₁.pipeline →
      P (call ++ [⟨w₁, happening, w₂⟩]) w₂) :
    P (entry :: within) w' := by
  obtain ⟨rfl, hearlier, old, new, hturned⟩ := turned_of_play first mine kept.left
  have hnumbered := hturned.passage.numbered
  have hthere := World.lt_fresh_of_stateOf hnumbered hturned.now
  induction rest with
  | nil => exact entered old new hearlier hturned live
  | @snoc within w₁ w₂ happening play step ih =>
    have hsplit : earlier ++ entry :: (within ++ [⟨w₁, happening, w₂⟩]) =
        earlier ++ entry :: within ++ [⟨w₁, happening, w₂⟩] := by
      rw [List.append_assoc, List.cons_append]
    rw [hsplit] at kept
    have haccounts := accounts_within first play kept.left
    obtain ⟨hstill, -⟩ := (play.since hnumbered).2 t hthere
    obtain ⟨hpassage, hmover⟩ := World.passage_of_happen haccounts.numbered step
    have hP := ih kept.left (hpassage.wasLive hmover hstill live)
    show P (entry :: within ++ [⟨w₁, happening, w₂⟩]) w₂
    by_cases hmine : happening = .turn t
    · subst hmine
      obtain ⟨old₁, new₁, hturned₁⟩ := World.turns_of_turn haccounts.numbered step
      exact turned _ w₁ w₂ old₁ new₁ hP hturned₁ live
    · obtain ⟨state, hstate, hinside⟩ := inside _ w₁ hP
      obtain ⟨hsame, hpipeline⟩ := haccounts.bystander step hstate hinside hmine
      exact stoodBy _ w₁ w₂ happening hP hmine (hsame.trans hstate.symm) hpipeline

/-! ## Starts -/

/-- A start is on its way that looked for what is missing in the scene `entry`. -/
structure Scene.StartsOn (earlier : List Launch) (call : List Scene) (entry : Scene) (t : TaskId)
    (w : World) : Prop where
  state : ∃ s wait, w.stateOf t = some (.running (.starting s) wait) ∧ s.isInside = true
  number : w.number = entry.before.number
  roster : ∀ role, (w.roster.loop role).isSome = true ↔
    entry.before.Runs earlier entry.before.number role
  missing : ∃ role, w.roster.loop role = none
  idle : launchesBy t call = []

/-- A start that only makes sure of the broker sets nothing going. -/
theorem launches_of_preparing {s : Starting} {wait : Wait}
    (was : w.stateOf t = some (.running (.starting s) wait))
    (prepares : s = .probing ∨ s = .subscribing) : Scene.launches ⟨w, .turn t, w'⟩ = [] := by
  refine World.launches_eq_nil fun t' publisher consumer wait' ht hstate => ?_
  cases ht
  cases was.symm.trans hstate
  rcases prepares with h | h <;> cases h

/-- A start that has the roster goes on to make sure of the broker, fails, or sets going what is
missing. -/
theorem startsOn_of_play (first : Play (.initial c clockStart ids) (earlier ++ [entry]) w)
    (opens : entry.opensStart t = true) (rest : Play w within w')
    (kept : LoopsKept (earlier ++ entry :: within)) (live : w'.isLive t = true) :
    Scene.StartsOn (launches earlier) (entry :: within) entry t w' := by
  obtain ⟨hmine, wait, hstate⟩ := Scene.opensStart_iff.mp opens
  refine visit_induction (P := fun call w => Scene.StartsOn (launches earlier) call entry t w)
    first hmine rest kept live (fun old new haccounts hturned live => ?_)
    (fun call w₁ h => ?_) (fun call w₁ w₂ old new h hturned live => ?_)
    fun call w₁ w₂ happening h hother hsame hpipeline => ?_
  · cases hturned.was.symm.trans hstate
    obtain ⟨halone, hnumber, hroster, houtcome⟩ := hturned.opens rfl
    have hnow := hturned.now
    cases houtcome with
    | complete all => cases (World.isLive_of_ended hnow).symm.trans live
    | @incomplete s wait' missing inside fits =>
      refine ⟨⟨s, wait', hnow, inside⟩, hnumber, fun role => ?_, missing, ?_⟩
      · rw [hroster]
        exact haccounts.surveyed halone hstate (fun _ => rfl) role
      · simp [launchesBy, hmine, Scene.launches, hstate]
  · obtain ⟨s, wait', hnow, hinside⟩ := h.state
    exact ⟨_, hnow, hinside⟩
  · obtain ⟨s, wait', hnow, hinside⟩ := h.state
    cases hturned.was.symm.trans hnow
    rcases hturned.starts rfl hinside with
      ⟨hprepares, hpipeline, ⟨s', wait'', rfl, hinside'⟩ | ⟨reply, n, rfl, -⟩⟩ |
        ⟨_, _, n, -, rfl, -⟩
    · refine ⟨⟨s', wait'', hturned.now, hinside'⟩,
        (World.number_of_pipeline hpipeline).trans h.number, fun role => ?_, ?_, ?_⟩
      · rw [World.roster_of_pipeline hpipeline]
        exact h.roster role
      · rw [World.roster_of_pipeline hpipeline]
        exact h.missing
      · rw [launchesBy_append, launchesBy_singleton, launches_of_preparing hnow hprepares, h.idle]
        rfl
    · cases (World.isLive_of_ended hturned.now).symm.trans live
    · cases (World.isLive_of_ended hturned.now).symm.trans live
  · obtain ⟨s, wait', hnow, hinside⟩ := h.state
    refine ⟨⟨s, wait', hsame.trans hnow, hinside⟩,
      (World.number_of_pipeline hpipeline).trans h.number, fun role => ?_, ?_, ?_⟩
    · rw [World.roster_of_pipeline hpipeline]
      exact h.roster role
    · rw [World.roster_of_pipeline hpipeline]
      exact h.missing
    · rw [launchesBy_append, launchesBy_other hother, h.idle]
      rfl

/-- A start that finds both loops running says so at once. -/
theorem answers_of_running (first : Play (.initial c clockStart ids) (earlier ++ [entry]) w)
    (opens : entry.opensStart t = true) (kept : LoopsKept earlier)
    (running : ∀ role, entry.before.Runs (launches earlier) entry.before.number role) :
    ∃ n, entry.after.stateOf t = some (.ended (.startFailure .alreadyRunning) n) := by
  obtain ⟨hmine, wait, hstate⟩ := Scene.opensStart_iff.mp opens
  obtain ⟨rfl, haccounts, old, new, hturned⟩ := turned_of_play first hmine kept
  cases hturned.was.symm.trans hstate
  obtain ⟨halone, -, hroster, houtcome⟩ := hturned.opens rfl
  have hnow := hturned.now
  cases houtcome with
  | complete all => exact ⟨_, hnow⟩
  | incomplete missing inside fits =>
    obtain ⟨role, hmissing⟩ := missing
    have hsome := (haccounts.surveyed halone hstate (fun _ => rfl) role).mpr (running role)
    rw [← hroster, hmissing] at hsome
    cases hsome

/-- A start that gets the roster and ends at once has found that nothing is missing. -/
theorem startsMissing_at_once {reply : Reply} {n : Nat}
    (first : Play (.initial c clockStart ids) (earlier ++ [entry]) w)
    (opens : entry.opensStart t = true) (kept : LoopsKept earlier)
    (ended : entry.after.stateOf t = some (.ended reply n)) :
    StartsMissing (launches earlier) [entry] entry entry t reply := by
  obtain ⟨hmine, wait, hstate⟩ := Scene.opensStart_iff.mp opens
  obtain ⟨rfl, haccounts, old, new, hturned⟩ := turned_of_play first hmine kept
  cases hturned.was.symm.trans hstate
  cases hturned.now.symm.trans ended
  obtain ⟨halone, hnumber, hroster, houtcome⟩ := hturned.opens rfl
  have hnone : launchesBy t [entry] = [] := by
    simp [launchesBy, hmine, Scene.launches, hstate]
  cases houtcome with
  | complete all =>
    refine ⟨iff_of_true rfl fun role => ?_, fun done => ?_, fun _ => hnone, fun l hl => ?_⟩
    · have hsome := all role
      rw [hroster] at hsome
      exact (haccounts.surveyed halone hstate (fun _ => rfl) role).mp hsome
    · cases done
    · rw [hnone] at hl
      cases hl

/-- A start that has the roster comes to its end. -/
theorem startsMissing_of_play {reply : Reply} {n : Nat} {last : Scene}
    (first : Play (.initial c clockStart ids) (earlier ++ [entry]) w)
    (opens : entry.opensStart t = true) (rest : Play w within last.before)
    (kept : LoopsKept (earlier ++ entry :: within)) (turn : last.taker? = some t)
    (step : last.before.turn? t = some last.after)
    (ended : last.after.stateOf t = some (.ended reply n)) :
    StartsMissing (launches earlier) (entry :: within ++ [last]) entry last t reply := by
  obtain ⟨w', happening, w''⟩ := last
  cases Scene.taker?_eq_some.mp turn
  have haccounts := accounts_within first rest kept
  obtain ⟨old, new, hturned⟩ := World.turns_of_turn haccounts.numbered step
  have hon := startsOn_of_play first opens rest kept hturned.live
  obtain ⟨s, wait, hnow, hinside⟩ := hon.state
  cases hturned.was.symm.trans hnow
  cases hturned.now.symm.trans ended
  obtain ⟨role, hmissing⟩ := hon.missing
  have hnotAll : ¬ ∀ role, entry.before.Runs (launches earlier) entry.before.number role := by
    intro hall
    have hsome := (hon.roster role).mpr (hall role)
    rw [hmissing] at hsome
    cases hsome
  have hby : launchesBy t (entry :: within ++ [⟨w', .turn t, w''⟩]) =
      Scene.launches ⟨w', .turn t, w''⟩ := by
    rw [launchesBy_append, launchesBy_singleton, hon.idle, List.nil_append]
  rcases hturned.starts rfl hinside with
    ⟨hprepares, -, ⟨_, _, hnew, -⟩ | ⟨reply', n', hnew, hfailed, hother⟩⟩ |
      ⟨publisher, consumer, n', rfl, hnew, hloops⟩
  · cases hnew
  · cases hnew
    rw [launches_of_preparing hnow hprepares] at hby
    refine ⟨iff_of_false hother hnotAll, fun h => absurd h hfailed, fun _ => hby, fun l hl => ?_⟩
    rw [hby] at hl
    cases hl
  · cases hnew
    rw [World.launches_of_launching hnow] at hby
    have hbuilt : w'.pipeline.isSome = true :=
      w'.isSome_number ▸ haccounts.built t _ hnow rfl
    have hlaunched := World.isSome_launched hbuilt (haccounts.fits t _ wait hnow)
    refine ⟨iff_of_false nofun hnotAll, fun _ role => ?_, fun h => absurd rfl h, fun l hl => ?_⟩
    · rw [hby, ← hon.roster role, Bool.not_eq_true, Option.isSome_eq_false_iff, ← hlaunched role]
      constructor
      · rintro ⟨l, hl, rfl⟩
        rw [(World.mem_launchesOf.mp hl).2]
        rfl
      · intro hsome
        obtain ⟨loop, hloop⟩ := Option.isSome_iff_exists.mp hsome
        obtain ⟨k, hk⟩ := Option.isSome_iff_exists.mp (haccounts.built t _ hnow rfl)
        exact ⟨⟨k, role, loop⟩, World.mem_launchesOf.mpr ⟨hk, hloop⟩, rfl⟩
    · rw [hby] at hl
      obtain ⟨hnumber, hloop⟩ := World.mem_launchesOf.mp hl
      exact ⟨hon.number.symm.trans hnumber, (hloops.arrived l.role l.loop hloop).live⟩

/-! ## Stops -/

/-- A stop is on its way that took the chosen loops off the roster in the scene `entry`. -/
structure Scene.StopsOn (choice : StopChoice) (entry : Scene) (t : TaskId) (w : World) : Prop where
  state : ∃ s shutDown wait, w.stateOf t = some (.running (.stopping s shutDown) wait) ∧
    s.isInside = true ∧ ∀ role loop, s.held role = some loop → choice.selects role = true
  number : w.number = entry.before.number
  off : ∀ role, choice.selects role = true → w.roster.loop role = none

/-- A stop that has the roster waits for the ends of loops that were chosen, and no other loop of
those kinds is on the roster meanwhile. -/
theorem stopsOn_of_play {choice : StopChoice}
    (first : Play (.initial c clockStart ids) (earlier ++ [entry]) w)
    (opens : entry.opensStop? t = some choice) (rest : Play w within w')
    (kept : LoopsKept (earlier ++ entry :: within)) (live : w'.isLive t = true) :
    Scene.StopsOn choice entry t w' := by
  obtain ⟨hmine, shutDown, wait, hstate⟩ := Scene.opensStop?_iff.mp opens
  refine visit_induction (P := fun _ w => Scene.StopsOn choice entry t w)
    first hmine rest kept live (fun old new _ hturned _ => ?_)
    (fun _ w₁ h => ?_) (fun _ w₁ w₂ old new h hturned live => ?_)
    fun _ w₁ w₂ happening h _ hsame hpipeline => ?_
  · cases hturned.was.symm.trans hstate
    obtain ⟨hnumber, hroster, -, wait', rfl⟩ := hturned.chooses rfl
    refine ⟨⟨_, shutDown, wait', hturned.now, rfl, fun role loop hheld => ?_⟩, hnumber,
      fun role hselects => ?_⟩
    · have hchosen : (choice.chosen entry.before.roster).loop role = some loop := hheld
      rw [choice.loop_chosen] at hchosen
      split at hchosen
      · next hselects => exact hselects
      · cases hchosen
    · rw [hroster, choice.loop_spared, if_pos hselects]
  · obtain ⟨s, shutDown, wait', hnow, hinside, -⟩ := h.state
    exact ⟨_, hnow, hinside⟩
  · obtain ⟨s, shutDown, wait', hnow, hinside, hchosen⟩ := h.state
    cases hturned.was.symm.trans hnow
    obtain ⟨hpipeline, -, hkept, -, ⟨s', wait'', rfl, hinside'⟩ | ⟨n, rfl⟩⟩ :=
      hturned.stops rfl hinside
    · refine ⟨⟨s', shutDown, wait'', hturned.now, hinside', fun role loop hheld => ?_⟩,
        (World.number_of_pipeline hpipeline).trans h.number, fun role hselects => ?_⟩
      · exact hchosen role loop (hkept role loop hheld)
      · rw [World.roster_of_pipeline hpipeline]
        exact h.off role hselects
    · cases (World.isLive_of_ended hturned.now).symm.trans live
  · obtain ⟨s, shutDown, wait', hnow, hinside, hchosen⟩ := h.state
    refine ⟨⟨s, shutDown, wait', hsame.trans hnow, hinside, hchosen⟩,
      (World.number_of_pipeline hpipeline).trans h.number, fun role hselects => ?_⟩
    rw [World.roster_of_pipeline hpipeline]
    exact h.off role hselects

/-- When a stop gets the roster nothing happens to any loop. -/
theorem stopsChosen_at_once {choice : StopChoice}
    (first : Play (.initial c clockStart ids) (earlier ++ [entry]) w)
    (opens : entry.opensStop? t = some choice) (kept : LoopsKept earlier) :
    StopsChosen (launches earlier) entry entry t choice := by
  obtain ⟨hmine, shutDown, wait, hstate⟩ := Scene.opensStop?_iff.mp opens
  obtain ⟨rfl, haccounts, old, new, hturned⟩ := turned_of_play first hmine kept
  cases hturned.was.symm.trans hstate
  obtain ⟨-, -, hsignals, wait', rfl⟩ := hturned.chooses rfl
  refine ⟨fun l hl _ => ⟨haccounts.older_loops hturned rfl hl, ?_⟩, fun hended => ?_⟩
  · exact congrArg (fun signals => signals.getD l.loop.signal Signal.fresh) hsignals
  · cases (World.isLive_of_running hturned.now).symm.trans hended

/-- A stop that has the roster takes a turn. -/
theorem stopsChosen_of_play {choice : StopChoice} {last : Scene}
    (first : Play (.initial c clockStart ids) (earlier ++ [entry]) w)
    (opens : entry.opensStop? t = some choice) (rest : Play w within last.before)
    (kept : LoopsKept (earlier ++ entry :: within)) (turn : last.taker? = some t)
    (step : last.before.turn? t = some last.after) :
    StopsChosen (launches (earlier ++ (entry :: within ++ [last]))) entry last t choice := by
  obtain ⟨w', happening, w''⟩ := last
  cases Scene.taker?_eq_some.mp turn
  have haccounts := accounts_within first rest kept
  obtain ⟨old, new, hturned⟩ := World.turns_of_turn haccounts.numbered step
  have hon := stopsOn_of_play first opens rest kept hturned.live
  obtain ⟨s, shutDown, wait, hnow, hinside, hchosen⟩ := hon.state
  cases hturned.was.symm.trans hnow
  obtain ⟨-, hspared, -, hdropped, hnext⟩ := hturned.stops rfl hinside
  have hnone : launches [⟨w', .turn t, w''⟩] = [] := by
    simp [launches, Scene.launches, hnow]
  rw [← List.append_assoc, launches_append, hnone, List.append_nil]
  refine ⟨fun l hl hother => ⟨haccounts.older_loops hturned rfl hl, ?_⟩,
    fun hended role hselects => ?_⟩
  · -- the signals that are set are those of loops that were set going and chosen
    refine hspared l.loop.signal fun role loop hheld hsignal => hother ?_
    obtain ⟨n, hn, hmem⟩ := haccounts.listed role loop (.inr ⟨t, _, hnow, hheld⟩)
    cases haccounts.distinct _ hmem l hl hsignal
    exact ⟨hon.number.symm.trans hn, hchosen role loop hheld⟩
  · rintro ⟨l, hl, hnumber, rfl, hlive⟩
    have hwas : w'.isLive l.loop.task = true := by
      rw [← World.isLive_congr (haccounts.older_loops hturned rfl hl)]
      exact hlive
    have hkeeps := haccounts.accounted l hl hwas (hon.number.trans hnumber)
    have halone := haccounts.sole t _ hnow hinside
    have hheld := ((World.keeps_of_alone halone hnow).mp hkeeps).resolve_left fun hlisted => by
      cases (hon.off l.role hselects).symm.trans hlisted
    rcases hnext with ⟨s', wait', rfl, -⟩ | ⟨n, rfl⟩
    · cases (World.isLive_of_running hturned.now).symm.trans hended
    · rcases hdropped l.role l.loop hheld with hstill | hdone
      · cases hstill
      · cases (World.not_live_of_ended hdone).symm.trans hwas

/-! ## Rest -/

/-- What happens disturbs no message, unless it is the turn of a task whose errand that may be. -/
theorem undisturbed_of_happen {happening : Happening}
    (numbered : ∀ t, w.fresh ≤ t → w.stateOf t = none) (step : w.happen? happening = some w') :
    Undisturbed w w' ∨ ∃ t state, (happening = .turn t ∨ happening = .hear t) ∧
      w.stateOf t = some state ∧ state.writes = true ∧ w.isLive t = true := by
  have hturns {id : TaskId} (turns : w.Turns id w') :
      Undisturbed w w' ∨ ∃ state, w.stateOf id = some state ∧ state.writes = true ∧
        w.isLive id = true := by
    obtain ⟨old, new, hturned⟩ := turns
    cases hwrites : old.writes with
    | false => exact .inl (hturned.undisturbed hwrites)
    | true => exact .inr ⟨old, hturned.was, hwrites, hturned.live⟩
  cases happening with
  | turn id =>
    exact (hturns (World.turns_of_turn numbered step)).imp_right
      fun ⟨state, h⟩ => ⟨id, state, .inl rfl, h⟩
  | hear id =>
    exact (hturns (World.turns_of_hear numbered step)).imp_right
      fun ⟨state, h⟩ => ⟨id, state, .inr rfl, h⟩
  | forget id =>
    simp only [World.happen?] at step
    split at step
    · cases step
      exact .inl (.of_eq rfl rfl)
    · cases step
  | begin | wait | note | takeTold =>
    cases step
    exact .inl (.of_eq rfl rfl)

/-- Where no loop of a pipeline is alive, and none is set going, the pipeline is at rest. -/
theorem atRest_of_play {number : Option Nat} {later : List Scene}
    (first : Play (.initial c clockStart ids) earlier w) (kept : LoopsKept earlier)
    (rest : Play w later w') (dead : ∀ role, ¬ w.Runs (launches earlier) number role)
    (unstarted : ∀ l ∈ launches later, number ≠ some l.pipeline) :
    ∀ scene ∈ later, scene.AtRest (launches (earlier ++ later)) number := by
  have haccounts := first.accounts kept
  intro scene hscene
  obtain ⟨before, after, rfl⟩ := List.append_of_mem hscene
  have hsplit : before ++ scene :: after = before ++ [scene] ++ after := by
    rw [List.append_assoc, List.singleton_append]
  rw [hsplit] at rest
  obtain ⟨w₂, hmiddle, -⟩ := rest.split
  obtain ⟨hbefore, step, -⟩ := hmiddle.last
  obtain ⟨hnumbered, hsince⟩ := hbefore.since haccounts.numbered
  -- the loops that are dead stay dead
  have hdead (l : Launch) (hl : l ∈ launches (earlier ++ (before ++ scene :: after)))
      (hnumber : number = some l.pipeline) : scene.before.isLive l.loop.task ≠ true := by
    intro hlive
    rw [launches_append] at hl
    rcases List.mem_append.mp hl with hl | hl
    · exact dead l.role ⟨l, hl, hnumber, rfl, (hsince _ (haccounts.there hl)).2 hlive⟩
    · exact unstarted l hl hnumber
  refine ⟨fun role ⟨l, hl, hnumber, _, hlive⟩ => hdead l hl hnumber hlive, ?_⟩
  refine (undisturbed_of_happen hnumbered step).imp_right ?_
  rintro ⟨t, state, hhappening, hstate, hwrites, hlive⟩
  refine ⟨t, state, hhappening, hstate, hwrites, fun l hl hnumber htask => ?_⟩
  exact hdead l hl hnumber (htask ▸ hlive)

/-! ## Plays in parts -/

theorem launches_of_stop {choice : StopChoice} (opens : entry.opensStop? t = some choice) :
    launches [entry] = [] := by
  obtain ⟨hmine, shutDown, wait, hstate⟩ := Scene.opensStop?_iff.mp opens
  simp [launches, Scene.launches, hmine, hstate]

theorem Call.cases {scenes call later : List Scene} {last : Scene}
    (h : Call scenes earlier call later t entry last) :
    (call = [entry] ∧ last = entry) ∨ ∃ within, call = entry :: within ++ [last] := by
  obtain ⟨tail, rfl⟩ := List.head?_eq_some_iff.mp h.first
  rcases List.eq_nil_or_concat tail with rfl | ⟨within, scene, rfl⟩
  · exact .inl ⟨rfl, (Option.some.inj h.final).symm⟩
  · refine .inr ⟨within, ?_⟩
    have hfinal := h.final
    rw [List.concat_eq_append, ← List.cons_append, List.getLast?_concat] at hfinal
    cases hfinal
    rw [List.concat_eq_append, List.cons_append]

/-- The parts of a play up to a later turn of a call. -/
theorem parts_of_play {last : Scene} (turn : last.taker? = some t)
    (play : Play (.initial c clockStart ids) (earlier ++ (entry :: within ++ [last])) w') :
    ∃ w, Play (.initial c clockStart ids) (earlier ++ [entry]) w ∧ Play w within last.before ∧
      last.before.turn? t = some last.after ∧ last.after = w' := by
  rw [← List.append_assoc] at play
  obtain ⟨hbefore, step, hafter⟩ := play.last
  have hsplit : earlier ++ entry :: within = earlier ++ [entry] ++ within := by
    rw [List.append_assoc, List.singleton_append]
  rw [hsplit] at hbefore
  obtain ⟨w, first, rest⟩ := hbefore.split
  rw [Scene.taker?_eq_some.mp turn] at step
  exact ⟨w, first, rest, step, hafter⟩

/-- What a stop does to the loops, as far as it has come. -/
theorem stopsChosen_of_call {call : List Scene} {last : Scene} {choice : StopChoice}
    {scenes later : List Scene} (stop : Call scenes earlier call later t entry last)
    (play : Play (.initial c clockStart ids) (earlier ++ call) w')
    (kept : LoopsKept (earlier ++ call)) (opens : entry.opensStop? t = some choice) :
    StopsChosen (launches (earlier ++ call)) entry last t choice ∧ last.after = w' := by
  have hnone := launches_of_stop opens
  rcases stop.cases with ⟨rfl, rfl⟩ | ⟨within, rfl⟩
  · obtain ⟨-, -, hafter⟩ := play.last
    rw [launches_append, hnone, List.append_nil]
    exact ⟨stopsChosen_at_once play opens kept.left, hafter⟩
  · obtain ⟨w, first, rest, step, hafter⟩ := parts_of_play stop.turn play
    rw [← List.append_assoc] at kept
    exact ⟨stopsChosen_of_play first opens rest kept.left stop.turn step, hafter⟩

end Calls

/-- **One loop of each kind.** Whatever actions are taken, and at whatever moments the loops go on
or come to their ends by themselves, because a subscription has ended or a call has crashed:

* at most one publisher's and one consumer's loop of a pipeline is alive;
* a stop changes no loop that was not chosen and no signal of one, and when it comes to its end no
  loop that was chosen is alive;
* a start that finds both loops alive says at once that the pipeline runs, and no other start says
  so; a start that is done has set going just the kinds of which it found no loop alive, and one
  that failed has set nothing going;
* after a stop of both loops, or a shutdown, the pipeline does nothing until a loop of it is set
  going again.

All that is taken out are the replies of actions: the end of a loop is for the pipeline to see. -/
theorem one_loop_each {c : Config} {clockStart : Int} {ids : List MessageId} {scenes : List Scene}
    {w : World} (play : Play (.initial c clockStart ids) scenes w) (taken : RepliesTaken scenes) :
    SoleLoops (launches scenes) w ∧
    ∀ earlier call later t entry last, Call scenes earlier call later t entry last →
      (∀ choice, entry.opensStop? t = some choice →
        StopsChosen (launches (earlier ++ call)) entry last t choice) ∧
      (entry.opensStart t = true →
        ((∀ role, entry.before.Runs (launches earlier) entry.before.number role) →
          ∃ n, entry.after.stateOf t = some (.ended (.startFailure .alreadyRunning) n)) ∧
        ∀ reply n, last.after.stateOf t = some (.ended reply n) →
          StartsMissing (launches earlier) call entry last t reply) ∧
      (entry.opensStop? t = some .both → last.after.isLive t = false →
        (∀ l ∈ launches later, entry.before.number ≠ some l.pipeline) →
        ∀ scene ∈ later, scene.AtRest (launches scenes) entry.before.number) := by
  have kept := play.loopsKept taken
  refine ⟨(play.accounts kept).single, fun earlier call later t entry last hcall => ?_⟩
  have hsplit := hcall.split
  subst hsplit
  obtain ⟨w₁, hcalled, hlater⟩ := play.split
  have hkept : LoopsKept (earlier ++ call) := kept.left
  refine ⟨fun choice opens => (stopsChosen_of_call hcall hcalled hkept opens).1, fun opens => ?_,
    fun opens ended unstarted => ?_⟩
  · rcases hcall.cases with ⟨rfl, rfl⟩ | ⟨within, rfl⟩
    · exact ⟨answers_of_running hcalled opens hkept.left,
        fun reply n ended => startsMissing_at_once hcalled opens hkept.left ended⟩
    · obtain ⟨w₀, first, rest, step, -⟩ := parts_of_play hcall.turn hcalled
      refine ⟨answers_of_running first opens hkept.left, fun reply n ended => ?_⟩
      rw [← List.append_assoc] at hkept
      exact startsMissing_of_play first opens rest hkept.left hcall.turn step ended
  · obtain ⟨hstops, rfl⟩ := stopsChosen_of_call hcall hcalled hkept opens
    have hdead (role : Role) := hstops.waits ended role (by cases role <;> rfl)
    exact atRest_of_play hcalled hkept hlater hdead unstarted

/-- The publisher's loop crashes and a start replaces it; after that the pipeline is shut down, a
message comes in and time passes. -/
def crashedHappenings : List Happening :=
  [.begin (.script .fetch [⟨0, true, none⟩]), .turn 0, .begin (.build []), .turn 1, .turn 1,
    .begin .start, .turn 4, .turn 4, .turn 4, .turn 4, .turn 4, .forget 4,
    .turn 10, .turn 10, .turn 10,
    .begin .start, .turn 15, .turn 15, .turn 15, .turn 15,
    .begin .shutDown, .turn 21,
    .turn 21, .turn 21, .turn 20, .turn 20, .turn 12, .turn 21, .turn 21,
    .begin (.insertMany 1), .turn 27, .wait 1000]

theorem one_loop_each_crashedHappenings : ∃ scenes w entry last,
    Play (.initial .default 0 []) scenes w ∧ RepliesTaken scenes ∧
    (launches scenes).map Launch.role = [.publisher, .consumer, .publisher] ∧
    SoleLoops (launches scenes) w ∧
    Call scenes (scenes.take 22) ((scenes.drop 22).take 7) (scenes.drop 29) 21 entry last ∧
    StopsChosen (launches (scenes.take 22 ++ (scenes.drop 22).take 7)) entry last 21 .both ∧
    last.after.isLive 21 = false ∧ (scenes.drop 29).length = 3 ∧
    ∀ scene ∈ scenes.drop 29, scene.AtRest (launches scenes) entry.before.number := by
  obtain ⟨scenes, w, play, taken, hroles, hentry, hlast, hnone, hlength⟩ :=
    exists_play crashedHappenings (w := .initial .default 0 []) (P := fun scenes w =>
      RepliesTaken scenes ∧
        (launches scenes).map Launch.role = [.publisher, .consumer, .publisher] ∧
        ((scenes.drop 22).take 7).head?.any (fun scene => scene.opensStop? 21 = some .both) = true ∧
        ((scenes.drop 22).take 7).getLast?.any (fun scene =>
          scene.taker? = some 21 ∧ scene.after.isLive 21 = false) = true ∧
        launches (scenes.drop 29) = [] ∧ (scenes.drop 29).length = 3)
      (by decide +kernel)
  obtain ⟨entry, hfirst, hopens⟩ := (Option.any_eq_true _ _).mp hentry
  obtain ⟨last, hfinal, hdone⟩ := (Option.any_eq_true _ _).mp hlast
  replace hopens := of_decide_eq_true hopens
  have hturn := of_decide_eq_true hdone
  have hcall : Call scenes (scenes.take 22) ((scenes.drop 22).take 7) (scenes.drop 29) 21
      entry last := by
    refine ⟨?_, hfirst, hfinal, hturn.1⟩
    have hrest := List.take_append_drop 7 (scenes.drop 22)
    rw [List.drop_drop] at hrest
    rw [List.append_assoc, hrest, List.take_append_drop]
  obtain ⟨hsole, hcalls⟩ := one_loop_each play taken
  obtain ⟨hstops, -, hrests⟩ := hcalls _ _ _ _ _ _ hcall
  refine ⟨scenes, w, entry, last, play, taken, hroles, hsole, hcall, hstops .both hopens, hturn.2,
    hlength, hrests hopens hturn.2 fun l hl => ?_⟩
  rw [hnone] at hl
  cases hl

end Outbox.Rehearsal
