import Outbox.Proofs.Rehearsal.Holding
/-!
# `Proofs.ForsakenReceipts` — what becomes of the receipts when a consumer is stopped

A receipt that was delivered is taken by a consumer's loop, which begins to handle it; or it is not
read yet, and waits in the backlog of its queue or in the buffer of a subscription; or it is
*forsaken*: it was in the buffer of a subscription that is gone. While receipts are read by the loops
of pipelines only, every subscription is held by such a loop or by a start that is about to set one
going. So receipts are forsaken when a loop comes to its end and at no other time, and then all that
its subscription still has to offer. A loop comes to its end when it is told to stop, or crashes.
-/

namespace Outbox.Rehearsal

open World

/-! ## Accounts -/

/-- The subscription of a consumer's loop that came to its end when it went on. -/
def TaskState.left? : (old new : TaskState) → Option StreamId
  | .running (.consuming s) _, .ended .. => some s.stream
  | _, _ => none

/-- The receipt that a task delivers on a queue when it takes its turn in a state. -/
def World.delivers (w : World) (queue : String) (old : TaskState) : List Receipt :=
  match old.delivery? with
  | some (r, named) => if named.getD w.config.receiptQueue = queue then [r] else []
  | none => []

/-- The receipt from a queue that a consumer's loop begins to handle when it goes on. -/
def World.takes (w : World) (queue : String) (old new : TaskState) : List Receipt :=
  match old.heard? new with
  | some (stream, r) => if w.broker.queueOf? stream = some queue then [r] else []
  | none => []

namespace Scene

/-- The task whose turn it is, and how far it is before and after its turn. -/
def turn? (scene : Scene) : Option (TaskId × TaskState × TaskState) :=
  match scene.happening with
  | .turn t | .hear t =>
    match scene.before.stateOf t, scene.after.stateOf t with
    | some old, some new => some (t, old, new)
    | _, _ => none
  | _ => none

/-- The receipts that are delivered on a queue. -/
def delivered (queue : String) (scene : Scene) : List Receipt :=
  match scene.turn? with
  | some (_, old, _) => scene.before.delivers queue old
  | none => []

/-- The receipts from a queue that a consumer's loop begins to handle. -/
def taken (queue : String) (scene : Scene) : List Receipt :=
  match scene.turn? with
  | some (_, old, new) => scene.before.takes queue old new
  | none => []

/-- The receipts of a queue that were in the buffers of subscriptions that are gone then. -/
def forsaken (queue : String) (scene : Scene) : List Receipt :=
  scene.before.broker.forsaken scene.after.broker queue

/-- The receipts of a queue that are in the buffer of a consumer's loop that comes to its end. -/
def leftBehind (queue : String) (scene : Scene) : List Receipt :=
  match scene.turn? with
  | some (_, old, new) =>
    match old.left? new with
    | some stream => scene.before.broker.buffered queue stream
    | none => []
  | none => []

/-- A consumer's loop comes to its end only if it is told to stop, or crashes. -/
def StopsDuly (scene : Scene) : Prop :=
  ∀ t old new, scene.turn? = some (t, old, new) → (old.left? new).isSome = true →
    scene.before.IsToldToStop t ∨ ∃ moment, new = .ended .crashed moment

end Scene

/-- The receipts that were delivered on a queue. -/
def deliveredTo (queue : String) (scenes : List Scene) : List Receipt :=
  scenes.flatMap (Scene.delivered queue)

/-- The receipts from a queue that the loops of consumers have begun to handle. -/
def takenFrom (queue : String) (scenes : List Scene) : List Receipt :=
  scenes.flatMap (Scene.taken queue)

/-- The receipts of a queue that were in the buffers of subscriptions that are gone. -/
def forsakenOn (queue : String) (scenes : List Scene) : List Receipt :=
  scenes.flatMap (Scene.forsaken queue)

/-! ## One turn -/

section Turn

variable {w w' w₁ : World} {id : TaskId} {old new : TaskState} {queue : String} {stream : StreamId}

/-- No loop comes to its end: what is taken was not read yet, and what is delivered is not read
yet. -/
structure Keeps (w w' : World) (queue : String) (old new : TaskState) : Prop where
  forsaken : w.broker.forsaken w'.broker queue = []
  count : ∀ x, (w'.broker.unread queue).count x + (w.takes queue old new).count x =
    (w.broker.unread queue).count x + (w.delivers queue old).count x

/-- A loop comes to its end, and all that its subscription has to offer is forsaken. -/
structure Forsakes (w w' : World) (queue : String) (stream : StreamId) : Prop where
  forsaken : w.broker.forsaken w'.broker queue = w.broker.buffered queue stream
  count : ∀ x, (w'.broker.unread queue).count x + (w.broker.buffered queue stream).count x =
    (w.broker.unread queue).count x

/-- What one turn of a task does to the receipts. -/
inductive Accounted (w w' : World) (id : TaskId) (old new : TaskState) : Prop
  | keeps (left : old.left? new = none) (keeps : ∀ queue, Keeps w w' queue old new)
  | forsakes {stream : StreamId} (left : old.left? new = some stream)
      (duly : w.IsToldToStop id ∨ ∃ moment, new = .ended .crashed moment)
      (delivers : old.delivery? = none) (takes : old.heard? new = none)
      (forsakes : ∀ queue, Forsakes w w' queue stream)

theorem broker_launch (w : World) (publisher : Bool) (consumer : Option StreamId) :
    (w.launch publisher consumer).2.broker = w.broker := by
  unfold World.launch
  split
  · rfl
  · cases publisher <;> cases consumer <;> rfl

theorem takes_of_unheard (h : old.heard? new = none) (w : World) (queue : String) :
    w.takes queue old new = [] := by
  unfold World.takes
  rw [h]

theorem delivers_of_quiet (h : old.delivery? = none) (w : World) (queue : String) :
    w.delivers queue old = [] := by
  unfold World.delivers
  rw [h]

/-- The broker is the same, and nothing is taken or delivered. -/
theorem keeps_of_alike (alike : w.broker.Alike w'.broker) (unheard : old.heard? new = none)
    (quiet : old.delivery? = none) (queue : String) : Keeps w w' queue old new where
  forsaken := by
    refine Broker.forsaken_of_kept (fun stream h => ?_) queue
    rw [alike.streams]
    exact h
  count x := by
    rw [alike.unread, takes_of_unheard unheard, delivers_of_quiet quiet]

/-- A task that holds no subscription neither takes a receipt nor leaves one behind. -/
theorem idle_of_held (h : old.held? = none) (new : TaskState) :
    old.heard? new = none ∧ old.left? new = none := by
  cases old with
  | ended => exact ⟨rfl, rfl⟩
  | running activity wait =>
    cases activity with
    | consuming s => cases h
    | _ => exact ⟨rfl, rfl⟩

/-- The turn by which a receipt is delivered. -/
theorem keeps_of_delivers {r : Receipt} {named : Option String} {wait : Wait} (h : w.Orderly)
    (alike : (w.broker.deliver (named.getD w.config.receiptQueue) r).Alike w'.broker)
    (queue : String) : Keeps w w' queue (.running (.acting (.deliver r named)) wait) new where
  forsaken := by
    refine Broker.forsaken_of_kept (fun stream hthere => ?_) queue
    rw [alike.streams, Broker.contains_deliver h.wired]
    exact hthere
  count x := by
    rw [alike.unread, Broker.count_unread_deliver h.wired]
    rfl

/-- The turn by which a receipt is taken. -/
theorem keeps_of_hears {r : Receipt} {broker : Broker} {wait wait' : Wait}
    (received : w.broker.receive stream = (.receipt r, broker)) (alike : broker.Alike w'.broker)
    (queue : String) : Keeps w w' queue (.running (.consuming (.listening stream)) wait)
      (.running (.consuming (.handling stream (.begin r))) wait') where
  forsaken := by
    refine Broker.forsaken_of_kept (fun other hthere => ?_) queue
    rw [alike.streams, Broker.contains_receive received]
    exact hthere
  count x := by
    rw [alike.unread, Broker.count_unread_receive received]
    rfl

/-- The turn by which a loop comes to its end. -/
theorem forsakes_of_drop (h : w.Orderly) (alike : (w.broker.drop stream).Alike w'.broker)
    (queue : String) : Forsakes w w' queue stream where
  forsaken := by
    refine Broker.forsaken_of_dropped h.wired (fun other => ?_) queue
    rw [alike.streams, Broker.contains_drop]
  count x := by
    rw [alike.unread, Broker.count_unread_drop h.wired stream]

/-- **What one turn does to the receipts.** Either no loop comes to its end and nothing is forsaken,
or a loop that was told to stop or crashes comes to its end and forsakes what is in its buffer. -/
theorem accounted_of_passes (passes : w.Passes id w') (h : w.Orderly) :
    ∃ old new, w.stateOf id = some old ∧ w'.stateOf id = some new ∧
      Accounted w w' id old new := by
  obtain ⟨old, new, w₁, hwas, hhandover, hgoes⟩ := passes
  refine ⟨old, new, hwas, (hgoes.states id).trans (if_pos rfl), ?_⟩
  cases hhandover with
  | aside before quiet after admitted alike =>
    obtain ⟨hunheard, hleft⟩ := idle_of_held before new
    have halike := alike.broker.trans (hgoes.broker_of_same (.inl (stream?_of_held before)))
    exact .keeps hleft (keeps_of_alike halike hunheard quiet)
  | delivers => exact .keeps rfl (keeps_of_delivers h (hgoes.broker_of_same (.inl rfl)))
  | spawns =>
    have halike : w.broker.Alike w'.broker := hgoes.broker_of_same (.inl rfl)
    exact .keeps rfl (keeps_of_alike halike rfl rfl)
  | @subscribes asked publisher stream broker wait wait' subscribed =>
    have halike : broker.Alike w'.broker := hgoes.broker_of_same (.inl rfl)
    refine .keeps rfl fun queue => ⟨?_, fun x => ?_⟩
    · refine Broker.forsaken_of_kept (fun other hthere => ?_) queue
      rw [halike.streams, Broker.contains_subscribe subscribed, hthere, Bool.or_true]
    · rw [halike.unread, Broker.count_unread_subscribe h.wired subscribed]
      rfl
  | launches =>
    have halike := hgoes.broker_of_same (.inl rfl)
    rw [broker_launch] at halike
    exact .keeps rfl (keeps_of_alike halike rfl rfl)
  | hears received => exact .keeps rfl (keeps_of_hears received (hgoes.broker_of_same (.inr rfl)))
  | consumes same connected unheard alike =>
    have halike := alike.broker.trans (hgoes.broker_of_same (.inr (congrArg some same)))
    exact .keeps rfl (keeps_of_alike halike unheard rfl)
  | @ends s wait reply n w₁ reason alike =>
    have halike := (alike.broker.drop s.stream).trans hgoes.broker
    refine .forsakes rfl ?_ rfl ?_ (forsakes_of_drop h halike)
    · rcases reason with rfl | htold
      · exact .inr ⟨n, rfl⟩
      · exact .inl htold
    · cases s <;> rfl

end Turn

/-! ## Whole plays -/

section Plays

variable {w w' : World} {happening : Happening} {scenes : List Scene} {scene : Scene}

/-- The accounts of one scene. -/
structure Scene.Balanced (scene : Scene) : Prop where
  forsaken : ∀ queue, scene.forsaken queue = scene.leftBehind queue
  duly : scene.StopsDuly
  count : ∀ queue x,
    (scene.after.broker.unread queue).count x + (scene.taken queue).count x +
        (scene.forsaken queue).count x =
      (scene.before.broker.unread queue).count x + (scene.delivered queue).count x

/-- A scene that is no turn leaves the receipts where they are. -/
theorem balanced_of_idle (turn : scene.turn? = none)
    (alike : scene.before.broker.Alike scene.after.broker) : scene.Balanced := by
  have hforsaken (queue : String) : scene.forsaken queue = [] := by
    refine Broker.forsaken_of_kept (fun stream h => ?_) queue
    rw [alike.streams]
    exact h
  constructor
  · intro queue
    unfold Scene.leftBehind
    rw [hforsaken queue, turn]
  · intro t old new h
    cases turn.symm.trans h
  · intro queue x
    rw [hforsaken queue, alike.unread]
    unfold Scene.taken Scene.delivered
    rw [turn]
    rfl

/-- The accounts of a turn. -/
theorem balanced_of_passes {t : TaskId} (h : w.Orderly) (passes : w.Passes t w')
    (turn : happening = .turn t ∨ happening = .hear t) :
    Scene.Balanced ⟨w, happening, w'⟩ := by
  obtain ⟨old, new, hold, hnew, haccounted⟩ := accounted_of_passes passes h
  have hturn : (⟨w, happening, w'⟩ : Scene).turn? = some (t, old, new) := by
    unfold Scene.turn?
    rcases turn with rfl | rfl <;> simp only [hold, hnew]
  have hmine {t' : TaskId} {old' new' : TaskState}
      (h : (⟨w, happening, w'⟩ : Scene).turn? = some (t', old', new')) :
      t' = t ∧ old' = old ∧ new' = new := by
    cases hturn.symm.trans h
    exact ⟨rfl, rfl, rfl⟩
  cases haccounted with
  | keeps left keeps =>
    constructor
    · intro queue
      unfold Scene.leftBehind
      rw [hturn]
      simp only [left]
      exact (keeps queue).forsaken
    · intro t' old' new' h hleft
      obtain ⟨rfl, rfl, rfl⟩ := hmine h
      rw [left] at hleft
      cases hleft
    · intro queue x
      have hcount := (keeps queue).count x
      unfold Scene.taken Scene.delivered Scene.forsaken
      rw [hturn]
      simp only
      rw [(keeps queue).forsaken, hcount]
      rfl
  | forsakes left duly quiet unheard forsakes =>
    constructor
    · intro queue
      unfold Scene.leftBehind
      rw [hturn]
      simp only [left]
      exact (forsakes queue).forsaken
    · intro t' old' new' h hleft
      obtain ⟨rfl, rfl, rfl⟩ := hmine h
      exact duly
    · intro queue x
      have hcount := (forsakes queue).count x
      unfold Scene.taken Scene.delivered Scene.forsaken
      rw [hturn]
      simp only
      rw [(forsakes queue).forsaken, takes_of_unheard unheard, delivers_of_quiet quiet]
      simp only [List.count_nil]
      omega

theorem balanced_of_happen (h : w.Orderly) (step : w.happen? happening = some w') :
    Scene.Balanced ⟨w, happening, w'⟩ := by
  cases happening with
  | turn t => exact balanced_of_passes h (h.passes step) (.inl rfl)
  | hear t => exact balanced_of_passes h (passes_of_hear h.holds.opened step) (.inr rfl)
  | forget t =>
    simp only [World.happen?] at step
    split at step
    · cases step
      exact balanced_of_idle rfl (Broker.alike_refl _)
    · cases step
  | begin | wait | note | takeTold =>
    cases step
    exact balanced_of_idle rfl (Broker.alike_refl _)

/-- What was delivered was taken, is unread or was forsaken. -/
theorem Play.count_delivered {c : Config} {clockStart : Int} {ids : List MessageId}
    (play : Play (.initial c clockStart ids) scenes w)
    (spares : ∀ scene ∈ scenes, scene.happening.sparesReceipts = true) (queue : String)
    (x : Receipt) :
    (deliveredTo queue scenes).count x =
      (takenFrom queue scenes).count x + (w.broker.unread queue).count x +
        (forsakenOn queue scenes).count x := by
  -- both sides grow by what the last scene delivers
  induction play with
  | nil => rfl
  | snoc play step ih =>
    have hspares := List.forall_mem_append.mp spares
    have hbalanced := balanced_of_happen (play.orderly hspares.1) step
    have hcount := hbalanced.count queue x
    have hold := ih hspares.1
    unfold deliveredTo takenFrom forsakenOn at hold ⊢
    simp only [List.flatMap_append, List.flatMap_singleton, List.count_append]
    simp only at hcount
    omega

theorem Play.balanced {c : Config} {clockStart : Int} {ids : List MessageId}
    (play : Play (.initial c clockStart ids) scenes w)
    (spares : ∀ scene ∈ scenes, scene.happening.sparesReceipts = true) :
    ∀ scene ∈ scenes, scene.Balanced := by
  induction play with
  | nil => exact fun _ hmem => absurd hmem List.not_mem_nil
  | snoc play step ih =>
    have hspares := List.forall_mem_append.mp spares
    have hlast := balanced_of_happen (play.orderly hspares.1) step
    exact List.forall_mem_append.mpr ⟨ih hspares.1, List.forall_mem_singleton.mpr hlast⟩

end Plays

/-- **What becomes of the receipts.** While receipts are read by the loops of pipelines only, and
whenever these are started and stopped: every receipt that was delivered on a queue was taken by a
loop, which began to handle it, is unread, or was forsaken, and each only once. So all of them were
taken or are unread if and only if none was forsaken. What is unread waits in the backlog or in the
buffer of a subscription that somebody holds. What is forsaken is what a loop leaves behind in its
buffer when it comes to its end, and a loop comes to its end only if it is told to stop or crashes. -/
theorem receipts_accounted {c : Config} {clockStart : Int} {ids : List MessageId}
    {scenes : List Scene} {w : World} (play : Play (.initial c clockStart ids) scenes w)
    (spares : ∀ scene ∈ scenes, scene.happening.sparesReceipts = true) (queue : String) :
    (deliveredTo queue scenes).Perm
      (takenFrom queue scenes ++ w.broker.unread queue ++ forsakenOn queue scenes) ∧
    ((deliveredTo queue scenes).Perm (takenFrom queue scenes ++ w.broker.unread queue) ↔
      forsakenOn queue scenes = []) ∧
    (∀ stream, w.broker.streams.contains stream = true → ∃ t, w.heldBy t = some stream) ∧
    ∀ scene ∈ scenes, scene.forsaken queue = scene.leftBehind queue ∧ scene.StopsDuly := by
  have hperm : (deliveredTo queue scenes).Perm
      (takenFrom queue scenes ++ w.broker.unread queue ++ forsakenOn queue scenes) := by
    rw [List.perm_iff_count]
    intro x
    rw [List.count_append, List.count_append]
    exact play.count_delivered spares queue x
  refine ⟨hperm, ⟨fun h => ?_, fun h => ?_⟩, (play.orderly spares).holds.holder, fun scene hmem => ?_⟩
  · -- there is no room left for anything forsaken
    have hall := hperm.length_eq
    have hkept := h.length_eq
    simp only [List.length_append] at hall hkept
    exact List.eq_nil_of_length_eq_zero (by omega)
  · rw [h, List.append_nil] at hperm
    exact hperm
  · have hbalanced := play.balanced spares scene hmem
    exact ⟨hbalanced.forsaken queue, hbalanced.duly⟩

/-- A pipeline is started, and its consumer hears the first of two receipts. The second comes while the
first is being handled, and so does the stop. When the stop is over a third receipt is delivered. -/
def stoppedHappenings : List Happening :=
  [.begin .start, .turn 3, .turn 3, .turn 3, .turn 3, .turn 3, .turn 11,
    .begin (.deliver (.delivered (.ofNat 1)) none), .turn 13, .turn 11,
    .begin (.deliver (.delivered (.ofNat 2)) none), .turn 15,
    .begin (.stop .consumerOnly), .turn 16, .turn 16, .turn 16, .turn 11, .turn 16,
    .begin (.deliver (.delivered (.ofNat 3)) none), .turn 20]

theorem receipts_accounted_stoppedHappenings : ∃ scenes w,
    Play (.initial .default 0 []) scenes w ∧
    takenFrom Config.default.receiptQueue scenes = [.delivered (.ofNat 1)] ∧
    forsakenOn Config.default.receiptQueue scenes = [.delivered (.ofNat 2)] ∧
    w.broker.unread Config.default.receiptQueue = [.delivered (.ofNat 3)] ∧
    (deliveredTo Config.default.receiptQueue scenes).Perm
      [.delivered (.ofNat 1), .delivered (.ofNat 3), .delivered (.ofNat 2)] ∧
    ¬ (deliveredTo Config.default.receiptQueue scenes).Perm
      [.delivered (.ofNat 1), .delivered (.ofNat 3)] := by
  obtain ⟨scenes, w, play, spares, htaken, hforsaken, hunread⟩ :=
    exists_play ([.begin (.build []), .turn 0, .turn 0] ++ stoppedHappenings)
      (w := .initial .default 0 []) (P := fun scenes w =>
        (∀ scene ∈ scenes, scene.happening.sparesReceipts = true) ∧
          takenFrom Config.default.receiptQueue scenes = [.delivered (.ofNat 1)] ∧
          forsakenOn Config.default.receiptQueue scenes = [.delivered (.ofNat 2)] ∧
          w.broker.unread Config.default.receiptQueue = [.delivered (.ofNat 3)])
      (by decide +kernel)
  obtain ⟨hperm, hkept, -⟩ := receipts_accounted play spares Config.default.receiptQueue
  rw [htaken, hunread] at hkept
  rw [htaken, hunread, hforsaken] at hperm
  refine ⟨scenes, w, play, htaken, hforsaken, hunread, hperm, fun h => ?_⟩
  have hnone := hkept.mp h
  rw [hforsaken] at hnone
  cases hnone

/-- Whether nothing is done but to deliver receipts, and to start and stop the pipeline. -/
def Happening.isRoutine : Happening → Bool
  | .begin (.deliver ..) | .begin .start | .begin (.stop _) => true
  | .begin _ => false
  | _ => true

/-- Whether a consumer's loop is in the middle of a receipt. -/
def TaskState.isHandling : TaskState → Bool
  | .running (.consuming (.handling ..)) _ | .running (.consuming (.pausing ..)) _ => true
  | _ => false

/-- Not every receipt that was delivered was taken or is unread when no loop is in the middle of
one, although nothing was done with a new pipeline but to start and to stop it. -/
theorem not_forall_receipts_kept : ¬ ∀ {c : Config} {clockStart : Int} {ids : List MessageId}
    {happenings : List Happening} {scenes : List Scene} {w : World},
    ((World.initial c clockStart ids).perform (.build [])).2.play? happenings = some (scenes, w) →
    (∀ happening ∈ happenings, happening.isRoutine = true) →
    (∀ task ∈ w.tasks.values, task.state.isHandling = false) →
    ∀ r ∈ deliveredTo c.receiptQueue scenes,
      r ∈ takenFrom c.receiptQueue scenes ∨ r ∈ w.broker.unread c.receiptQueue := by
  intro h
  obtain ⟨⟨scenes, w⟩, hplay, hP⟩ := (Option.any_eq_true (fun (p : List Scene × World) => decide
    ((∀ task ∈ p.2.tasks.values, task.state.isHandling = false) ∧
      deliveredTo Config.default.receiptQueue p.1 =
        [.delivered (.ofNat 1), .delivered (.ofNat 2), .delivered (.ofNat 3)] ∧
      takenFrom Config.default.receiptQueue p.1 = [.delivered (.ofNat 1)] ∧
      p.2.broker.unread Config.default.receiptQueue = [.delivered (.ofNat 3)]))
    (((World.initial .default 0 []).perform (.build [])).2.play? stoppedHappenings)).mp
      (by decide +kernel)
  obtain ⟨hidle, hdelivered, htaken, hunread⟩ := of_decide_eq_true hP
  have hkept := h hplay (by decide) hidle (.delivered (.ofNat 2)) (by simp [hdelivered])
  rw [htaken, hunread] at hkept
  revert hkept
  decide

end Outbox.Rehearsal
