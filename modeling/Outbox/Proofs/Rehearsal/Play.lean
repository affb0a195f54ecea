import Outbox.Proofs.Rehearsal.Schedule
/-!
# `Proofs.Rehearsal.Play` — rehearsals whose tasks go on in any order

A rehearsal fixes who goes on: whoever was woken first, and time stands still while anybody can. In
a *play* nothing of this is fixed. Any action may be taken at any time, any task that can take a
turn may take it, and time may pass at any time. In a rehearsal a consumer's loop heeds its signal
before its subscription; in a play it may hear either first. Who has been woken is still noted, but
the tasks do not see it. So what is proved of all plays holds under every schedule, and of every
rehearsal, for a rehearsal is a play.
-/

namespace Outbox.Rehearsal

/-- What can happen next. -/
inductive Happening
  /-- Somebody takes an action; a task of its own is about to begin with it. -/
  | begin (action : Action)
  | turn (task : TaskId)
  /-- A consumer's loop takes a turn by what its subscription has to offer, although its signal may
  have news for it as well. -/
  | hear (task : TaskId)
  | wait (milliseconds : Nat)
  /-- The reply of a task that has come to its end is taken out. -/
  | forget (task : TaskId)
  /-- It is noted who has been woken. -/
  | note (woken : List TaskId)
  /-- What was told is taken out. -/
  | takeTold
  deriving Inhabited

/-- Something that has happened, with the worlds before and after it. -/
structure Scene where
  before : World
  happening : Happening
  after : World

namespace World

/-- Lets a consumer's loop take the turn that it would take if it had no signal to watch while it
waits for a receipt. -/
def hear? (w : World) (id : TaskId) : Option World := do
  let task ← w.tasks.get? id
  match task.state with
  | .running (.consuming (.listening stream)) wait =>
    let unwatched : Task := { task with watch := none }
    answered id (w.answer? id unwatched (.consuming (.listening stream)) wait (.receive stream))
      fun w heard =>
        w.settle id .consuming (fun () => .stopped)
          ((Consuming.listening stream).resume task.config (w.stops task) heard)
  | _ => none

/-- What comes of something, if it can happen. -/
def happen? (w : World) : Happening → Option World
  | .begin action => some (w.about action)
  | .turn task => w.turn? task
  | .hear task => w.hear? task
  | .wait milliseconds => some { w with now := w.now + milliseconds }
  | .forget task =>
    if (w.ended task).isSome then some { w with tasks := w.tasks.erase task } else none
  | .note woken => some { w with woken }
  | .takeTold => some w.takeTold.2

/-- Lets one thing happen after the other. -/
def play? (w : World) : List Happening → Option (List Scene × World)
  | [] => some ([], w)
  | happening :: rest => do
    let w₁ ← w.happen? happening
    let (scenes, w₂) ← w₁.play? rest
    some (⟨w, happening, w₁⟩ :: scenes, w₂)

end World

/-- One thing happens after another. -/
inductive Play (w₀ : World) : List Scene → World → Prop
  | nil : Play w₀ [] w₀
  | snoc {scenes : List Scene} {w w' : World} {happening : Happening} :
      Play w₀ scenes w → w.happen? happening = some w' →
      Play w₀ (scenes ++ [⟨w, happening, w'⟩]) w'

namespace Play

variable {w₀ w w' : World} {scenes later : List Scene} {happening : Happening}

/-- A play that begins with a scene. -/
theorem cons (h : w₀.happen? happening = some w) (play : Play w scenes w') :
    Play w₀ (⟨w₀, happening, w⟩ :: scenes) w' := by
  induction play with
  | nil => exact .snoc .nil h
  | snoc _ step ih => exact .snoc ih step

/-- One play after another. -/
theorem append (first : Play w₀ scenes w) (play : Play w later w') :
    Play w₀ (scenes ++ later) w' := by
  induction play with
  | nil =>
    rw [List.append_nil]
    exact first
  | snoc _ step ih =>
    rw [← List.append_assoc]
    exact .snoc ih step

/-- A play in two parts. -/
theorem split (play : Play w₀ (scenes ++ later) w) : ∃ w₁, Play w₀ scenes w₁ ∧ Play w₁ later w := by
  generalize hall : scenes ++ later = all at play
  induction play generalizing later with
  | nil =>
    obtain ⟨rfl, rfl⟩ := List.append_eq_nil_iff.mp hall
    exact ⟨w₀, .nil, .nil⟩
  | snoc play step ih =>
    rcases List.eq_nil_or_concat later with rfl | ⟨init, last, rfl⟩
    · rw [List.append_nil] at hall
      subst hall
      exact ⟨_, .snoc play step, .nil⟩
    · rw [List.concat_eq_append, ← List.append_assoc] at hall
      rw [List.concat_eq_append]
      obtain ⟨hinit, hlast⟩ := List.append_inj' hall rfl
      cases hlast
      obtain ⟨w₁, first, rest⟩ := ih hinit
      exact ⟨w₁, first, .snoc rest step⟩

/-- A play and its last scene. -/
theorem last {scene : Scene} (play : Play w₀ (scenes ++ [scene]) w) :
    Play w₀ scenes scene.before ∧ scene.before.happen? scene.happening = some scene.after ∧
      scene.after = w := by
  generalize hall : scenes ++ [scene] = all at play
  cases play with
  | nil => cases (List.append_eq_nil_iff.mp hall).2
  | snoc play step =>
    obtain ⟨rfl, hscene⟩ := List.append_inj' hall rfl
    cases hscene
    exact ⟨play, step, rfl⟩

/-- What was computed is a play. -/
theorem of_play? {happenings : List Happening} (h : w₀.play? happenings = some (scenes, w)) :
    Play w₀ scenes w := by
  induction happenings generalizing w₀ scenes with
  | nil =>
    cases h
    exact .nil
  | cons happening rest ih =>
    simp only [World.play?, Option.bind_eq_bind, Option.bind_eq_some_iff] at h
    obtain ⟨w₁, hfirst, ⟨later, w₂⟩, hrest, h⟩ := h
    cases h
    exact cons hfirst (ih hrest)

end Play

/-- A play with a property that can be computed. -/
theorem exists_play (happenings : List Happening) {w : World} {P : List Scene → World → Prop}
    [∀ scenes w', Decidable (P scenes w')]
    (h : (w.play? happenings).any (fun (scenes, w') => decide (P scenes w')) = true) :
    ∃ scenes w', Play w scenes w' ∧ P scenes w' := by
  obtain ⟨⟨scenes, w'⟩, hplay, hP⟩ := (Option.any_eq_true _ _).mp h
  exact ⟨scenes, w', .of_play? hplay, of_decide_eq_true hP⟩

/-- A play whose last scene has a property that can be computed. -/
theorem exists_lastScene (happenings : List Happening) {w : World}
    {P : List Scene → Scene → Prop} [∀ scenes scene, Decidable (P scenes scene)]
    (h : (w.play? happenings).any (fun (scenes, _) =>
      scenes.getLast?.any fun scene => decide (P scenes.dropLast scene)) = true) :
    ∃ scenes scene w', Play w (scenes ++ [scene]) w' ∧ P scenes scene := by
  obtain ⟨⟨scenes, w'⟩, hplay, hlast⟩ := (Option.any_eq_true _ _).mp h
  obtain ⟨scene, hscene, hP⟩ := (Option.any_eq_true _ _).mp hlast
  obtain ⟨earlier, rfl⟩ := List.getLast?_eq_some_iff.mp hscene
  rw [List.dropLast_concat] at hP
  exact ⟨earlier, scene, w', .of_play? hplay, of_decide_eq_true hP⟩

/-! ## Rehearsals -/

/-- A world can be reached by a play. -/
def Played (w₀ w : World) : Prop :=
  ∃ scenes, Play w₀ scenes w

namespace Played

variable {w₀ w w' : World} {id : TaskId}

theorem refl (w : World) : Played w w :=
  ⟨[], .nil⟩

theorem trans (h : Played w₀ w) (h' : Played w w') : Played w₀ w' := by
  obtain ⟨scenes, play⟩ := h
  obtain ⟨later, play'⟩ := h'
  exact ⟨scenes ++ later, play.append play'⟩

theorem of_happen (happening : Happening) (h : w.happen? happening = some w') : Played w w' :=
  ⟨_, .snoc .nil h⟩

/-- To wake tasks is to note who has been woken. -/
theorem of_wakeReady (w : World) (first : Option TaskId) : Played w (w.wakeReady first) := by
  have hnoted : w.wakeReady first = { w with woken := (w.wakeReady first).woken } := by
    refine List.foldlRecOn (motive := fun w' : World => w' = { w with woken := w'.woken })
      _ _ rfl fun w' h t _ => ?_
    unfold World.wake
    split
    · exact h
    · rw [h]
  rw [hnoted]
  exact of_happen (.note (w.wakeReady first).woken) rfl

theorem of_rest (w : World) (first : Option TaskId) (fuel : Nat) :
    Played w (w.rest first fuel) := by
  induction fuel generalizing w with
  | zero => exact refl w
  | succ fuel ih =>
    unfold World.rest
    split
    · exact refl w
    · next t others hwoken =>
      split
      · next w' hturn =>
        have hfirst : Played w w' := of_happen (.turn t) hturn
        exact hfirst.trans ((of_wakeReady w' first).trans (ih _))
      · have hnoted : Played w { w with woken := others } :=
          of_happen (.note others) rfl
        exact hnoted.trans (ih _)

theorem of_runUntilEnd (w : World) (id : TaskId) (patience fuel : Nat) :
    Played w (w.runUntilEnd id patience fuel) := by
  induction fuel generalizing w with
  | zero => exact refl w
  | succ fuel ih =>
    unfold World.runUntilEnd
    split
    · exact refl w
    · split
      · next w' hturn =>
        have hfirst : Played w w' := of_happen (.turn id) hturn
        exact hfirst.trans ((of_wakeReady w' _).trans (ih _))
      · refine (of_rest w (some id) patience).trans ?_
        generalize w.rest (some id) patience = w
        simp only
        split
        · exact ih w
        · split
          · next moment hmoment =>
            have hlater : w.now + (moment - w.now) = moment := by
              have hlt := lt_of_nextMoment? hmoment
              omega
            have hwait : w.happen? (.wait (moment - w.now)) = some { w with now := moment } := by
              rw [World.happen?, hlater]
            exact (of_happen _ hwait).trans ((of_wakeReady _ _).trans (ih _))
          · exact refl w

/-- **An action that has its reply is a play.** -/
theorem of_perform (w : World) {action : Action} (replies : w.replies action = true) :
    Played w (w.perform action).2 := by
  have hbegin : Played w (w.about action) := of_happen (.begin action) rfl
  have hreplied : Played w (w.replied action) := hbegin.trans (of_runUntilEnd ..)
  have hforget : (w.replied action).happen? (.forget w.fresh) =
      some { w.replied action with tasks := (w.replied action).tasks.erase w.fresh } :=
    if_pos replies
  exact hreplied.trans ((of_happen _ hforget).trans (of_rest _ none World.patience))

end Played

/-- **A rehearsal is a play.** -/
theorem Reached.played {c : Config} {clockStart : Int} {ids : List MessageId} {w : World}
    (h : Reached c clockStart ids w) : Played (.initial c clockStart ids) w := by
  induction h with
  | initial => exact .refl _
  | act _ _ replies ih => exact ih.trans (.of_perform _ replies)
  | @insert w draft _ _ ih => exact ih.trans (.of_perform _ (replied_insert w draft).2)
  | told _ ih => exact ih.trans (.of_happen .takeTold rfl)

end Outbox.Rehearsal
