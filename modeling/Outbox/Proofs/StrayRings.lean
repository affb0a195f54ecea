import Outbox.Proofs.Rehearsal.Stall
/-!
# `Proofs.StrayRings` — the messages that a wait leaves behind

Whoever finds no message on its exchange listens to the doorbell. There is one doorbell for all
exchanges, and a ring wakes the listener that has listened longest, whatever it waits for. So the
ring for a message can go astray: it wakes somebody who waits on another exchange, finds nothing
there and listens again, and the message stays where it is. A wait that gives up can leave a message
behind in this way. This module shows that there is no other: of the messages that are on its
exchange when a wait gives up, all but as many as rings went astray while it listened have somebody
who is on the way to take them.
-/

namespace Outbox

/-! ## Listeners -/

namespace Doorbell

variable {d : Doorbell} {id t : Nat}

/-- All who listen, whether they have been woken or not. -/
def listeners (d : Doorbell) : List Nat :=
  d.waiting ++ d.woken

theorem hasWoken_iff : d.hasWoken t = true ↔ t ∈ d.woken :=
  List.contains_iff_mem

theorem listeners_ring (d : Doorbell) : d.ring.listeners.Perm d.listeners := by
  unfold ring listeners
  cases hwaiting : d.waiting with
  | nil => rfl
  | cons first rest =>
    simp only [← List.append_assoc]
    exact List.perm_append_singleton first (rest ++ d.woken)

theorem listeners_listen (d : Doorbell) (id : Nat) :
    (d.listen id).listeners.Perm (id :: d.listeners) := by
  unfold listen listeners
  split
  · simp only [← List.append_assoc]
    exact List.perm_append_singleton id (d.waiting ++ d.woken)
  · simp only [List.append_assoc]
    exact List.perm_middle

/-- Who has been woken and goes on listens no longer. -/
theorem listeners_goOn (nodup : d.listeners.Nodup) (woken : d.hasWoken id = true) :
    (d.goOn id).listeners = d.listeners.filter (· ≠ id) := by
  have hnot : id ∉ d.waiting := fun h =>
    (List.nodup_append.mp nodup).2.2 id h id (hasWoken_iff.mp woken) rfl
  have hwaiting : d.waiting.filter (· ≠ id) = d.waiting :=
    List.filter_eq_self.mpr fun t ht => decide_eq_true fun heq => hnot (heq ▸ ht)
  rw [listeners, listeners, List.filter_append, hwaiting]
  rfl

theorem leave_of_unwoken (unwoken : d.hasWoken id = false) :
    d.leave id = { d with waiting := d.waiting.filter (· ≠ id) } := by
  rw [leave, unwoken]
  rfl

/-- Who has not been woken and leaves listens no longer. -/
theorem listeners_leave (unwoken : d.hasWoken id = false) :
    (d.leave id).listeners = d.listeners.filter (· ≠ id) := by
  have hnot : id ∉ d.woken := fun h => Bool.false_ne_true (unwoken.symm.trans (hasWoken_iff.mpr h))
  have hwoken : d.woken.filter (· ≠ id) = d.woken :=
    List.filter_eq_self.mpr fun t ht => decide_eq_true fun heq => hnot (heq ▸ ht)
  rw [leave_of_unwoken unwoken, listeners, listeners, List.filter_append, hwoken]

theorem hasWoken_ring (woken : d.hasWoken t = true) : d.ring.hasWoken t = true := by
  rw [hasWoken_iff] at woken ⊢
  unfold ring
  split
  · exact woken
  · exact List.mem_append_left _ woken

theorem hasWoken_listen (woken : d.hasWoken t = true) : (d.listen id).hasWoken t = true := by
  rw [hasWoken_iff] at woken ⊢
  unfold listen
  split
  · exact List.mem_append_left _ woken
  · exact woken

theorem hasWoken_goOn (other : id ≠ t) (woken : d.hasWoken t = true) :
    (d.goOn id).hasWoken t = true := by
  rw [hasWoken_iff] at woken ⊢
  exact List.mem_filter.mpr ⟨woken, decide_eq_true other.symm⟩

theorem mem_waiting_of_ring (h : t ∈ d.ring.waiting) : t ∈ d.waiting := by
  unfold ring at h
  split at h
  · exact h
  · next first rest hwaiting =>
    rw [hwaiting]
    exact List.mem_cons_of_mem _ h

theorem mem_waiting_of_listen (other : id ≠ t) (h : t ∈ (d.listen id).waiting) :
    t ∈ d.waiting := by
  unfold listen at h
  split at h
  · exact h
  · exact (List.mem_append.mp h).resolve_right fun h => other (List.mem_singleton.mp h).symm

end Doorbell

namespace Rehearsal

/-! ## What a turn does to the others -/

namespace Stall

variable {s s' : Stall} {id t : TaskId} {old new : Option Popping}

/-- Nobody else's waking is undone. -/
theorem Trade.hasWoken (trade : Trade id s s' old new) (other : id ≠ t)
    (woken : s.doorbell.hasWoken t = true) : s'.doorbell.hasWoken t = true := by
  cases trade with
  | aside stocking =>
    cases stocking with
    | taken doorbell => rwa [doorbell]
    | added doorbell => exact doorbell ▸ Doorbell.hasWoken_ring woken
  | finds doorbell => rwa [doorbell]
  | listens _ doorbell => exact doorbell ▸ Doorbell.hasWoken_listen woken
  | wakes _ doorbell => exact doorbell ▸ Doorbell.hasWoken_goOn other woken
  | leaves unwoken doorbell =>
    rw [doorbell, Doorbell.leave_of_unwoken unwoken]
    exact woken

/-- Nobody else comes to wait. -/
theorem Trade.mem_waiting (trade : Trade id s s' old new) (other : id ≠ t)
    (h : t ∈ s'.doorbell.waiting) : t ∈ s.doorbell.waiting := by
  cases trade with
  | aside stocking =>
    cases stocking with
    | taken doorbell => rwa [doorbell] at h
    | added doorbell => exact Doorbell.mem_waiting_of_ring (doorbell ▸ h)
  | finds doorbell => rwa [doorbell] at h
  | listens _ doorbell => exact Doorbell.mem_waiting_of_listen other (doorbell ▸ h)
  | wakes _ doorbell =>
    rw [doorbell] at h
    exact h
  | leaves unwoken doorbell =>
    rw [doorbell, Doorbell.leave_of_unwoken unwoken] at h
    exact (List.mem_filter.mp h).1

end Stall

open Stall

/-! ## Rings that go astray -/

namespace World

/-- Whether a task waits on an exchange and listens to the doorbell. -/
def listensFor (w : World) (exchange : String) (t : TaskId) : Bool :=
  match w.poppingOf t with
  | some (.listening e _) => e = exchange
  | _ => false

/-- Whether a task is on the way to look at an exchange: it is about to look, or it listens and has
been woken. -/
def headsFor (w : World) (exchange : String) (t : TaskId) : Bool :=
  match w.poppingOf t with
  | some (.looking e _) => e = exchange
  | some (.listening e _) => e = exchange && w.doorbell.hasWoken t
  | none => false

end World

/-- Whether a message is put on an exchange and the ring for it wakes somebody who waits on another
one. -/
def Scene.strays (scene : Scene) (exchange : String) : Bool :=
  decide ((scene.before.broker.queued exchange).length <
      (scene.after.broker.queued exchange).length) &&
    scene.before.doorbell.waiting.head?.any fun first => !scene.before.listensFor exchange first

/-- How many rings for messages on an exchange have gone astray since a task began to listen for
them. -/
def strayRings (exchange : String) (t : TaskId) (scenes : List Scene) : Nat :=
  (scenes.reverse.takeWhile fun scene => scene.before.listensFor exchange t).countP
    (·.strays exchange)

theorem strayRings_concat {exchange : String} {t : TaskId} {scene : Scene}
    (listens : scene.before.listensFor exchange t = true) (scenes : List Scene) :
    strayRings exchange t (scenes ++ [scene]) =
      strayRings exchange t scenes + if scene.strays exchange then 1 else 0 := by
  simp only [strayRings, List.reverse_append, List.reverse_singleton, List.singleton_append,
    List.takeWhile_cons, listens, if_true, List.countP_cons]

/-- Where all who wait wait on one exchange no ring goes astray. -/
theorem strayRings_eq_zero {exchange : String} {scenes : List Scene}
    (alike : ∀ scene ∈ scenes, ∀ u ∈ scene.before.doorbell.waiting,
      scene.before.listensFor exchange u = true) (t : TaskId) :
    strayRings exchange t scenes = 0 := by
  refine List.countP_eq_zero.mpr fun scene hscene hstrays => ?_
  have hmem := List.mem_reverse.mp ((List.takeWhile_subset _) hscene)
  obtain ⟨first, hfirst, hother⟩ := (Option.any_eq_true _ _).mp (Bool.and_eq_true_iff.mp hstrays).2
  rw [alike scene hmem first (List.mem_of_head? hfirst)] at hother
  cases hother

namespace World

/-! ## Who listens -/

/-- Those who listen to the doorbell are those who wait for a message and have found none. -/
structure Attuned (w : World) : Prop where
  nodup : w.doorbell.listeners.Nodup
  listens : ∀ t, t ∈ w.doorbell.listeners ↔
    ∃ e deadline, w.poppingOf t = some (.listening e deadline)

section Attuned

variable {w w' : World} {id t : TaskId} {exchange : String} {scenes : List Scene}

theorem listensFor_iff : w.listensFor exchange t = true ↔
    ∃ deadline, w.poppingOf t = some (.listening exchange deadline) := by
  unfold listensFor
  split
  · next e deadline hpopping => simp [hpopping]
  · next hnot => simpa using fun deadline => hnot exchange deadline

theorem Attuned.initial (c : Config) (clockStart : Int) (ids : List MessageId) :
    (initial c clockStart ids).Attuned where
  nodup := List.nodup_nil
  listens t := by
    constructor
    · intro h
      cases h
    · rintro ⟨_, _, h⟩
      cases h

/-- Who waits for a ring has not been woken. -/
theorem Attuned.unwoken (h : w.Attuned) (waits : t ∈ w.doorbell.waiting) :
    w.doorbell.hasWoken t = false := by
  refine Bool.eq_false_iff.mpr fun hwoken => ?_
  exact (List.nodup_append.mp h.nodup).2.2 t waits t (Doorbell.hasWoken_iff.mp hwoken) rfl

/-- A task that does not begin to listen leaves the listeners as they are, unless it listened. -/
theorem Attuned.still (h : w.Attuned) (perm : w'.doorbell.listeners.Perm w.doorbell.listeners)
    (others : ∀ t, id ≠ t → w'.poppingOf t = w.poppingOf t)
    (before : (w.poppingOf id).all Popping.isLooking = true)
    (after : (w'.poppingOf id).all Popping.isLooking = true) : w'.Attuned where
  nodup := perm.nodup_iff.mpr h.nodup
  listens t := by
    rw [perm.mem_iff, h.listens t]
    by_cases heq : id = t
    · subst heq
      constructor
      · rintro ⟨_, _, hpopping⟩
        rw [hpopping] at before
        cases before
      · rintro ⟨_, _, hpopping⟩
        rw [hpopping] at after
        cases after
    · rw [others t heq]

/-- A listener goes. -/
theorem Attuned.gone (h : w.Attuned)
    (left : w'.doorbell.listeners = w.doorbell.listeners.filter (· ≠ id))
    (others : ∀ t, id ≠ t → w'.poppingOf t = w.poppingOf t)
    (after : (w'.poppingOf id).all Popping.isLooking = true) : w'.Attuned where
  nodup := left ▸ h.nodup.filter _
  listens t := by
    rw [left, List.mem_filter, decide_eq_true_iff, h.listens t]
    by_cases heq : id = t
    · subst heq
      constructor
      · exact fun hleft => absurd rfl hleft.2
      · rintro ⟨_, _, hpopping⟩
        rw [hpopping] at after
        cases after
    · rw [others t heq]
      exact and_iff_left fun h => heq h.symm

theorem Attuned.trades (h : w.Attuned) (trades : Trades w id w')
    (others : ∀ t, id ≠ t → w'.poppingOf t = w.poppingOf t) : w'.Attuned := by
  unfold Trades at trades
  generalize hold : w.poppingOf id = old at trades
  generalize hnew : w'.poppingOf id = new at trades
  cases trades with
  | aside stocking looks =>
    refine h.still ?_ others (by rw [hold]; rfl) (by rw [hnew]; exact looks)
    cases stocking with
    | taken doorbell => exact .of_eq (congrArg Doorbell.listeners doorbell)
    | added doorbell =>
      exact (List.Perm.of_eq (congrArg Doorbell.listeners doorbell)).trans w.doorbell.listeners_ring
  | finds doorbell _ _ looks =>
    exact h.still (.of_eq (congrArg Doorbell.listeners doorbell)) others (by rw [hold]; rfl)
      (by rw [hnew]; exact looks)
  | wakes woken doorbell =>
    refine h.gone ?_ others (by rw [hnew]; rfl)
    rw [show w'.doorbell = w.doorbell.goOn id from doorbell]
    exact Doorbell.listeners_goOn h.nodup woken
  | leaves unwoken doorbell _ looks =>
    refine h.gone ?_ others (by rw [hnew]; exact looks)
    rw [show w'.doorbell = w.doorbell.leave id from doorbell]
    exact Doorbell.listeners_leave unwoken
  | @listens e deadline _ doorbell =>
    have hperm := w.doorbell.listeners_listen id
    rw [← show w'.doorbell = w.doorbell.listen id from doorbell] at hperm
    have hnot : id ∉ w.doorbell.listeners := by
      rw [h.listens, hold]
      rintro ⟨_, _, heq⟩
      cases heq
    refine ⟨hperm.nodup_iff.mpr (List.nodup_cons.mpr ⟨hnot, h.nodup⟩), fun t => ?_⟩
    rw [hperm.mem_iff, List.mem_cons, h.listens t]
    by_cases heq : id = t
    · subst heq
      simp [hnew]
    · rw [others t heq]
      exact or_iff_right fun h => heq h.symm

/-! ## Who is on the way -/

/-- All messages on an exchange, but for some, have somebody each who is on the way to look there.
-/
def Attended (w : World) (exchange : String) (astray : Nat) : Prop :=
  ∃ heading : List TaskId, heading.Nodup ∧ (∀ t ∈ heading, w.headsFor exchange t = true) ∧
    (w.broker.queued exchange).length ≤ heading.length + astray

theorem headsFor_iff : w.headsFor exchange t = true ↔
    (∃ deadline, w.poppingOf t = some (.looking exchange deadline)) ∨
      (∃ deadline, w.poppingOf t = some (.listening exchange deadline)) ∧
        w.doorbell.hasWoken t = true := by
  unfold headsFor
  split
  · next e deadline hpopping => simp [hpopping]
  · next e deadline hpopping => simp [hpopping]
  · next hpopping => simp [hpopping]

theorem mem_keys_of_headsFor (h : w.headsFor exchange t = true) : t ∈ w.tasks.keys := by
  have hpopping : w.poppingOf t ≠ none := fun hnone => by
    rw [headsFor, hnone] at h
    cases h
  obtain ⟨state, hpopping⟩ := Option.ne_none_iff_exists'.mp hpopping
  obtain ⟨_, hstate, -⟩ := Option.bind_eq_some_iff.mp hpopping
  obtain ⟨task, hget, -⟩ := Option.map_eq_some_iff.mp hstate
  exact Table.mem_keys_of_get? hget

theorem not_headsFor_of_looking {e : String} {deadline : Nat}
    (looks : w.poppingOf t = some (.looking e deadline)) (other : e ≠ exchange) :
    w.headsFor exchange t = false := by
  simp [headsFor, looks, other]

theorem not_headsFor_of_unwoken {e : String} {deadline : Nat}
    (listens : w.poppingOf t = some (.listening e deadline))
    (unwoken : w.doorbell.hasWoken t = false) : w.headsFor exchange t = false := by
  simp [headsFor, listens, unwoken]

theorem ne_of_headsFor (h : w.headsFor exchange t = true)
    (elsewhere : w.headsFor exchange id = false) : id ≠ t := by
  rintro rfl
  cases elsewhere.symm.trans h

/-- Who was on the way still is, unless it has taken a turn. -/
theorem headsFor_of_others (trades : Trades w id w')
    (others : ∀ t, id ≠ t → w'.poppingOf t = w.poppingOf t) (other : id ≠ t)
    (h : w.headsFor exchange t = true) : w'.headsFor exchange t = true := by
  rw [headsFor_iff, others t other]
  exact (headsFor_iff.mp h).imp_right fun ⟨hlistens, hwoken⟩ =>
    ⟨hlistens, Trade.hasWoken trades other hwoken⟩

theorem attended_of_empty (empty : w.broker.queued exchange = []) (n : Nat) :
    w.Attended exchange n :=
  ⟨[], List.nodup_nil, fun _ h => absurd h List.not_mem_nil, empty ▸ Nat.zero_le _⟩

/-- Somebody who was not on the way has taken a turn. -/
theorem Attended.others {n n' : Nat} (h : w.Attended exchange n) (trades : Trades w id w')
    (others : ∀ t, id ≠ t → w'.poppingOf t = w.poppingOf t)
    (elsewhere : w.headsFor exchange id = false)
    (fewer : (w'.broker.queued exchange).length + n ≤ (w.broker.queued exchange).length + n') :
    w'.Attended exchange n' := by
  obtain ⟨heading, hnodup, hheads, hlength⟩ := h
  refine ⟨heading, hnodup, fun t ht => ?_, by omega⟩
  exact headsFor_of_others trades others (ne_of_headsFor (hheads t ht) elsewhere) (hheads t ht)

/-- A message is put on the exchange, and the ring wakes somebody who waits there. -/
theorem Attended.wakes {n : Nat} {first : TaskId} {rest : List TaskId}
    (h : w.Attended exchange n) (attuned : w.Attuned) (trades : Trades w id w')
    (others : ∀ t, id ≠ t → w'.poppingOf t = w.poppingOf t) (idle : w.poppingOf id = none)
    (waiting : w.doorbell.waiting = first :: rest) (doorbell : w'.doorbell = w.doorbell.ring)
    (listens : w.listensFor exchange first = true)
    (length : (w'.broker.queued exchange).length = (w.broker.queued exchange).length + 1) :
    w'.Attended exchange n := by
  obtain ⟨heading, hnodup, hheads, hbound⟩ := h
  obtain ⟨deadline, hpopping⟩ := listensFor_iff.mp listens
  have helsewhere : w.headsFor exchange id = false := by
    simp [headsFor, idle]
  have hidle : id ≠ first := by
    rintro rfl
    cases idle.symm.trans hpopping
  -- whoever is woken now was not on the way before
  have hunwoken : w.doorbell.hasWoken first = false :=
    attuned.unwoken (waiting ▸ List.mem_cons_self)
  have hnew : first ∉ heading := fun hmem =>
    ne_of_headsFor (hheads first hmem) (not_headsFor_of_unwoken hpopping hunwoken) rfl
  refine ⟨first :: heading, List.nodup_cons.mpr ⟨hnew, hnodup⟩, fun t ht => ?_, ?_⟩
  · rcases List.mem_cons.mp ht with rfl | ht
    · refine headsFor_iff.mpr (.inr ⟨⟨deadline, (others _ hidle).trans hpopping⟩, ?_⟩)
      rw [doorbell, Doorbell.hasWoken_iff, Doorbell.ring, waiting]
      exact List.mem_append_right _ (List.mem_singleton_self _)
    · exact headsFor_of_others trades others (ne_of_headsFor (hheads t ht) helsewhere) (hheads t ht)
  · rw [length, List.length_cons]
    omega

/-- A message is put on an exchange while somebody waits. If the ring wakes somebody who waits
there, one more is on the way; otherwise the ring has gone astray. -/
theorem Attended.added {n : Nat} {e : String} {p : Publication} {happening : Happening}
    (h : w.Attended exchange n) (attuned : w.Attuned) (trades : Trades w id w')
    (others : ∀ t, id ≠ t → w'.poppingOf t = w.poppingOf t) (idle : w.poppingOf id = none)
    (waits : t ∈ w.doorbell.waiting) (doorbell : w'.doorbell = w.doorbell.ring)
    (queued : ∀ e', w'.broker.queued e' =
      if e = e' then w.broker.queued e ++ [p] else w.broker.queued e') :
    w'.Attended exchange
      (n + if Scene.strays ⟨w, happening, w'⟩ exchange then 1 else 0) := by
  have helsewhere : w.headsFor exchange id = false := by
    simp [headsFor, idle]
  have hqueued := queued exchange
  by_cases heq : e = exchange
  · subst heq
    rw [if_pos rfl] at hqueued
    have hlength : (w'.broker.queued e).length = (w.broker.queued e).length + 1 := by
      rw [hqueued, List.length_append, List.length_singleton]
    obtain ⟨first, rest, hwaiting⟩ := List.exists_cons_of_ne_nil (List.ne_nil_of_mem waits)
    have hstrays : Scene.strays ⟨w, happening, w'⟩ e = !w.listensFor e first := by
      simp [Scene.strays, hlength, hwaiting]
    rw [hstrays]
    cases hlistens : w.listensFor e first with
    | false =>
      exact h.others trades others helsewhere (by simp only [Bool.not_false, if_true]; omega)
    | true => exact h.wakes attuned trades others idle hwaiting doorbell hlistens hlength
  · rw [if_neg heq] at hqueued
    exact h.others trades others helsewhere (by rw [hqueued]; omega)

/-- While somebody waits, a turn leaves no more messages unattended than rings go astray in it. -/
theorem Attended.trades {n : Nat} {happening : Happening} (h : w.Attended exchange n)
    (attuned : w.Attuned) (trades : Trades w id w')
    (others : ∀ t, id ≠ t → w'.poppingOf t = w.poppingOf t) (waits : t ∈ w.doorbell.waiting) :
    w'.Attended exchange
      (n + if Scene.strays ⟨w, happening, w'⟩ exchange then 1 else 0) := by
  have htrade := trades
  unfold Trades at htrade
  generalize hold : w.poppingOf id = old at htrade
  generalize hnew : w'.poppingOf id = new at htrade
  cases htrade with
  | aside stocking looks =>
    cases stocking with
    | taken _ queued =>
      have hfewer := (queued exchange).length_le
      exact h.others trades others (by simp [headsFor, hold])
        (Nat.add_le_add hfewer (Nat.le_add_right ..))
    | added doorbell queued => exact h.added attuned trades others hold waits doorbell queued
  | @finds e deadline p _ _ found queued =>
    obtain ⟨heading, hnodup, hheads, hlength⟩ := h
    refine ⟨heading.erase id, hnodup.erase id, fun t ht => ?_, ?_⟩
    · -- whoever has taken a message is not on the way any more
      obtain ⟨hne, hmem⟩ := hnodup.mem_erase_iff.mp ht
      exact headsFor_of_others trades others hne.symm (hheads t hmem)
    · by_cases heq : e = exchange
      · subst heq
        have hfound : (w.broker.queued e).length = (w'.broker.queued e).length + 1 :=
          congrArg List.length found
        have herased := heading.le_length_erase (a := id)
        omega
      · have hnot : id ∉ heading := fun hmem =>
          ne_of_headsFor (hheads id hmem) (not_headsFor_of_looking hold heq) rfl
        have hqueued : w'.broker.queued exchange = w.broker.queued exchange := queued exchange heq
        rw [List.erase_of_not_mem hnot, hqueued]
        omega
  | @listens e deadline empty _ exchanges =>
    by_cases heq : e = exchange
    · subst heq
      exact attended_of_empty ((queued_of_exchanges exchanges e).trans empty) _
    · exact h.others trades others (not_headsFor_of_looking hold heq)
        (by rw [queued_of_exchanges exchanges]; omega)
  | @wakes e deadline _ _ exchanges =>
    obtain ⟨heading, hnodup, hheads, hlength⟩ := h
    refine ⟨heading, hnodup, fun t ht => ?_, by rw [queued_of_exchanges exchanges]; omega⟩
    by_cases heq : id = t
    · -- whoever was woken stays on the way when it goes on
      subst heq
      rcases headsFor_iff.mp (hheads id ht) with ⟨_, hlooks⟩ | ⟨⟨_, hlistens⟩, -⟩
      · cases hold.symm.trans hlooks
      · cases hold.symm.trans hlistens
        exact headsFor_iff.mpr (.inl ⟨deadline, hnew⟩)
    · exact headsFor_of_others trades others heq (hheads t ht)
  | leaves unwoken _ exchanges =>
    exact h.others trades others (not_headsFor_of_unwoken hold unwoken)
      (by rw [queued_of_exchanges exchanges]; omega)

/-- Who begins to listen has found its exchange empty. -/
theorem queued_of_listens (trades : Trades w id w') (listens : w'.listensFor exchange id = true) :
    w'.broker.queued exchange = [] := by
  obtain ⟨deadline, hlistens⟩ := listensFor_iff.mp listens
  unfold Trades at trades
  rw [hlistens] at trades
  generalize w.poppingOf id = old at trades
  cases trades with
  | aside _ looks | finds _ _ _ looks | leaves _ _ _ looks => cases looks
  | listens empty _ exchanges => exact (queued_of_exchanges exchanges exchange).trans empty

/-- While somebody waits, the messages on its exchange are attended, but for as many as rings for
them went astray. -/
structure Rung (scenes : List Scene) (w : World) : Prop where
  attuned : w.Attuned
  attended : ∀ exchange, ∀ t ∈ w.doorbell.waiting, w.listensFor exchange t = true →
    w.Attended exchange (strayRings exchange t scenes)

/-- **A scene keeps that.** -/
theorem Rung.happen {happening : Happening} (h : Rung scenes w)
    (numbered : ∀ t, w.fresh ≤ t → w.stateOf t = none) (step : w.happen? happening = some w') :
    Rung (scenes ++ [⟨w, happening, w'⟩]) w' := by
  rcases trades_of_happen numbered step with ⟨hstall, hsame⟩ | ⟨id, trades, others⟩
  · have hdoorbell : w'.doorbell = w.doorbell := congrArg Stall.doorbell hstall
    have hqueued (e : String) : w'.broker.queued e = w.broker.queued e :=
      congrArg (Stall.queued · e) hstall
    have hlistens (e : String) (t : TaskId) : w'.listensFor e t = w.listensFor e t := by
      rw [listensFor, listensFor, hsame]
    refine ⟨⟨hdoorbell ▸ h.attuned.nodup, fun t => ?_⟩, fun exchange t waits listens => ?_⟩
    · rw [hdoorbell, hsame]
      exact h.attuned.listens t
    · rw [hdoorbell] at waits
      rw [hlistens] at listens
      obtain ⟨heading, hnodup, hheads, hlength⟩ := h.attended exchange t waits listens
      refine ⟨heading, hnodup, fun u hu => ?_, ?_⟩
      · rw [headsFor, hsame, hdoorbell]
        exact hheads u hu
      · rw [hqueued, strayRings_concat listens]
        omega
  · refine ⟨h.attuned.trades trades others, fun exchange t waits listens => ?_⟩
    by_cases heq : id = t
    · -- whoever has just begun to listen has found nothing, whatever went astray before
      subst heq
      exact attended_of_empty (queued_of_listens trades listens) _
    · have hwaits : t ∈ w.doorbell.waiting := Trade.mem_waiting trades heq waits
      have hlistens : w.listensFor exchange t = true := by
        rw [listensFor, others t heq] at listens
        exact listens
      rw [strayRings_concat hlistens]
      exact (h.attended exchange t hwaits hlistens).trades h.attuned trades others hwaits

/-- Whoever gives up has waited until then, and leaves everything as it is. -/
theorem Rung.gaveUp {deadline : Nat} (h : Rung scenes w) (trades : Trades w t w')
    (others : ∀ u, t ≠ u → w'.poppingOf u = w.poppingOf u)
    (listened : w.poppingOf t = some (.listening exchange deadline))
    (ended : w'.poppingOf t = none) : w'.Attended exchange (strayRings exchange t scenes) := by
  have htrade := trades
  unfold Trades at htrade
  rw [listened, ended] at htrade
  cases htrade with
  | leaves unwoken _ exchanges =>
    -- it listens and has not been woken, so it is one of those for whom the doorbell rings
    have hunwoken : t ∉ w.doorbell.woken := fun hmem =>
      Bool.false_ne_true (unwoken.symm.trans (Doorbell.hasWoken_iff.mpr hmem))
    have hwaits : t ∈ w.doorbell.waiting :=
      (List.mem_append.mp ((h.attuned.listens t).mpr ⟨_, _, listened⟩)).resolve_right hunwoken
    have hattended := h.attended exchange t hwaits (listensFor_iff.mpr ⟨deadline, listened⟩)
    refine hattended.others trades others (not_headsFor_of_unwoken listened unwoken)
      (Nat.le_of_eq ?_)
    rw [queued_of_exchanges exchanges]

end Attuned

end World

/-- In a play messages are left unattended only by rings that go astray. -/
theorem Play.rung {c : Config} {clockStart : Int} {ids : List MessageId} {scenes : List Scene}
    {w : World} (play : Play (.initial c clockStart ids) scenes w) : World.Rung scenes w := by
  induction play with
  | nil => exact ⟨.initial c clockStart ids, fun _ _ waits => absurd waits List.not_mem_nil⟩
  | snoc play step ih => exact ih.happen (play.since fun _ _ => rfl).1 step

/-! ## Giving up -/

/-- The task that gives up its wait for a message in a scene, and the exchange on which it waited.
-/
def Scene.gaveUp? (scene : Scene) : Option (TaskId × String) :=
  match scene.happening with
  | .turn t =>
    match scene.before.stateOf t, scene.after.stateOf t with
    | some (.running (.popping (.listening exchange _)) _), some (.ended (.publication none) _) =>
      some (t, exchange)
    | _, _ => none
  | _ => none

theorem Scene.of_gaveUp? {scene : Scene} {t : TaskId} {exchange : String}
    (h : scene.gaveUp? = some (t, exchange)) :
    scene.happening = .turn t ∧
      (∃ deadline, scene.before.poppingOf t = some (.listening exchange deadline)) ∧
        scene.after.poppingOf t = none := by
  unfold Scene.gaveUp? at h
  split at h
  · next u hhappening =>
    split at h
    · next exchange' deadline wait moment hbefore hafter =>
      cases h
      exact ⟨hhappening, ⟨deadline, World.poppingOf_of_stateOf hbefore⟩,
        World.poppingOf_of_stateOf hafter⟩
    · cases h
  · cases h

/-- **Of the messages that are on an exchange when a wait for one gives up, all but as many as rings
for messages there have gone astray while it listened have somebody each who is on the way to take
them.** So where no ring went astray and nobody else is on the way, there are none. -/
theorem left_when_given_up {c : Config} {clockStart : Int} {ids : List MessageId}
    {scenes later : List Scene} {scene : Scene} {w : World} {t : TaskId} {exchange : String}
    (play : Play (.initial c clockStart ids) (scenes ++ scene :: later) w)
    (gaveUp : scene.gaveUp? = some (t, exchange)) :
    (∃ heading : List TaskId, heading.Nodup ∧
        (∀ u ∈ heading, scene.after.headsFor exchange u = true) ∧
        (scene.after.broker.queued exchange).length ≤
          heading.length + strayRings exchange t scenes) ∧
      (strayRings exchange t scenes = 0 → (∀ u, scene.after.headsFor exchange u = false) →
        scene.after.broker.queued exchange = []) := by
  rw [List.append_cons] at play
  obtain ⟨_, hcall, -⟩ := play.split
  obtain ⟨hbefore, step, -⟩ := hcall.last
  obtain ⟨hturn, ⟨deadline, hlistens⟩, hended⟩ := Scene.of_gaveUp? gaveUp
  have hnumbered := (hbefore.since fun _ _ => rfl).1
  rw [hturn] at step
  have hothers (u : TaskId) (hne : t ≠ u) := (World.passage_of_happen hnumbered step).1.poppingOf
    hnumbered u fun h => hne (Option.some.inj h)
  have trades := World.trades_of_turn hnumbered step
  have hattended := hbefore.rung.gaveUp trades hothers hlistens hended
  refine ⟨hattended, fun astray nobody => ?_⟩
  obtain ⟨heading, -, hheads, hlength⟩ := hattended
  have hnone : heading = [] := List.eq_nil_iff_forall_not_mem.mpr fun u hu =>
    Bool.false_ne_true ((nobody u).symm.trans (hheads u hu))
  rw [hnone, astray] at hlength
  exact List.length_eq_zero_iff.mp (Nat.le_zero.mp hlength)

/-- Somebody waits on one exchange, and two wait on another. Two messages are published there: the
first ring wakes who waits elsewhere, the second one of the two, and the other gives up. -/
def strayedHappenings : List Happening :=
  [.begin (.insertMany 2), .turn 0,
    .begin (.pop (some "a") 1000), .turn 1, .turn 1,
    .begin (.pop (some "b") 2000), .turn 4, .turn 4,
    .begin (.pop (some "b") 1000), .turn 7, .turn 7,
    .begin (.publish (.ofNat 1) (some "b")), .turn 10,
    .begin (.publish (.ofNat 2) (some "b")), .turn 11,
    .wait 1000, .turn 7]

/-- Two wait on an exchange. A message is published there, one of the two takes it, and the other
gives up. -/
def sharedHappenings : List Happening :=
  [.begin (.insertMany 1), .turn 0,
    .begin (.pop (some "b") 2000), .turn 1, .turn 1,
    .begin (.pop (some "b") 1000), .turn 4, .turn 4,
    .begin (.publish (.ofNat 1) (some "b")), .turn 7, .turn 1, .turn 1,
    .wait 1000, .turn 4]

theorem left_when_given_up_in_turn :
    (∃ scenes scene w, Play (.initial .default 0 []) (scenes ++ [scene]) w ∧
      scene.gaveUp? = some (7, "b") ∧ strayRings "b" 7 scenes = 1 ∧
      (scene.after.broker.queued "b").length = 2 ∧
      ∃ heading : List TaskId, heading.Nodup ∧
        (∀ u ∈ heading, scene.after.headsFor "b" u = true) ∧ 2 ≤ heading.length + 1) ∧
    ∃ scenes scene w, Play (.initial .default 0 []) (scenes ++ [scene]) w ∧
      scene.gaveUp? = some (4, "b") ∧ strayRings "b" 4 scenes = 0 ∧
      (∀ u, scene.after.headsFor "b" u = false) ∧ scene.after.broker.queued "b" = [] := by
  constructor
  · obtain ⟨scenes, scene, w, play, gaveUp, astray, queued⟩ :=
      exists_lastScene strayedHappenings (w := .initial .default 0 []) (P := fun scenes scene =>
        scene.gaveUp? = some (7, "b") ∧ strayRings "b" 7 scenes = 1 ∧
          (scene.after.broker.queued "b").length = 2) (by decide +kernel)
    obtain ⟨heading, hnodup, hheads, hlength⟩ := (left_when_given_up play gaveUp).1
    rw [queued, astray] at hlength
    exact ⟨_, _, _, play, gaveUp, astray, queued, heading, hnodup, hheads, hlength⟩
  · obtain ⟨scenes, scene, w, play, gaveUp, astray, nobody⟩ :=
      exists_lastScene sharedHappenings (w := .initial .default 0 []) (P := fun scenes scene =>
        scene.gaveUp? = some (4, "b") ∧ strayRings "b" 4 scenes = 0 ∧
          ∀ u ∈ scene.after.tasks.keys, scene.after.headsFor "b" u = false) (by decide +kernel)
    have hnobody (u : TaskId) : scene.after.headsFor "b" u = false :=
      Bool.eq_false_iff.mpr fun h =>
        Bool.false_ne_true ((nobody u (World.mem_keys_of_headsFor h)).symm.trans h)
    exact ⟨_, _, _, play, gaveUp, astray, hnobody, (left_when_given_up play gaveUp).2 astray hnobody⟩

/-- A wait can give up while there is a message for it and nobody is on the way. -/
theorem not_forall_given_up_empty :
    ¬ ∀ (c : Config) (clockStart : Int) (ids : List MessageId) (scenes : List Scene) (w : World),
      Play (.initial c clockStart ids) scenes w → ∀ scene ∈ scenes, ∀ t exchange,
        scene.gaveUp? = some (t, exchange) → scene.after.broker.queued exchange = [] := by
  intro h
  obtain ⟨scenes, scene, w, play, gaveUp, queued⟩ :=
    exists_lastScene [.begin (.insertMany 1), .turn 0,
        .begin (.pop (some "a") 1000), .turn 1, .turn 1,
        .begin (.pop (some "b") 1000), .turn 4, .turn 4,
        .begin (.publish (.ofNat 1) (some "b")), .turn 7, .turn 1, .turn 1, .wait 1000, .turn 4]
      (w := .initial .default 0 []) (P := fun _ scene =>
        scene.gaveUp? = some (4, "b") ∧ (scene.after.broker.queued "b").length = 1)
      (by decide +kernel)
  have hmem : scene ∈ scenes ++ [scene] := List.mem_append_right _ (List.mem_singleton_self _)
  rw [h _ _ _ _ _ play scene hmem _ _ gaveUp] at queued
  cases queued

end Rehearsal

end Outbox
