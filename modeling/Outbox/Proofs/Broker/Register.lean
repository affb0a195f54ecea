import Outbox.Proofs.Broker.Operation
import Mathlib.Data.List.Induction
import Mathlib.Data.List.Perm.Basic
/-!
# `Proofs.Broker.Register` — the places of the receipts of a queue

Every receipt that is delivered on a queue has a *place*: the subscription to which it went, or the
backlog. A *register* keeps the places of all receipts of a queue in the order in which they were
delivered. It is written from what the operations report and knows nothing of buffers: a delivery
goes to the earliest subscription that is live, and to the backlog if there is none; a new
subscription takes over all that is in the backlog; and a receipt stays with its subscription for good.
-/

namespace Outbox.Broker

/-! ## The register of a queue -/

/-- What there is to know of a queue. -/
structure Register where
  /-- All subscriptions that were made to the queue, the earliest first. -/
  subscriptions : List StreamId
  /-- Those that have neither ended nor been given up. -/
  live : List StreamId
  /-- The receipts in the order in which they were delivered, each with the subscription to which it
  went, or with none if it is in the backlog. -/
  places : List (Receipt × Option StreamId)

namespace Register

/-- The register of a queue of which nothing is known. -/
def blank : Register :=
  ⟨[], [], []⟩

/-- The receipts that have a place. -/
def receiptsAt (g : Register) (place : Option StreamId) : List Receipt :=
  g.places.filterMap fun p => if p.2 = place then some p.1 else none

/-- Enters what has happened. -/
def enter (queue : String) (g : Register) : Event → Register
  | .delivered other r =>
    if other = queue then { g with places := g.places ++ [(r, g.live.head?)] } else g
  | .subscribed other id =>
    if other = queue then
      ⟨g.subscriptions ++ [id], g.live ++ [id], g.places.map fun p => (p.1, p.2.or (some id))⟩
    else g
  | .ended other => if other = queue then { g with live := [] } else g
  | .dropped id => { g with live := g.live.filter (· ≠ id) }
  | .received .. | .finished _ => g

end Register

/-- The register of a queue after all that has happened. -/
def register (queue : String) (events : List Event) : Register :=
  events.foldl (Register.enter queue) .blank

/-- What operations have done, as far as the receipts are concerned. -/
def events (trace : List Done) : List Event :=
  trace.filterMap Done.event?

/-- The receipts that were delivered on a queue. -/
def delivered (queue : String) (es : List Event) : List Receipt :=
  es.filterMap (Event.deliveredOn? queue)

/-- The receipts that were read from a subscription. -/
def received (id : StreamId) (es : List Event) : List Receipt :=
  es.filterMap (Event.receivedFrom? id)

section Register

variable {queue : String} {g : Register} {es : List Event} {e : Event} {id new : StreamId}
  {place : Option StreamId} {r : Receipt}

theorem events_snoc (trace : List Done) (done : Done) :
    events (trace ++ [done]) = events trace ++ done.event?.toList := by
  unfold events
  rw [List.filterMap_append]
  cases h : done.event? <;> simp [h]

theorem register_snoc (queue : String) (es : List Event) (e : Event) :
    register queue (es ++ [e]) = (register queue es).enter queue e := by
  unfold register
  rw [List.foldl_append]
  rfl

theorem delivered_snoc (queue : String) (es : List Event) (e : Event) :
    delivered queue (es ++ [e]) = delivered queue es ++ (e.deliveredOn? queue).toList := by
  unfold delivered
  rw [List.filterMap_append]
  cases h : e.deliveredOn? queue <;> simp [h]

theorem received_snoc (id : StreamId) (es : List Event) (e : Event) :
    received id (es ++ [e]) = received id es ++ (e.receivedFrom? id).toList := by
  unfold received
  rw [List.filterMap_append]
  cases h : e.receivedFrom? id <;> simp [h]

/-- The register lists the receipts that were delivered, each once. -/
theorem map_fst_places (queue : String) (es : List Event) :
    (register queue es).places.map Prod.fst = delivered queue es := by
  induction es using List.reverseRecOn with
  | nil => rfl
  | append_singleton es e ih =>
    rw [register_snoc, delivered_snoc, ← ih]
    cases e with
    | delivered other r =>
      simp only [Register.enter, Event.deliveredOn?]
      split <;> simp
    | subscribed other id =>
      simp only [Register.enter, Event.deliveredOn?]
      split
      · simp [Function.comp_def]
      · simp
    | ended other =>
      simp only [Register.enter, Event.deliveredOn?]
      split <;> simp
    | received | finished | dropped => simp [Register.enter, Event.deliveredOn?]

/-- A receipt is added at a place. -/
theorem receiptsAt_add (g : Register) (r : Receipt) (goal place : Option StreamId) :
    Register.receiptsAt { g with places := g.places ++ [(r, goal)] } place =
      g.receiptsAt place ++ if goal = place then [r] else [] := by
  unfold Register.receiptsAt
  rw [List.filterMap_append]
  by_cases h : goal = place <;> simp [h]

/-- A new subscription takes over the backlog. -/
theorem receiptsAt_takeOver (subscriptions live : List StreamId) (hnew : g.receiptsAt (some new) = [])
    (place : Option StreamId) :
    Register.receiptsAt
        ⟨subscriptions, live, g.places.map fun p => (p.1, p.2.or (some new))⟩ place =
      if place = none then [] else if place = some new then g.receiptsAt none
      else g.receiptsAt place := by
  unfold Register.receiptsAt at hnew ⊢
  rw [List.filterMap_map]
  cases place with
  | none =>
    rw [if_pos rfl, List.filterMap_eq_nil_iff]
    intro p _
    simp
  | some id =>
    rw [if_neg (Option.some_ne_none id)]
    split
    · next heq =>
      cases heq
      refine List.filterMap_congr fun p hp => ?_
      have hother : ¬ p.2 = some new := by
        have hnone := List.filterMap_eq_nil_iff.mp hnew p hp
        intro h
        simp [h] at hnone
      obtain ⟨r, place⟩ := p
      cases place with
      | none => simp
      | some other => simpa using hother
    · next hne =>
      refine List.filterMap_congr fun p _ => ?_
      obtain ⟨r, place⟩ := p
      cases place with
      | none =>
        have hne' : ¬ new = id := fun h => hne (h ▸ rfl)
        simp [hne']
      | some other => simp

end Register

/-! ## What a register says of itself -/

/-- The subscriptions that are live are among those that were made, in the same order; a receipt is
at one that was made; and what is live leaves nothing in the backlog. -/
structure Register.Sound (g : Register) : Prop where
  live : g.live.Sublist g.subscriptions
  placed : ∀ p ∈ g.places, ∀ id, p.2 = some id → id ∈ g.subscriptions
  attended : g.live ≠ [] → g.receiptsAt none = []

section Sound

variable {queue : String} {g : Register} {es : List Event} {id new : StreamId}

theorem Register.Sound.receiptsAt_eq_nil (hg : g.Sound) (hid : id ∉ g.subscriptions) :
    g.receiptsAt (some id) = [] := by
  refine List.filterMap_eq_nil_iff.mpr fun p hp => if_neg fun h => ?_
  exact hid (hg.placed p hp id h)

theorem Register.Sound.enter (hg : g.Sound) (queue : String) (e : Event)
    (fresh : ∀ id, e = .subscribed queue id → id ∉ g.subscriptions) :
    (g.enter queue e).Sound := by
  cases e with
  | delivered other r =>
    simp only [Register.enter]
    split
    · refine ⟨hg.live, ?_, ?_⟩
      · intro p hp id hid
        rcases List.mem_append.mp hp with hp | hp
        · exact hg.placed p hp id hid
        · rw [List.mem_singleton.mp hp] at hid
          exact hg.live.subset (List.mem_of_mem_head? hid)
      · intro hlive
        have hlive : g.live ≠ [] := hlive
        rw [receiptsAt_add, hg.attended hlive, if_neg]
        · rfl
        · simpa using hlive
    · exact hg
  | subscribed other new =>
    simp only [Register.enter]
    split
    · next heq =>
      subst heq
      refine ⟨hg.live.append (List.Sublist.refl _), ?_, ?_⟩
      · intro p hp id hid
        obtain ⟨⟨r, place⟩, hplace, rfl⟩ := List.mem_map.mp hp
        cases place with
        | none =>
          cases hid
          simp
        | some earlier => exact List.mem_append_left _ (hg.placed _ hplace id hid)
      · intro _
        rw [receiptsAt_takeOver _ _ (hg.receiptsAt_eq_nil (fresh new rfl)), if_pos rfl]
    · exact hg
  | ended other =>
    simp only [Register.enter]
    split
    · exact ⟨List.nil_sublist _, hg.placed, fun h => absurd rfl h⟩
    · exact hg
  | dropped id =>
    refine ⟨List.filter_sublist.trans hg.live, hg.placed, ?_⟩
    intro hlive
    refine hg.attended fun hnil => hlive ?_
    show g.live.filter _ = []
    rw [hnil]
    rfl
  | received | finished => exact hg

/-- One of several lists gets one element more. -/
theorem perm_flatMap_add {α β : Type} [DecidableEq α] (f : α → List β) (x : β) {key : α} {keys : List α}
    (hnodup : keys.Nodup) (hkey : key ∈ keys) :
    (keys.flatMap fun k => (if key = k then [x] else []) ++ f k).Perm (x :: keys.flatMap f) := by
  induction keys with
  | nil => cases hkey
  | cons first rest ih =>
    obtain ⟨hfirst, hrest⟩ := List.nodup_cons.mp hnodup
    rw [List.flatMap_cons, List.flatMap_cons]
    by_cases heq : key = first
    · subst heq
      have hsame : (rest.flatMap fun k => (if key = k then [x] else []) ++ f k) = rest.flatMap f := by
        refine List.flatMap_congr fun k hk => ?_
        have hne : ¬ key = k := fun h => hfirst (h ▸ hk)
        rw [if_neg hne]
        rfl
      rw [hsame, if_pos rfl]
      rfl
    · rw [if_neg heq]
      have hkey : key ∈ rest := (List.mem_cons.mp hkey).resolve_left heq
      exact ((ih hrest hkey).append_left (f first)).trans List.perm_middle

/-- Every receipt is at one place. -/
theorem Register.Sound.perm (hg : g.Sound) (hnodup : g.subscriptions.Nodup) :
    (g.places.map Prod.fst).Perm
      (g.receiptsAt none ++ g.subscriptions.flatMap fun id => g.receiptsAt (some id)) := by
  obtain ⟨subscriptions, live, places⟩ := g
  have hplaced := hg.placed
  clear hg
  induction places with
  | nil => simp [Register.receiptsAt]
  | cons p rest ih =>
    have ih := ih hnodup fun p hp => hplaced p (List.mem_cons_of_mem _ hp)
    have hp := hplaced p List.mem_cons_self
    have hcons (place : Option StreamId) :
        Register.receiptsAt ⟨subscriptions, live, p :: rest⟩ place =
          (if p.2 = place then [p.1] else []) ++
            Register.receiptsAt ⟨subscriptions, live, rest⟩ place := by
      unfold Register.receiptsAt
      by_cases h : p.2 = place <;> simp [h]
    simp only [hcons]
    obtain ⟨r, place⟩ := p
    cases place with
    | none => simpa using ih
    | some id =>
      have hadd := perm_flatMap_add
        (fun id => Register.receiptsAt ⟨subscriptions, live, rest⟩ (some id)) r hnodup (hp id rfl)
      simp only [reduceCtorEq, if_false, Option.some.injEq]
      exact (ih.cons r).trans ((List.perm_middle.symm).trans (hadd.symm.append_left _))


/-- Only a subscription to the queue is added to the subscriptions of the queue. -/
theorem subscriptions_enter (queue : String) (g : Register) (e : Event) :
    ((g.enter queue e).subscriptions = g.subscriptions ∧ ∀ id, e ≠ .subscribed queue id) ∨
    ∃ new, e = .subscribed queue new ∧ (g.enter queue e).subscriptions = g.subscriptions ++ [new] := by
  cases e with
  | subscribed other new =>
    simp only [Register.enter]
    split
    · next heq => exact .inr ⟨new, by rw [heq], rfl⟩
    · next hne =>
      refine .inl ⟨rfl, fun id h => ?_⟩
      cases h
      exact hne rfl
  | delivered | ended =>
    simp only [Register.enter]
    split <;> exact .inl ⟨rfl, fun _ h => (nomatch h)⟩
  | received | finished | dropped => exact .inl ⟨rfl, fun _ h => (nomatch h)⟩

/-- When no subscription is made twice, none was before, and a new one is new. -/
theorem nodup_enter {e : Event} (h : (g.enter queue e).subscriptions.Nodup) :
    g.subscriptions.Nodup ∧ ∀ id, e = .subscribed queue id → id ∉ g.subscriptions := by
  rcases subscriptions_enter queue g e with ⟨hsame, hnone⟩ | ⟨new, rfl, hadd⟩
  · rw [hsame] at h
    exact ⟨h, fun id he => absurd he (hnone id)⟩
  · rw [hadd] at h
    obtain ⟨hnodup, -, hapart⟩ := List.nodup_append.mp h
    refine ⟨hnodup, fun id he hid => ?_⟩
    cases he
    exact hapart new hid new List.mem_cons_self rfl

/-- The register is sound when no subscription is made twice. -/
theorem register_sound (hnodup : (register queue es).subscriptions.Nodup) :
    (register queue es).Sound := by
  induction es using List.reverseRecOn with
  | nil => exact ⟨List.nil_sublist _, fun _ h => (nomatch h), fun h => absurd rfl h⟩
  | append_singleton es e ih =>
    rw [register_snoc] at hnodup ⊢
    obtain ⟨hbefore, hnew⟩ := nodup_enter hnodup
    exact (ih hbefore).enter queue e hnew

/-- The receipts subscription by subscription, and then those in the backlog. -/
def Register.inTurn (g : Register) : List Receipt :=
  (g.subscriptions.flatMap fun id => g.receiptsAt (some id)) ++ g.receiptsAt none

theorem Register.Sound.inTurn_deliver (hg : g.Sound) (hnodup : g.subscriptions.Nodup) (r : Receipt)
    (last : ∀ id ∈ g.live, ∃ earlier, g.subscriptions = earlier ++ [id]) :
    Register.inTurn { g with places := g.places ++ [(r, g.live.head?)] } = g.inTurn ++ [r] := by
  unfold Register.inTurn
  simp only [receiptsAt_add]
  cases hlive : g.live with
  | nil => simp
  | cons first rest =>
    -- the receipt goes to the last subscription, and nothing is behind it in the backlog
    have hback : g.receiptsAt none = [] := hg.attended (by simp [hlive])
    obtain ⟨earlier, hsub⟩ := last first (by simp [hlive])
    rw [hsub] at hnodup ⊢
    have hother (id : StreamId) (hid : id ∈ earlier) : ¬ first = id := fun h =>
      (List.nodup_append.mp hnodup).2.2 id hid first List.mem_cons_self h.symm
    have hearlier : (earlier.flatMap fun id =>
        g.receiptsAt (some id) ++ if some first = some id then [r] else []) =
          earlier.flatMap fun id => g.receiptsAt (some id) := by
      refine List.flatMap_congr fun id hid => ?_
      simp [hother id hid]
    rw [List.head?_cons, List.flatMap_append, List.flatMap_append, hearlier, hback]
    simp

theorem Register.Sound.inTurn_takeOver (hg : g.Sound) (hnew : new ∉ g.subscriptions)
    (live : List StreamId) :
    Register.inTurn
      ⟨g.subscriptions ++ [new], live, g.places.map fun p => (p.1, p.2.or (some new))⟩ =
        g.inTurn := by
  unfold Register.inTurn
  simp only [receiptsAt_takeOver _ _ (hg.receiptsAt_eq_nil hnew)]
  have hold : (g.subscriptions.flatMap fun id =>
      if some id = none then [] else if some id = some new then g.receiptsAt none
      else g.receiptsAt (some id)) = g.subscriptions.flatMap fun id => g.receiptsAt (some id) := by
    refine List.flatMap_congr fun id hid => ?_
    have hne : ¬ id = new := fun h => hnew (h ▸ hid)
    simp [hne]
  rw [List.flatMap_append, hold]
  simp

/-- As long as no two subscriptions are live at a time, the receipts, subscription by subscription
and then those in the backlog, are in the order in which they were delivered. -/
theorem register_inTurn (hnodup : (register queue es).subscriptions.Nodup)
    (single : ∀ before later, es = before ++ later → (register queue before).live.length ≤ 1) :
    (∀ id ∈ (register queue es).live,
      ∃ earlier, (register queue es).subscriptions = earlier ++ [id]) ∧
    (register queue es).inTurn = delivered queue es := by
  induction es using List.reverseRecOn with
  | nil => exact ⟨fun _ h => (nomatch h), rfl⟩
  | append_singleton es e ih =>
    have hone := single _ [] (List.append_nil _).symm
    rw [register_snoc] at hnodup hone ⊢
    obtain ⟨hbefore, hnew⟩ := nodup_enter hnodup
    have hsound := register_sound hbefore
    obtain ⟨hlast, horder⟩ := ih hbefore fun before later h =>
      single before (later ++ [e]) (by rw [h, List.append_assoc])
    rw [delivered_snoc, ← horder]
    generalize register queue es = g at *
    cases e with
    | delivered other r =>
      simp only [Register.enter, Event.deliveredOn?]
      split
      · exact ⟨hlast, hsound.inTurn_deliver hbefore r hlast⟩
      · exact ⟨hlast, (List.append_nil _).symm⟩
    | subscribed other new =>
      simp only [Register.enter, Event.deliveredOn?] at hone ⊢
      split
      · next heq =>
        subst heq
        rw [if_pos rfl] at hone
        refine ⟨?_, (hsound.inTurn_takeOver (hnew new rfl) _).trans (List.append_nil _).symm⟩
        -- there is room for one live subscription only, and it is the new one
        have hnil : g.live = [] := by
          rw [← List.length_eq_zero_iff]
          simpa using hone
        intro id hid
        rw [hnil] at hid
        exact ⟨g.subscriptions, by rw [List.mem_singleton.mp hid]⟩
      · exact ⟨hlast, (List.append_nil _).symm⟩
    | ended other =>
      simp only [Register.enter, Event.deliveredOn?]
      split
      · exact ⟨fun _ h => (nomatch h), (List.append_nil _).symm⟩
      · exact ⟨hlast, (List.append_nil _).symm⟩
    | dropped id =>
      exact ⟨fun id hid => hlast id (List.mem_of_mem_filter hid), (List.append_nil _).symm⟩
    | received | finished => exact ⟨hlast, (List.append_nil _).symm⟩

end Sound

/-! ## What an event does to one subscription -/

section Enter

variable {queue : String} {g : Register} {es : List Event} {e : Event} {id : StreamId}

/-- A subscription that was made gets the receipts that it is given, and does not come to life
again. -/
theorem Register.Sound.enter_of_mem (hg : g.Sound) (hid : id ∈ g.subscriptions)
    (fresh : ∀ new, e = .subscribed queue new → new ∉ g.subscriptions) :
    (g.enter queue e).receiptsAt (some id) = g.receiptsAt (some id) ++ e.givenTo queue g.live id ∧
      (id ∈ (g.enter queue e).live → id ∈ g.live) := by
  cases e with
  | delivered other r =>
    simp only [Register.enter, Event.givenTo]
    by_cases heq : other = queue
    · simp only [heq, if_true, true_and]
      exact ⟨receiptsAt_add .., fun hlive => hlive⟩
    · simp only [heq, if_false, false_and]
      exact ⟨(List.append_nil _).symm, fun hlive => hlive⟩
  | subscribed other new =>
    simp only [Register.enter, Event.givenTo, List.append_nil]
    split
    · next heq =>
      subst heq
      have hnew := fresh new rfl
      have hne : ¬ id = new := fun heq => hnew (heq ▸ hid)
      constructor
      · rw [receiptsAt_takeOver _ _ (hg.receiptsAt_eq_nil hnew)]
        simp [hne]
      · simp [hne]
    · exact ⟨rfl, fun hlive => hlive⟩
  | ended other =>
    simp only [Register.enter, Event.givenTo, List.append_nil]
    split
    · exact ⟨rfl, fun hlive => absurd hlive List.not_mem_nil⟩
    · exact ⟨rfl, fun hlive => hlive⟩
  | dropped other => exact ⟨(List.append_nil _).symm, List.mem_of_mem_filter⟩
  | received | finished => exact ⟨(List.append_nil _).symm, fun hlive => hlive⟩

/-- A subscription that is not live is given nothing. -/
theorem givenTo_of_not_live {live : List StreamId} (hlive : id ∉ live) :
    e.givenTo queue live id = [] := by
  cases e with
  | delivered other r => exact if_neg fun h => hlive (List.mem_of_mem_head? h.2)
  | _ => rfl

theorem register_of_not_live (sound : (register queue es).Sound)
    (hid : id ∈ (register queue es).subscriptions) (hlive : id ∉ (register queue es).live)
    (fresh : ∀ new, e = .subscribed queue new → new ∉ (register queue es).subscriptions) :
    id ∉ (register queue (es ++ [e])).live ∧
      (register queue (es ++ [e])).receiptsAt (some id) =
        (register queue es).receiptsAt (some id) := by
  obtain ⟨hreceipts, hkept⟩ := sound.enter_of_mem hid fresh
  rw [register_snoc, hreceipts, givenTo_of_not_live hlive, List.append_nil]
  exact ⟨fun h => hlive (hkept h), rfl⟩

end Enter

end Outbox.Broker
