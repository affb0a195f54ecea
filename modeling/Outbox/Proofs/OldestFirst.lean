import Outbox.Proofs.MessageLives
/-!
# `Proofs.OldestFirst` — a fetch takes the oldest messages

The messages that wait to be fetched stand in a queue. The place of a message in it is that of the
first insertion under its identifier, whatever was claimed, released, updated or inserted again in
the meantime. A fetch takes from the front of this queue, and claiming is all that it does. So the
queue after a fetch is what was behind the messages taken, and two fetches take what one fetch of as
many messages takes. All this is so of fetches for which there is room: one that asks for more than
that crashes its caller, however few messages there are.
-/

namespace Outbox.Store

/-- The message under an identifier, if it is pending and not claimed. -/
def waiting? (s : Store) (id : MessageId) : Option Message :=
  (s.messages.get? id).filter fun m => m.status == .pending && !s.claimed.contains id

/-- The queue of the messages to be fetched: of the identifiers inserted, each at the place of its
first insertion, the messages that are pending and not claimed. -/
def waiting (s : Store) (inserted : List MessageId) : List Message :=
  inserted.eraseDups.filterMap s.waiting?

section Waiting

variable {s s' : Store} {trace : List Done} {inserted : List MessageId} {m : Message}

/-! ## The insertions are what the store lists -/

/-- No operation but an insertion does anything to the list. -/
theorem Does.order {done : Done} (h : Does s s' done) (hnone : done.inserted? = none) :
    s'.order = s.order := by
  cases h with
  | placed => cases hnone
  | drawn h | moved h | released h | same h => exact h.order

/-- The list of a store grows by what is inserted. -/
theorem Performed.order (h : Performed s trace s') (hs : s.Keyed) :
    s'.order = s.order ++ insertions trace := by
  induction h with
  | nil => exact (List.append_nil _).symm
  | @cons s s₁ s' op answer trace hdone _ ih =>
    have hdoes := does_of_perform hs hdone
    have hstep : s₁.order = s.order ++ (Done.inserted? ⟨op, answer⟩).toList := by
      cases op with
      | insert id draft now =>
        cases hdone
        rfl
      | _ => exact (hdoes.order rfl).trans (List.append_nil _).symm
    rw [ih (hdoes.keyed hs), hstep, insertions_cons, List.append_assoc]

/-! ## The queue -/

theorem waiting?_eq (s : Store) (id : MessageId) : s.waiting? id =
    (s.messages.get? id).filter fun m => m.status = .pending ∧ id ∉ s.claimed := by
  unfold waiting?
  congr 1
  funext m
  rw [Bool.decide_and, decide_not, List.contains_eq_mem, beq_eq_decide]

theorem waiting?_eq_some {id : MessageId} : s.waiting? id = some m ↔
    s.messages.get? id = some m ∧ m.status = .pending ∧ id ∉ s.claimed := by
  rw [waiting?_eq, Option.filter_eq_some_iff, decide_eq_true_iff]

/-- The messages in the queue are those that are pending, not claimed, and kept under an identifier
that was inserted. -/
theorem mem_waiting (hs : s.Keyed) : m ∈ s.waiting inserted ↔
    m.id ∈ inserted ∧ s.messages.get? m.id = some m ∧ m.status = .pending ∧ m.id ∉ s.claimed := by
  rw [waiting, List.mem_filterMap]
  constructor
  · rintro ⟨id, hid, hentry⟩
    obtain ⟨hfound, hopen⟩ := waiting?_eq_some.mp hentry
    obtain rfl : m.id = id := hs id m hfound
    exact ⟨List.mem_eraseDups.mp hid, hfound, hopen⟩
  · rintro ⟨hid, hopen⟩
    exact ⟨m.id, List.mem_eraseDups.mpr hid, waiting?_eq_some.mpr hopen⟩

/-- Taking out repeats leaves the first of each, so it makes no difference whether that is done
before or after some identifiers are left out. -/
theorem eraseDups_filter (ids : List MessageId) (p : MessageId → Bool) :
    (ids.filter p).eraseDups = ids.eraseDups.filter p := by
  cases ids with
  | nil => rfl
  | cons id rest =>
    rw [List.eraseDups_cons]
    have hrest := eraseDups_filter (rest.filter fun other => !other == id) p
    by_cases hid : p id
    · rw [List.filter_cons_of_pos hid, List.filter_cons_of_pos hid, List.eraseDups_cons, ← hrest,
        List.filter_filter, List.filter_filter]
      simp only [Bool.and_comm]
    · have hothers : (rest.filter fun other => !other == id).filter p = rest.filter p := by
        rw [List.filter_filter]
        refine List.filter_congr fun other _ => ?_
        by_cases hother : other = id
        · simp [hother, hid]
        · simp [hother]
      rw [List.filter_cons_of_neg hid, List.filter_cons_of_neg hid, ← hrest, hothers]
termination_by ids.length
decreasing_by exact Nat.lt_succ_of_le (List.length_filter_le ..)

/-- The identifiers in the queue stand in the order of their first insertion. -/
theorem waiting_ids (hs : s.Keyed) : (s.waiting inserted).map Message.id =
    inserted.eraseDups.filter fun id => s.status? id = some .pending ∧ id ∉ s.claimed := by
  rw [waiting, List.map_filterMap, ← List.filterMap_eq_filter]
  refine List.filterMap_congr fun id _ => ?_
  cases hfound : s.messages.get? id with
  | none => simp [waiting?_eq, status?, hfound, Option.guard]
  | some m =>
    have hkey : m.id = id := hs id m hfound
    simp only [waiting?_eq, status?, hfound, Option.map_some, Option.some_inj, Option.guard,
      Option.filter_some]
    split
    · exact congrArg some hkey
    · rfl

theorem nodup_waiting (hs : s.Keyed) : ((s.waiting inserted).map Message.id).Nodup := by
  rw [waiting_ids hs]
  exact (nodup_eraseDups inserted).filter _

/-! ## What a fetch takes -/

/-- Claiming returns the messages as the store has them. -/
theorem found_of_claim {messages : Table MessageId Message}
    (hs : ∀ id m, messages.get? id = some m → m.id = id) (limit : Nat)
    (ids claimed : List MessageId) (hm : m ∈ (claim messages limit ids claimed).1) :
    messages.get? m.id = some m := by
  induction ids generalizing limit claimed with
  | nil => cases limit <;> cases hm
  | cons id rest ih =>
    cases limit with
    | zero => cases hm
    | succ limit =>
      rw [claim] at hm
      split at hm
      · exact ih _ _ hm
      · split at hm
        · next first hfirst =>
          split at hm
          · rcases List.mem_cons.mp hm with rfl | hm
            · rwa [hs id m hfirst]
            · exact ih _ _ hm
          · exact ih _ _ hm
        · exact ih _ _ hm

/-- A list of messages as the store has them is told by their identifiers. -/
theorem eq_of_ids {xs ys : List Message} (hxs : ∀ m ∈ xs, s.messages.get? m.id = some m)
    (hys : ∀ m ∈ ys, s.messages.get? m.id = some m)
    (hids : xs.map Message.id = ys.map Message.id) : xs = ys := by
  have hlook {zs : List Message} (hzs : ∀ m ∈ zs, s.messages.get? m.id = some m) :
      (zs.map Message.id).map s.messages.get? = zs.map some := by
    rw [List.map_map]
    exact List.map_congr_left hzs
  apply List.map_injective_iff.mpr fun _ _ => Option.some.inj
  rw [← hlook hxs, ← hlook hys, hids]

/-- **A fetch takes from the front of the queue**, and claims what it takes. -/
theorem fetch_waiting (hs : s.Keyed) (quiet : s.failures = 0) (listed : s.order = inserted)
    (limit : Nat) : s.fetch limit = (.ok ((s.waiting inserted).take limit), { s with
      claimed := s.claimed ++ ((s.waiting inserted).take limit).map Message.id }) := by
  subst listed
  obtain ⟨hids, hclaimed⟩ := claim_ids hs limit s.order s.claimed
  have hbatch : (claim s.messages limit s.order s.claimed).1 = (s.waiting s.order).take limit := by
    apply eq_of_ids (fun m hm => found_of_claim hs limit _ _ hm)
    · intro m hm
      exact ((mem_waiting hs).mp (List.mem_of_mem_take hm)).2.1
    · rw [hids, List.map_take, waiting_ids hs, eraseDups_filter]
  rw [fetch, attempt, if_neg (by rw [quiet]; exact Nat.lt_irrefl 0), ← hbatch, ← hclaimed]

/-- A further claim on some messages takes these out of the queue. -/
theorem waiting_claim (hs : s.Keyed) (ids : List MessageId) :
    ({ s with claimed := s.claimed ++ ids }).waiting inserted =
      (s.waiting inserted).filter fun m => m.id ∉ ids := by
  rw [waiting, waiting, List.filter_filterMap]
  refine List.filterMap_congr fun id _ => ?_
  cases hfound : s.messages.get? id with
  | none => simp [waiting?_eq, hfound]
  | some m =>
    obtain rfl : m.id = id := hs id m hfound
    by_cases hopen : m.status = .pending ∧ m.id ∉ s.claimed
    · simp [waiting?_eq, hfound, hopen, Option.filter_some]
    · have hstill : ¬ (m.status = .pending ∧ m.id ∉ s.claimed ++ ids) :=
        fun h => hopen ⟨h.1, fun hclaimed => h.2 (List.mem_append_left _ hclaimed)⟩
      simp only [waiting?_eq, hfound, Option.filter_some, hopen, hstill, decide_false,
        Bool.false_eq_true, if_false, Option.filter_none]

/-- What is left of the queue when the front of it is claimed is what was behind. -/
theorem waiting_taken (hs : s.Keyed) (taken : Nat) :
    ({ s with claimed := s.claimed ++ ((s.waiting inserted).take taken).map Message.id }).waiting
      inserted = (s.waiting inserted).drop taken := by
  have hnodup : ((s.waiting inserted).map Message.id).Nodup := nodup_waiting hs
  rw [waiting_claim hs]
  generalize s.waiting inserted = queue at hnodup ⊢
  rw [← List.take_append_drop taken queue, List.map_append, List.nodup_append] at hnodup
  obtain ⟨-, -, hapart⟩ := hnodup
  set front := queue.take taken
  have hfront : front.filter (fun m => m.id ∉ front.map Message.id) = [] := by
    rw [List.filter_eq_nil_iff]
    intro m hm hout
    exact of_decide_eq_true hout (List.mem_map_of_mem hm)
  have hback : (queue.drop taken).filter (fun m => m.id ∉ front.map Message.id) =
      queue.drop taken := by
    rw [List.filter_eq_self]
    intro m hm
    exact decide_eq_true fun hfront => hapart _ hfront _ (List.mem_map_of_mem hm) rfl
  calc queue.filter (fun m => m.id ∉ front.map Message.id)
      = (front ++ queue.drop taken).filter (fun m => m.id ∉ front.map Message.id) := by
        rw [List.take_append_drop]
    _ = queue.drop taken := by rw [List.filter_append, hfront, hback, List.nil_append]

end Waiting

/-- **A fetch takes the oldest.** In every store that operations have led to, and unless the fetch is
made to fail, the messages that are pending and not claimed stand in the order in which their
identifiers were first inserted, those released in their old place. A fetch for which there is room
returns the first of them, as many as it may and there are, and does nothing but claim them; a fetch
for which there is none crashes its caller and does nothing at all. So two fetches return, one after
the other, what one fetch of as many messages returns if there is room for that, and leave the same
store. -/
theorem fetch_oldest_first {trace : List Done} {s : Store} (h : Performed .empty trace s)
    (quiet : s.failures = 0) :
    (∀ m, m ∈ s.waiting (insertions trace) ↔
      s.messages.get? m.id = some m ∧ m.status = .pending ∧ m.id ∉ s.claimed) ∧
    ((s.waiting (insertions trace)).map Message.id).Sublist (insertions trace).eraseDups ∧
    (∀ limit, s.fetch? limit =
      if limit ≤ room then
        some (.ok ((s.waiting (insertions trace)).take limit), { s with
          claimed := s.claimed ++ ((s.waiting (insertions trace)).take limit).map Message.id })
      else none) ∧
    ∀ a b, a + b ≤ room → ∃ first second s₁ s₂, s.fetch? a = some (.ok first, s₁) ∧
      s₁.fetch? b = some (.ok second, s₂) ∧ s.fetch? (a + b) = some (.ok (first ++ second), s₂) := by
  have hs : s.Keyed := h.keyed keyed_empty
  have hlisted : s.order = insertions trace := h.order keyed_empty
  have hfetch := fetch_waiting hs quiet hlisted
  refine ⟨fun m => ?_, ?_, fun limit => ?_, fun a b fits => ?_⟩
  · rw [mem_waiting hs]
    refine ⟨And.right, fun hm => ⟨?_, hm⟩⟩
    -- under an identifier never inserted there is nothing
    by_contra hnever
    have habsent := h.absent hnever (Table.get?_empty m.id)
    rw [hm.1] at habsent
    cases habsent
  · rw [waiting_ids hs]
    exact List.filter_sublist
  · split
    · next fits => rw [fetch?_of_le fits, hfetch]
    · next lacks => exact fetch?_eq_none_iff.mpr ⟨quiet, Nat.lt_of_not_le lacks⟩
  · -- the second fetch finds the store as the first has left it, with further claims only
    have hsecond (claimed : List MessageId) :=
      fetch_waiting (s := { s with claimed }) (hs.of_messages rfl) quiet hlisted b
    have ha : a ≤ room := Nat.le_trans (Nat.le_add_right a b) fits
    have hb : b ≤ room := Nat.le_trans (Nat.le_add_left b a) fits
    refine ⟨_, _, _, _, (fetch?_of_le ha).trans (congrArg some (hfetch a)),
      (fetch?_of_le hb).trans (congrArg some (hsecond _)), ?_⟩
    rw [fetch?_of_le fits, hfetch, waiting_taken hs]
    simp only [List.append_assoc, ← List.map_append, ← List.take_add]

/-- Three messages are fetched. The first is published and its identifier given out again, and the
second is released. -/
def returned : List Done :=
  let m (n : Nat) := Message.ofDraft (.ofNat n) default .epoch
  [⟨.insert (.ofNat 1) default .epoch, m 1⟩,
    ⟨.insert (.ofNat 2) default .epoch, m 2⟩,
    ⟨.insert (.ofNat 3) default .epoch, m 3⟩,
    ⟨.fetch 3, Except.ok [m 1, m 2, m 3]⟩,
    ⟨.update (.ofNat 1) .enqueued .epoch, Except.ok ⟨.ofNat 1, .pending, .enqueued⟩⟩,
    ⟨.insert (.ofNat 4) default .epoch, m 4⟩,
    ⟨.insert (.ofNat 1) default .epoch, m 1⟩,
    ⟨.release [.ofNat 2], Except.ok ()⟩]

theorem fetch_oldest_first_returned : ∃ s, Performed .empty returned s ∧ s.failures = 0 ∧
    (s.waiting (insertions returned)).map Message.id = [.ofNat 1, .ofNat 2, .ofNat 4] ∧
    ∃ batch s', s.fetch? 2 = some (.ok batch, s') ∧ batch.map Message.id = [.ofNat 1, .ofNat 2] ∧
      s'.claimed = [.ofNat 3, .ofNat 1, .ofNat 2] := by
  have h : Performed .empty returned _ :=
    .cons rfl (.cons rfl (.cons rfl (.cons rfl (.cons rfl (.cons rfl (.cons rfl (.cons rfl .nil)))))))
  obtain ⟨-, -, hfetch, -⟩ := fetch_oldest_first h rfl
  exact ⟨_, h, rfl, by decide +kernel, _, _, (hfetch 2).trans (if_pos (by decide)),
    by decide +kernel, by decide +kernel⟩

/-- One message is there to be fetched. -/
def lone : List Done :=
  [⟨.insert (.ofNat 1) default .epoch, Message.ofDraft (.ofNat 1) default .epoch⟩]

/-- A fetch that may return `2 ^ 62` messages crashes where there is one; and two fetches of up to
`2 ^ 55` messages have their answers where one of as many as both may return crashes. -/
theorem fetch_crashes_without_room : ∃ s, Performed .empty lone s ∧ s.failures = 0 ∧
    (s.waiting (insertions lone)).map Message.id = [.ofNat 1] ∧ s.fetch? (2 ^ 62) = none ∧
    (∃ batch s', s.fetch? (2 ^ 55) = some (.ok batch, s') ∧ (s'.fetch? (2 ^ 55)).isSome = true) ∧
    s.fetch? (2 ^ 55 + 2 ^ 55) = none := by
  have h : Performed .empty lone _ := .cons rfl .nil
  have hroom (s : Store) : s.fetch? (2 ^ 55) = some (s.fetch (2 ^ 55)) :=
    fetch?_of_le (by decide)
  refine ⟨_, h, rfl, by decide +kernel, fetch?_eq_none_iff.mpr ⟨rfl, by decide⟩,
    ⟨_, _, hroom _, ?_⟩, fetch?_eq_none_iff.mpr ⟨rfl, by decide⟩⟩
  rw [hroom]
  rfl

end Outbox.Store
