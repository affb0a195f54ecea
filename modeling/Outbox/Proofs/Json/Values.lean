import Outbox.Proofs.Json.Reading
/-!
# `Proofs.Json.Values` — the values that a text can give

What the reader accepts is looser than what the printer writes, but the values that it gives are no
others than values that can be written and read again: they are nested no deeper than it goes, and
their integers lie in the range of integers. The numbers are followed from the numerals through
the tokens and the tree into the value, none of them changed on the way.
-/

namespace Outbox.Json

/-! ## The numbers of a text -/

/-- An integer from `-2 ^ 63` to below `2 ^ 64`, or any double. -/
def Number.InRange : Number → Prop
  | .integer n => -2 ^ 63 ≤ n ∧ n < 2 ^ 64
  | .double _ => True

/-- A numeral stands for an integer exactly if it has neither a fraction nor an exponent, lies in
the range of integers, and has no sign before zero. -/
theorem Numeral.number?_eq_integer_iff {numeral : Numeral} {n : Int} :
    numeral.number? = some (.integer n) ↔
      numeral.fraction = none ∧ numeral.exponent = none ∧
        n = (if numeral.negative then -(Text.Digits.read numeral.whole : Int)
          else Text.Digits.read numeral.whole) ∧
        (numeral.negative = true → n ≠ 0) ∧ Number.InRange (.integer n) := by
  have hdouble : ¬(numeral.toDouble?.map Number.double = some (.integer n)) := by
    cases numeral.toDouble? <;> simp
  simp only [Numeral.number?, Number.InRange, Bool.and_eq_true, Option.isNone_iff_eq_none]
  constructor
  · intro h
    split_ifs at h with hplain hnegative hwhole hwhole
    · cases h
      simp only [decide_eq_true_eq] at hwhole
      refine ⟨hplain.1, hplain.2, (if_pos hnegative).symm, fun _ => ?_, ?_⟩ <;> omega
    · exact absurd h hdouble
    · cases h
      refine ⟨hplain.1, hplain.2, (if_neg hnegative).symm, fun h => absurd h hnegative, ?_⟩
      omega
    · exact absurd h hdouble
    · exact absurd h hdouble
  · rintro ⟨hfraction, hexponent, hn, hzero, hrange⟩
    rw [if_pos ⟨hfraction, hexponent⟩]
    split_ifs at hn ⊢ with hnegative hwhole hwhole <;> subst hn
    · rfl
    · simp only [decide_eq_true_eq] at hwhole
      have := hzero hnegative
      omega
    · rfl
    · omega

/-- The number that a numeral stands for is in range. -/
theorem Numeral.inRange_of_number? {numeral : Numeral} {n : Number}
    (h : numeral.number? = some n) : n.InRange := by
  cases n with
  | integer n => exact (Numeral.number?_eq_integer_iff.mp h).2.2.2.2
  | double => trivial

/-- The numbers among tokens. -/
def Token.numbers (ts : List Token) : List Number :=
  ts.filterMap fun
    | .number n => n
    | _ => none

/-- Tokens whose numbers are in range. -/
def Token.InRange (ts : List Token) : Prop :=
  ∀ n ∈ Token.numbers ts, n.InRange

theorem Token.inRange_append {ts us : List Token} (ht : Token.InRange ts) (hu : Token.InRange us) :
    Token.InRange (ts ++ us) := fun n hn => by
  rw [Token.numbers, List.filterMap_append] at hn
  exact (List.mem_append.mp hn).elim (ht n) (hu n)

/-- Tokens among which there is no number. -/
theorem Token.inRange_of_numbers {ts : List Token} (h : Token.numbers ts = []) :
    Token.InRange ts := fun n hn => by
  rw [h] at hn
  cases hn

theorem inRange_of_literalToken? {word : List Char} {t : Token} (h : literalToken? word = some t) :
    Token.InRange [t] := by
  rw [literalToken?] at h
  split_ifs at h <;> cases h <;> exact Token.inRange_of_numbers rfl

theorem inRange_of_numberToken? {word : List Char} {t : Token} (h : numberToken? word = some t) :
    Token.InRange [t] := by
  obtain ⟨numeral, -, rfl⟩ := Option.map_eq_some_iff.mp h
  intro n hn
  have hn : numeral.number? = some n := by simpa [Token.numbers] using hn
  exact Numeral.inRange_of_number? hn

theorem inRange_of_textToken? {inside : List Char} {t : Token} (h : textToken? inside = some t) :
    Token.InRange [t] := by
  obtain ⟨ps, -, rfl⟩ := Option.map_eq_some_iff.mp h
  exact Token.inRange_of_numbers rfl

theorem inRange_of_begin? {c : Char} {mode : Mode} {ts : List Token}
    (h : begin? c = some (mode, ts)) : Token.InRange ts := by
  rw [begin?] at h
  split_ifs at h
  iterate 4
    cases h
    exact Token.inRange_of_numbers rfl
  obtain ⟨t, ht, h⟩ := Option.map_eq_some_iff.mp h
  cases h
  rw [markToken?.eq_def] at ht
  split at ht <;> cases ht <;> exact Token.inRange_of_numbers rfl

/-- A token that ends where the next one begins. -/
theorem inRange_of_end? {t? : Option Token} {c : Char} {mode : Mode} {ts : List Token}
    (ht : ∀ t ∈ t?, Token.InRange [t])
    (h : (do
      let t ← t?
      let (mode, ts) ← begin? c
      return (mode, t :: ts)) = some (mode, ts)) : Token.InRange ts := by
  obtain ⟨t, ht?, h⟩ := Option.bind_eq_some_iff.mp h
  obtain ⟨⟨next, more⟩, hbegin, h⟩ := Option.bind_eq_some_iff.mp h
  cases h
  exact Token.inRange_append (ht t ht?) (inRange_of_begin? hbegin)

theorem Mode.inRange_of_next? {mode next : Mode} {c : Char} {ts : List Token}
    (h : mode.next? c = some (next, ts)) : Token.InRange ts := by
  cases mode with
  | gap => exact inRange_of_begin? h
  | literal read =>
    rw [Mode.next?] at h
    split_ifs at h
    · cases h
      exact Token.inRange_of_numbers rfl
    · exact inRange_of_end? (fun _ => inRange_of_literalToken?) h
  | numeral read =>
    rw [Mode.next?] at h
    split_ifs at h
    · cases h
      exact Token.inRange_of_numbers rfl
    · exact inRange_of_end? (fun _ => inRange_of_numberToken?) h
  | text read =>
    rw [Mode.next?] at h
    split_ifs at h
    · obtain ⟨t, ht, h⟩ := Option.map_eq_some_iff.mp h
      cases h
      exact inRange_of_textToken? ht
    iterate 2
      cases h
      exact Token.inRange_of_numbers rfl
  | escape read =>
    rw [Mode.next?] at h
    split_ifs at h
    cases h
    exact Token.inRange_of_numbers rfl

theorem Mode.inRange_of_finish? {mode : Mode} {ts : List Token} (h : mode.finish? = some ts) :
    Token.InRange ts := by
  cases mode with
  | gap =>
    cases h
    exact Token.inRange_of_numbers rfl
  | literal read =>
    obtain ⟨t, ht, rfl⟩ := Option.map_eq_some_iff.mp h
    exact inRange_of_literalToken? ht
  | numeral read =>
    obtain ⟨t, ht, rfl⟩ := Option.map_eq_some_iff.mp h
    exact inRange_of_numberToken? ht
  | text | escape => cases h

/-- The numbers among the tokens of a text are in range. -/
theorem Mode.inRange_of_tokens? {mode : Mode} {text : List Char} {ts : List Token}
    (h : mode.tokens? text = some ts) : Token.InRange ts := by
  induction text generalizing mode ts with
  | nil => exact Mode.inRange_of_finish? h
  | cons c rest ih =>
    obtain ⟨⟨next, first⟩, hnext, h⟩ := Option.bind_eq_some_iff.mp h
    obtain ⟨more, hmore, h⟩ := Option.bind_eq_some_iff.mp h
    cases h
    exact Token.inRange_append (Mode.inRange_of_next? hnext) (ih hmore)

/-! ## The numbers of a tree -/

namespace Tree

mutual
/-- The numbers of a tree that have a value. -/
def numbers : Tree → List Number
  | .null | .bool _ | .text _ => []
  | .number n => n.toList
  | .array items => itemsNumbers items
  | .object members => membersNumbers members

/-- The numbers of a list of trees. -/
def itemsNumbers : List Tree → List Number
  | [] => []
  | item :: rest => numbers item ++ itemsNumbers rest

/-- The numbers of a list of members. -/
def membersNumbers : List (Option String × Tree) → List Number
  | [] => []
  | member :: rest => memberNumbers member ++ membersNumbers rest

/-- The numbers of a member. -/
def memberNumbers : Option String × Tree → List Number
  | (_, item) => numbers item
end

variable {fuel : Nat} {ts rest : List Token}

/-- A first token that is no number goes by without a number. -/
theorem numbers_cons {t : Token} (h : Token.numbers [t] = []) :
    Token.numbers (t :: ts) = Token.numbers ts := by
  rw [← List.singleton_append, Token.numbers, List.filterMap_append]
  exact congrArg (· ++ Token.numbers ts) h

mutual
/-- The numbers of a tree are those of the tokens that it is read from. -/
theorem numbers_of_read? (fuel : Nat) {ts rest : List Token} {tree : Tree}
    (h : read? fuel ts = some (tree, rest)) :
    Token.numbers ts = tree.numbers ++ Token.numbers rest := by
  rw [read?.eq_def] at h
  split at h
  case h_3 n _ =>
    cases h
    cases n <;> rfl
  case h_6 fuel ts _ =>
    obtain ⟨⟨item, us⟩, hitem, h⟩ := Option.bind_eq_some_iff.mp h
    obtain ⟨⟨items, vs⟩, hitems, h⟩ := Option.bind_eq_some_iff.mp h
    cases h
    rw [numbers_cons rfl, numbers_of_read? fuel hitem, numbers_of_readItems? fuel hitems,
      ← List.append_assoc]
    rfl
  case h_8 fuel ts _ =>
    obtain ⟨⟨member, us⟩, hmember, h⟩ := Option.bind_eq_some_iff.mp h
    obtain ⟨⟨members, vs⟩, hmembers, h⟩ := Option.bind_eq_some_iff.mp h
    cases h
    rw [numbers_cons rfl, numbers_of_readMember? fuel hmember,
      numbers_of_readMembers? fuel hmembers, ← List.append_assoc]
    rfl
  all_goals cases h <;> rfl

theorem numbers_of_readItems? (fuel : Nat) {ts rest : List Token} {items : List Tree}
    (h : readItems? fuel ts = some (items, rest)) :
    Token.numbers ts = itemsNumbers items ++ Token.numbers rest := by
  rw [readItems?.eq_def] at h
  split at h
  case h_2 fuel ts =>
    obtain ⟨⟨item, us⟩, hitem, h⟩ := Option.bind_eq_some_iff.mp h
    obtain ⟨⟨items, vs⟩, hitems, h⟩ := Option.bind_eq_some_iff.mp h
    cases h
    rw [numbers_cons rfl, numbers_of_read? fuel hitem, numbers_of_readItems? fuel hitems,
      ← List.append_assoc]
    rfl
  all_goals cases h <;> rfl

theorem numbers_of_readMembers? (fuel : Nat) {ts rest : List Token}
    {members : List (Option String × Tree)}
    (h : readMembers? fuel ts = some (members, rest)) :
    Token.numbers ts = membersNumbers members ++ Token.numbers rest := by
  rw [readMembers?.eq_def] at h
  split at h
  case h_2 fuel ts =>
    obtain ⟨⟨member, us⟩, hmember, h⟩ := Option.bind_eq_some_iff.mp h
    obtain ⟨⟨members, vs⟩, hmembers, h⟩ := Option.bind_eq_some_iff.mp h
    cases h
    rw [numbers_cons rfl, numbers_of_readMember? fuel hmember,
      numbers_of_readMembers? fuel hmembers, ← List.append_assoc]
    rfl
  all_goals cases h <;> rfl

theorem numbers_of_readMember? (fuel : Nat) {ts rest : List Token}
    {member : Option String × Tree} (h : readMember? fuel ts = some (member, rest)) :
    Token.numbers ts = memberNumbers member ++ Token.numbers rest := by
  rw [readMember?.eq_def] at h
  split at h
  case h_1 fuel key ts =>
    obtain ⟨⟨item, us⟩, hitem, h⟩ := Option.bind_eq_some_iff.mp h
    cases h
    rw [numbers_cons rfl, numbers_cons rfl]
    exact numbers_of_read? fuel hitem
  case h_2 => cases h
end

/-- The numbers of the tree of a text are in range. -/
theorem inRange_of_ofText? {text : List Char} {tree : Tree} (h : ofText? text = some tree) :
    ∀ n ∈ tree.numbers, n.InRange := by
  obtain ⟨ts, hts, h⟩ := Option.bind_eq_some_iff.mp h
  obtain ⟨⟨read, rest⟩, hread, h⟩ := Option.bind_eq_some_iff.mp h
  simp only at h
  split at h
  · cases h
    intro n hn
    refine Mode.inRange_of_tokens? hts n ?_
    rw [numbers_of_read? _ hread]
    exact List.mem_append_left _ hn
  · cases h

end Tree

/-! ## The numbers of a value -/

mutual
/-- The numbers of a value. -/
def numbers : Json → List Number
  | .null | .bool _ | .text _ => []
  | .number n => [n]
  | .array items => itemsNumbers items
  | .object members => membersNumbers members

/-- The numbers of a list of values. -/
def itemsNumbers : List Json → List Number
  | [] => []
  | j :: rest => numbers j ++ itemsNumbers rest

/-- The numbers of a list of members. -/
def membersNumbers : List (String × Json) → List Number
  | [] => []
  | m :: rest => memberNumbers m ++ membersNumbers rest

/-- The numbers of a member. -/
def memberNumbers : String × Json → List Number
  | (_, j) => numbers j
end

theorem mem_membersNumbers {members : List (String × Json)} {n : Number} :
    n ∈ membersNumbers members ↔ ∃ m ∈ members, n ∈ m.2.numbers := by
  induction members with
  | nil => simp [membersNumbers]
  | cons m rest ih =>
    obtain ⟨key, j⟩ := m
    simp [membersNumbers, memberNumbers, ih]

theorem mem_itemsNumbers {items : List Json} {n : Number} :
    n ∈ itemsNumbers items ↔ ∃ j ∈ items, n ∈ j.numbers := by
  induction items with
  | nil => simp [itemsNumbers]
  | cons j rest ih => simp [itemsNumbers, ih]

theorem depthOfItems_le_iff {items : List Json} {limit : Nat} :
    depthOfItems items ≤ limit ↔ ∀ j ∈ items, j.depth ≤ limit := by
  induction items with
  | nil => simp [depthOfItems]
  | cons j rest ih => rw [depthOfItems, Nat.max_le, ih, List.forall_mem_cons]

mutual
/-- A value all of whose numbers are integers in range is one that can be written. -/
theorem isIntegral_of_numbers : ∀ (j : Json), (∀ n ∈ j.numbers, n.InRange ∧ ∃ k, n = .integer k) →
    j.isIntegral = true
  | .null, _ | .bool _, _ | .text _, _ => rfl
  | .number n, h => by
    obtain ⟨hrange, k, rfl⟩ := h n (List.mem_singleton_self n)
    simpa [isIntegral, Number.InRange] using hrange
  | .array items, h => areIntegral_of_numbers items h
  | .object members, h => membersIntegral_of_numbers members h

theorem areIntegral_of_numbers : ∀ (items : List Json),
    (∀ n ∈ itemsNumbers items, n.InRange ∧ ∃ k, n = .integer k) → areIntegral items = true
  | [], _ => rfl
  | j :: rest, h => by
    rw [areIntegral, Bool.and_eq_true]
    exact ⟨isIntegral_of_numbers j fun n hn => h n (List.mem_append_left _ hn),
      areIntegral_of_numbers rest fun n hn => h n (List.mem_append_right _ hn)⟩

theorem membersIntegral_of_numbers : ∀ (members : List (String × Json)),
    (∀ n ∈ membersNumbers members, n.InRange ∧ ∃ k, n = .integer k) →
    membersIntegral members = true
  | [], _ => rfl
  | m :: rest, h => by
    rw [membersIntegral, Bool.and_eq_true]
    exact ⟨memberIntegral_of_numbers m fun n hn => h n (List.mem_append_left _ hn),
      membersIntegral_of_numbers rest fun n hn => h n (List.mem_append_right _ hn)⟩

theorem memberIntegral_of_numbers : ∀ (m : String × Json),
    (∀ n ∈ memberNumbers m, n.InRange ∧ ∃ k, n = .integer k) → memberIntegral m = true
  | (_, j), h => isIntegral_of_numbers j h
end

/-! ## What can be read -/

/-- A value that a text can hold: nested at most so deep, with the integers in range. -/
structure Readable (limit : Nat) (j : Json) : Prop where
  depth : j.depth ≤ limit
  inRange : ∀ n ∈ j.numbers, n.InRange

theorem Readable.of_mem_array {limit : Nat} {items : List Json}
    (h : Readable (limit + 1) (.array items)) : ∀ j ∈ items, Readable limit j := fun j hj =>
  ⟨depthOfItems_le_iff.mp (Nat.le_of_succ_le_succ h.depth) j hj,
    fun n hn => h.inRange n (mem_itemsNumbers.mpr ⟨j, hj, hn⟩)⟩

theorem Readable.of_mem_object {limit : Nat} {members : List (String × Json)}
    (h : Readable (limit + 1) (.object members)) : ∀ m ∈ members, Readable limit m.2 :=
  fun m hm => ⟨depthOfMembers_le_iff.mp (Nat.le_of_succ_le_succ h.depth) m hm,
    fun n hn => h.inRange n (mem_membersNumbers.mpr ⟨m, hm, hn⟩)⟩

theorem Readable.array {limit : Nat} {items : List Json} (h : ∀ j ∈ items, Readable limit j) :
    Readable (limit + 1) (.array items) where
  depth := Nat.succ_le_succ (depthOfItems_le_iff.mpr fun j hj => (h j hj).depth)
  inRange n hn := by
    obtain ⟨j, hj, hn⟩ := mem_itemsNumbers.mp hn
    exact (h j hj).inRange n hn

theorem Readable.object {limit : Nat} {members : List (String × Json)}
    (h : ∀ m ∈ members, Readable limit m.2) : Readable (limit + 1) (.object members) where
  depth := Nat.succ_le_succ (depthOfMembers_le_iff.mpr fun m hm => (h m hm).depth)
  inRange n hn := by
    obtain ⟨m, hm, hn⟩ := mem_membersNumbers.mp hn
    exact (h m hm).inRange n hn

mutual
/-- The normal form of a value is nested no deeper and has no other numbers. -/
theorem Readable.normalize : ∀ (j : Json) {limit : Nat}, Readable limit j →
    Readable limit j.normalize
  | .null, _, h | .bool _, _, h | .number _, _, h | .text _, _, h => h
  | .array _, 0, h | .object _, 0, h => absurd h.depth (Nat.not_succ_le_zero _)
  | .array items, _ + 1, h => .array (Readable.normalizeItems items h.of_mem_array)
  | .object members, _ + 1, h =>
    .object fun m hm => Readable.normalizeMembers members h.of_mem_object m (mem_of_mem_arrange hm)

theorem Readable.normalizeItems : ∀ (items : List Json) {limit : Nat},
    (∀ j ∈ items, Readable limit j) → ∀ j ∈ normalizeItems items, Readable limit j
  | [], _, _ => nofun
  | j :: rest, _, h => List.forall_mem_cons.mpr
    ⟨Readable.normalize j (h j List.mem_cons_self),
      Readable.normalizeItems rest fun k hk => h k (List.mem_cons_of_mem j hk)⟩

theorem Readable.normalizeMembers : ∀ (members : List (String × Json)) {limit : Nat},
    (∀ m ∈ members, Readable limit m.2) → ∀ m ∈ normalizeMembers members, Readable limit m.2
  | [], _, _ => nofun
  | m :: rest, _, h => List.forall_mem_cons.mpr
    ⟨Readable.normalizeMember m (h m List.mem_cons_self),
      Readable.normalizeMembers rest fun n hn => h n (List.mem_cons_of_mem m hn)⟩

theorem Readable.normalizeMember : ∀ (m : String × Json) {limit : Nat}, Readable limit m.2 →
    Readable limit (normalizeMember m).2
  | (_, j), _, h => Readable.normalize j h
end

namespace Tree

mutual
/-- The value of a tree is nested no deeper than allowed, and its numbers are those of the tree. -/
theorem spec_of_value? : ∀ (tree : Tree) {limit : Nat} {j : Json}, value? limit tree = some j →
    j.depth ≤ limit ∧ j.numbers = tree.numbers
  | .null, _, _, h | .bool _, _, _, h => by
    simp only [value?, Option.some.injEq] at h
    subst h
    exact ⟨Nat.zero_le _, rfl⟩
  | .number n, _, _, h => by
    rw [value?, Option.map_eq_some_iff] at h
    obtain ⟨n, rfl, rfl⟩ := h
    exact ⟨Nat.zero_le _, rfl⟩
  | .text s, _, _, h => by
    rw [value?, Option.map_eq_some_iff] at h
    obtain ⟨s, rfl, rfl⟩ := h
    exact ⟨Nat.zero_le _, rfl⟩
  | .array _, 0, _, h | .object _, 0, _, h => by simp [value?] at h
  | .array items, limit + 1, _, h => by
    rw [value?, Option.map_eq_some_iff] at h
    obtain ⟨js, hjs, rfl⟩ := h
    exact (spec_of_values? items hjs).imp_left Nat.succ_le_succ
  | .object members, limit + 1, j, h => by
    rw [value?, Option.map_eq_some_iff] at h
    obtain ⟨ms, hms, rfl⟩ := h
    exact (spec_of_memberValues? members hms).imp_left Nat.succ_le_succ

theorem spec_of_values? : ∀ (items : List Tree) {limit : Nat} {js : List Json},
    values? limit items = some js →
    depthOfItems js ≤ limit ∧ Json.itemsNumbers js = itemsNumbers items
  | [], _, _, h => by
    cases h
    exact ⟨Nat.zero_le _, rfl⟩
  | item :: rest, _, _, h => by
    obtain ⟨j, hj, h⟩ := Option.bind_eq_some_iff.mp h
    obtain ⟨js, hjs, h⟩ := Option.bind_eq_some_iff.mp h
    cases h
    obtain ⟨hdepth, hnumbers⟩ := spec_of_value? item hj
    obtain ⟨hdepths, hrest⟩ := spec_of_values? rest hjs
    exact ⟨Nat.max_le.mpr ⟨hdepth, hdepths⟩, congrArg₂ _ hnumbers hrest⟩

theorem spec_of_memberValues? : ∀ (members : List (Option String × Tree)) {limit : Nat}
    {ms : List (String × Json)}, memberValues? limit members = some ms →
    depthOfMembers ms ≤ limit ∧ Json.membersNumbers ms = membersNumbers members
  | [], _, _, h => by
    cases h
    exact ⟨Nat.zero_le _, rfl⟩
  | member :: rest, _, _, h => by
    obtain ⟨m, hm, h⟩ := Option.bind_eq_some_iff.mp h
    obtain ⟨ms, hms, h⟩ := Option.bind_eq_some_iff.mp h
    cases h
    obtain ⟨hdepth, hnumbers⟩ := spec_of_memberValue? member hm
    obtain ⟨hdepths, hrest⟩ := spec_of_memberValues? rest hms
    exact ⟨Nat.max_le.mpr ⟨hdepth, hdepths⟩, congrArg₂ _ hnumbers hrest⟩

theorem spec_of_memberValue? : ∀ (member : Option String × Tree) {limit : Nat}
    {m : String × Json}, memberValue? limit member = some m →
    depthOfMember m ≤ limit ∧ Json.memberNumbers m = memberNumbers member
  | (key, item), _, _, h => by
    obtain ⟨key, rfl, h⟩ := Option.bind_eq_some_iff.mp h
    obtain ⟨j, hj, h⟩ := Option.bind_eq_some_iff.mp h
    cases h
    exact spec_of_value? item hj
end

/-- The members of a record are nested no deeper than allowed, and have numbers of the tree. -/
theorem spec_of_record? {keys : List String} {limit : Nat}
    {members : List (Option String × Tree)} {ms : List (String × Json)}
    (h : record? keys limit members = some ms) :
    depthOfMembers ms ≤ limit ∧ Json.membersNumbers ms ⊆ membersNumbers members := by
  induction members generalizing ms with
  | nil =>
    cases h
    exact ⟨Nat.zero_le _, List.Subset.refl _⟩
  | cons member rest ih =>
    obtain ⟨key, item⟩ := member
    obtain ⟨key, rfl, -⟩ := Option.bind_eq_some_iff.mp h
    simp only [record?, Option.bind_eq_bind, Option.bind_some] at h
    split at h
    · obtain ⟨j, hj, h⟩ := Option.bind_eq_some_iff.mp h
      obtain ⟨rests, hrests, h⟩ := Option.bind_eq_some_iff.mp h
      cases h
      obtain ⟨hdepth, hnumbers⟩ := spec_of_value? item hj
      obtain ⟨hdepths, hrest⟩ := ih hrests
      refine ⟨Nat.max_le.mpr ⟨hdepth, hdepths⟩, ?_⟩
      exact List.append_subset.mpr
        ⟨fun n hn => List.mem_append_left _ (show n ∈ item.numbers from hnumbers ▸ hn),
          fun n hn => List.mem_append_right _ (hrest hn)⟩
    · obtain ⟨hdepths, hrest⟩ := ih h
      exact ⟨hdepths, fun n hn => List.mem_append_right _ (hrest hn)⟩

end Tree

/-- A record that is read from a text is one that a text can hold. -/
theorem readable_of_readRecord? {keys : List String} {text : List Char} {j : Json}
    (h : readRecord? keys text = some j) : Readable depthLimit j := by
  obtain ⟨tree, htree, h⟩ := Option.bind_eq_some_iff.mp h
  have hrange := Tree.inRange_of_ofText? htree
  split at h
  · next members =>
    obtain ⟨ms, hms, rfl⟩ := Option.map_eq_some_iff.mp h
    obtain ⟨hdepth, hnumbers⟩ := Tree.spec_of_record? hms
    exact ⟨Nat.succ_le_succ hdepth, fun n hn => hrange n (hnumbers hn)⟩
  · obtain ⟨hdepth, hnumbers⟩ := Tree.spec_of_value? _ h
    exact ⟨hdepth, fun n hn => hrange n (hnumbers ▸ hn)⟩

/-- The text of a value is read as that value exactly if it is not nested too deep. -/
theorem read?_write {j : Json} (limit : Nat) (h : j.isIntegral = true) :
    read? limit j.write = if j.depth ≤ limit then some j else none := by
  simp only [read?, Tree.ofText?_write h, Option.bind_eq_bind, Option.bind_some,
    Tree.value?_tree]

end Outbox.Json
