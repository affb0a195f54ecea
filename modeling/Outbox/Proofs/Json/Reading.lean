import Outbox.Json.Reader
import Outbox.Proofs.Json.Tokens
/-!
# `Proofs.Json.Reading` — values are read as they were written

The tokens of a value make its tree, for which the reader needs no more fuel than there are tokens,
and the tree gives the value back if it is not nested deeper than the reader goes.
-/

namespace Outbox.Json

/-! ## The tree of a value -/

mutual
/-- The tree that the text of a value is read into. -/
def tree : Json → Tree
  | .null => .null
  | .bool b => .bool b
  | .number n => .number (some n)
  | .text s => .text (some s)
  | .array items => .array (trees items)
  | .object members => .object (memberTrees members)

/-- The trees of the values of a list. -/
def trees : List Json → List Tree
  | [] => []
  | j :: rest => tree j :: trees rest

/-- The trees of the members of a list. -/
def memberTrees : List (String × Json) → List (Option String × Tree)
  | [] => []
  | m :: rest => memberTree m :: memberTrees rest

/-- The tree of a member. -/
def memberTree : String × Json → Option String × Tree
  | (key, j) => (some key, tree j)
end

namespace Tree

/-! ## From tokens to the tree -/

/-- A value does not begin with the end of an array. -/
theorem tokens_ne_closeArray (j : Json) {ts more : List Token} :
    j.tokens ++ more ≠ .closeArray :: ts := by
  cases j with
  | null | bool | number | text => nofun
  | array items => cases items <;> nofun
  | object members => cases members <;> nofun

theorem memberTokens_ne_closeObject (m : String × Json) {ts more : List Token} :
    memberTokens m ++ more ≠ .closeObject :: ts := by
  obtain ⟨key, j⟩ := m
  nofun

mutual
/-- The tokens of a value are read into its tree. -/
theorem read?_tokens : ∀ (j : Json) (fuel : Nat) (more : List Token), j.tokens.length ≤ fuel →
    read? fuel (j.tokens ++ more) = some (j.tree, more)
  | .null, _, _, _ => by simp [tokens, tree, read?]
  | .bool _, _, _, _ => by simp [tokens, tree, read?]
  | .number _, _, _, _ => by simp [tokens, tree, read?]
  | .text _, _, _, _ => by simp [tokens, tree, read?]
  | .array [], _, _, _ => by simp [tokens, tree, trees, read?]
  | .array (j :: js), 0, _, h => by simp [tokens] at h
  | .array (j :: js), fuel + 1, more, h => by
    simp only [tokens, List.length_cons, List.length_append, List.length_nil] at h
    have hj := read?_tokens j fuel (itemTokens js ++ .closeArray :: more) (by omega)
    have hjs := readItems?_itemTokens js fuel more (by omega)
    have hopen {ts : List Token} :
        j.tokens ++ (itemTokens js ++ .closeArray :: more) ≠ .closeArray :: ts :=
      tokens_ne_closeArray j
    simp [tokens, tree, trees, read?, hj, hjs]
  | .object [], _, _, _ => by simp [tokens, tree, memberTrees, read?]
  | .object (m :: ms), 0, _, h => by simp [tokens] at h
  | .object (m :: ms), fuel + 1, more, h => by
    simp only [tokens, List.length_cons, List.length_append, List.length_nil] at h
    have hm := readMember?_memberTokens m fuel (membersTokens ms ++ .closeObject :: more)
      (by omega)
    have hms := readMembers?_membersTokens ms fuel more (by omega)
    have hopen {ts : List Token} :
        memberTokens m ++ (membersTokens ms ++ .closeObject :: more) ≠ .closeObject :: ts :=
      memberTokens_ne_closeObject m
    simp [tokens, tree, memberTrees, read?, hm, hms]

theorem readItems?_itemTokens : ∀ (js : List Json) (fuel : Nat) (more : List Token),
    (itemTokens js).length ≤ fuel →
    readItems? fuel (itemTokens js ++ .closeArray :: more) = some (trees js, more)
  | [], _, _, _ => by simp [itemTokens, trees, readItems?]
  | j :: js, 0, _, h => by simp [itemTokens] at h
  | j :: js, fuel + 1, more, h => by
    simp only [itemTokens, List.length_cons, List.length_append] at h
    have hj := read?_tokens j fuel (itemTokens js ++ .closeArray :: more) (by omega)
    have hjs := readItems?_itemTokens js fuel more (by omega)
    simp [itemTokens, trees, readItems?, hj, hjs]

theorem readMembers?_membersTokens : ∀ (ms : List (String × Json)) (fuel : Nat)
    (more : List Token), (membersTokens ms).length ≤ fuel →
    readMembers? fuel (membersTokens ms ++ .closeObject :: more) = some (memberTrees ms, more)
  | [], _, _, _ => by simp [membersTokens, memberTrees, readMembers?]
  | m :: ms, 0, _, h => by simp [membersTokens] at h
  | m :: ms, fuel + 1, more, h => by
    simp only [membersTokens, List.length_cons, List.length_append] at h
    have hm := readMember?_memberTokens m fuel (membersTokens ms ++ .closeObject :: more)
      (by omega)
    have hms := readMembers?_membersTokens ms fuel more (by omega)
    simp [membersTokens, memberTrees, readMembers?, hm, hms]

theorem readMember?_memberTokens : ∀ (m : String × Json) (fuel : Nat) (more : List Token),
    (memberTokens m).length ≤ fuel →
    readMember? fuel (memberTokens m ++ more) = some (memberTree m, more)
  | (_, j), 0, _, h => by simp [memberTokens] at h
  | (_, j), fuel + 1, more, h => by
    simp only [memberTokens, List.length_cons] at h
    have hj := read?_tokens j fuel more (by omega)
    simp [memberTokens, memberTree, readMember?, hj]
end

/-- The text of a value is read into its tree. -/
theorem ofText?_write {j : Json} (h : j.isIntegral = true) : ofText? j.write = some j.tree := by
  have htokens := tokens?_write j h ends_nil (show Mode.gap.tokens? [] = some [] from rfl)
  rw [List.append_nil, List.append_nil] at htokens
  have hread := read?_tokens j _ [] (Nat.le_refl _)
  rw [List.append_nil] at hread
  simp [ofText?, Json.tokens?, htokens, hread]

end Tree

/-! ## Nesting -/

mutual
/-- How many arrays and objects stand inside one another in a value. -/
def depth : Json → Nat
  | .null | .bool _ | .number _ | .text _ => 0
  | .array items => depthOfItems items + 1
  | .object members => depthOfMembers members + 1

/-- The depth of the deepest value of a list. -/
def depthOfItems : List Json → Nat
  | [] => 0
  | j :: rest => max (depth j) (depthOfItems rest)

/-- The depth of the deepest member of a list. -/
def depthOfMembers : List (String × Json) → Nat
  | [] => 0
  | m :: rest => max (depthOfMember m) (depthOfMembers rest)

/-- The depth of the value of a member. -/
def depthOfMember : String × Json → Nat
  | (_, j) => depth j
end

theorem depthOfMembers_le_iff {members : List (String × Json)} {limit : Nat} :
    depthOfMembers members ≤ limit ↔ ∀ m ∈ members, m.2.depth ≤ limit := by
  induction members with
  | nil => simp [depthOfMembers]
  | cons m rest ih =>
    obtain ⟨key, j⟩ := m
    rw [depthOfMembers, depthOfMember, Nat.max_le, ih, List.forall_mem_cons]

/-- What is asked of two, where both must do. -/
theorem ite_max_le {a b limit : Nat} {α β γ : Type} {x : α} {y : β} {f : α → β → γ} :
    ((if a ≤ limit then some x else none) >>= fun x =>
      (if b ≤ limit then some y else none) >>= fun y => some (f x y)) =
    if max a b ≤ limit then some (f x y) else none := by
  rw [if_congr Nat.max_le rfl rfl]
  by_cases ha : a ≤ limit <;> by_cases hb : b ≤ limit <;> simp [ha, hb]

namespace Tree

mutual
/-- The tree of a value gives that value exactly if it is not nested deeper than allowed. -/
theorem value?_tree : ∀ (j : Json) (limit : Nat),
    value? limit j.tree = if j.depth ≤ limit then some j else none
  | .null, _ => by simp [tree, value?, depth]
  | .bool _, _ => by simp [tree, value?, depth]
  | .number _, _ => by simp [tree, value?, depth]
  | .text _, _ => by simp [tree, value?, depth]
  | .array _, 0 => by simp [tree, value?, depth]
  | .array items, limit + 1 => by
    simp only [tree, value?, depth, values?_trees items limit, Nat.add_le_add_iff_right]
    split <;> rfl
  | .object _, 0 => by simp [tree, value?, depth]
  | .object members, limit + 1 => by
    simp only [tree, value?, depth, memberValues?_memberTrees members limit,
      Nat.add_le_add_iff_right]
    split <;> rfl

theorem values?_trees : ∀ (items : List Json) (limit : Nat),
    values? limit (trees items) = if depthOfItems items ≤ limit then some items else none
  | [], _ => by simp [trees, values?, depthOfItems]
  | j :: rest, limit => by
    simp only [trees, values?, value?_tree j limit, values?_trees rest limit, depthOfItems]
    exact ite_max_le

theorem memberValues?_memberTrees : ∀ (members : List (String × Json)) (limit : Nat),
    memberValues? limit (memberTrees members) =
      if depthOfMembers members ≤ limit then some members else none
  | [], _ => by simp [memberTrees, memberValues?, depthOfMembers]
  | m :: rest, limit => by
    simp only [memberTrees, memberValues?, memberValue?_memberTree m limit,
      memberValues?_memberTrees rest limit, depthOfMembers]
    exact ite_max_le

theorem memberValue?_memberTree : ∀ (m : String × Json) (limit : Nat),
    memberValue? limit (memberTree m) = if depthOfMember m ≤ limit then some m else none
  | (key, j), limit => by
    by_cases h : j.depth ≤ limit <;>
      simp [memberTree, memberValue?, value?_tree j limit, depthOfMember, h]
end

/-- A record that has no members but those with the given keys is read whole. -/
theorem record?_memberTrees {keys : List String} {limit : Nat} {members : List (String × Json)}
    (h : ∀ m ∈ members, m.1 ∈ keys) :
    record? keys limit (memberTrees members) =
      if depthOfMembers members ≤ limit then some members else none := by
  rw [← memberValues?_memberTrees]
  induction members with
  | nil => rfl
  | cons m rest ih =>
    obtain ⟨key, j⟩ := m
    have hkey : keys.contains key = true :=
      List.contains_iff_mem.mpr (h (key, j) List.mem_cons_self)
    have hrest := ih fun n hn => h n (List.mem_cons_of_mem _ hn)
    simp only [memberTrees, memberTree, record?, memberValues?, memberValue?,
      Option.bind_eq_bind, Option.bind_some, hkey, if_true, hrest]
    cases value? limit j.tree <;> rfl

end Tree

/-- Two values without doubles have the same text only if they are the same, however deep they are.
-/
theorem eq_of_write_eq {j j' : Json} (h : j.isIntegral = true) (h' : j'.isIntegral = true)
    (same : j.write = j'.write) : j = j' := by
  have hread := Tree.ofText?_write h
  rw [same, Tree.ofText?_write h', Option.some_inj] at hread
  -- a reader that goes deep enough gets both back from their common tree
  have hvalue := Tree.value?_tree j' (max j.depth j'.depth)
  rw [hread, Tree.value?_tree, if_pos (Nat.le_max_left ..), if_pos (Nat.le_max_right ..)] at hvalue
  exact Option.some.inj hvalue

/-- The text of a record is read as that record exactly if its members are not nested too deep. -/
theorem readRecord?_write {keys : List String} {members : List (String × Json)}
    (hintegral : membersIntegral members = true) (hkeys : ∀ m ∈ members, m.1 ∈ keys) :
    readRecord? keys (write (.object members)) =
      if depthOfMembers members ≤ depthLimit - 1 then some (.object members) else none := by
  have htree : Tree.ofText? (write (.object members)) = some (.object (memberTrees members)) :=
    Tree.ofText?_write (j := .object members) hintegral
  simp only [readRecord?, htree, Option.bind_eq_bind, Option.bind_some,
    Tree.record?_memberTrees hkeys]
  split <;> rfl

end Outbox.Json
