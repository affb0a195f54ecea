import Outbox.Json.Token
/-!
# `Outbox.Json.Reader` — reading JSON texts

A text is first read into a tree that may still hold numbers and texts without a value. A value is
taken from the tree up to a number of nested arrays and objects. Of a record, an object with known
keys, only the members with these keys are taken: the others need be well formed and no more.
-/

namespace Outbox.Json

/-- A well-formed JSON text, in which a number may be too large and a text may be no text. -/
inductive Tree
  | null
  | bool (b : Bool)
  | number (n : Option Number)
  | text (s : Option String)
  | array (items : List Tree)
  | object (members : List (Option String × Tree))
  deriving Inhabited

namespace Tree

/-! ## From tokens to a tree -/

mutual
/-- Reads a value; gives the tokens after it. -/
def read? : Nat → List Token → Option (Tree × List Token)
  | _, .null :: ts => some (.null, ts)
  | _, .bool b :: ts => some (.bool b, ts)
  | _, .number n :: ts => some (.number n, ts)
  | _, .text s :: ts => some (.text s, ts)
  | _, .openArray :: .closeArray :: ts => some (.array [], ts)
  | fuel + 1, .openArray :: ts => do
    let (item, ts) ← read? fuel ts
    let (items, ts) ← readItems? fuel ts
    return (.array (item :: items), ts)
  | _, .openObject :: .closeObject :: ts => some (.object [], ts)
  | fuel + 1, .openObject :: ts => do
    let (member, ts) ← readMember? fuel ts
    let (members, ts) ← readMembers? fuel ts
    return (.object (member :: members), ts)
  | _, _ => none

/-- Reads the rest of an array, up to its closing bracket. -/
def readItems? : Nat → List Token → Option (List Tree × List Token)
  | _, .closeArray :: ts => some ([], ts)
  | fuel + 1, .comma :: ts => do
    let (item, ts) ← read? fuel ts
    let (items, ts) ← readItems? fuel ts
    return (item :: items, ts)
  | _, _ => none

/-- Reads the rest of an object, up to its closing bracket. -/
def readMembers? : Nat → List Token → Option (List (Option String × Tree) × List Token)
  | _, .closeObject :: ts => some ([], ts)
  | fuel + 1, .comma :: ts => do
    let (member, ts) ← readMember? fuel ts
    let (members, ts) ← readMembers? fuel ts
    return (member :: members, ts)
  | _, _ => none

/-- Reads a key, a colon and a value. -/
def readMember? : Nat → List Token → Option ((Option String × Tree) × List Token)
  | fuel + 1, .text key :: .colon :: ts => do
    let (j, ts) ← read? fuel ts
    return ((key, j), ts)
  | _, _ => none
end

/-- The tree of a whole text. Each call of the reader takes at least one token, so their number
bounds the calls. -/
def ofText? (text : List Char) : Option Tree := do
  let ts ← tokens? text
  let (tree, rest) ← read? ts.length ts
  if rest.isEmpty then some tree else none

/-! ## From a tree to a value -/

mutual
/-- The value of a tree with at most `depth` nested arrays and objects. -/
def value? : Nat → Tree → Option Json
  | _, .null => some .null
  | _, .bool b => some (.bool b)
  | _, .number n => n.map .number
  | _, .text s => s.map .text
  | 0, .array _ => none
  | 0, .object _ => none
  | depth + 1, .array items => (values? depth items).map .array
  | depth + 1, .object members => (memberValues? depth members).map .object

/-- The values of a list of trees. -/
def values? : Nat → List Tree → Option (List Json)
  | _, [] => some []
  | depth, item :: rest => do
    let j ← value? depth item
    let js ← values? depth rest
    return j :: js

/-- The values of a list of members. -/
def memberValues? : Nat → List (Option String × Tree) → Option (List (String × Json))
  | _, [] => some []
  | depth, member :: rest => do
    let m ← memberValue? depth member
    let ms ← memberValues? depth rest
    return m :: ms

/-- The value of a member. -/
def memberValue? : Nat → Option String × Tree → Option (String × Json)
  | depth, (key, item) => do
    let key ← key
    let j ← value? depth item
    return (key, j)
end

/-- The members of a record whose keys are among `keys`. Every key must be a text, and the other
members are passed over. -/
def record? (keys : List String) (depth : Nat) :
    List (Option String × Tree) → Option (List (String × Json))
  | [] => some []
  | (key, item) :: rest => do
    let key ← key
    if keys.contains key then
      let j ← item.value? depth
      let ms ← record? keys depth rest
      return (key, j) :: ms
    else record? keys depth rest

end Tree

/-- The greatest number of nested arrays and objects in a text. -/
def depthLimit : Nat :=
  127

/-- Reads a JSON text. -/
def read? (depth : Nat) (text : List Char) : Option Json := do
  (← Tree.ofText? text).value? depth

/-- Reads the JSON text of a record: an object of which the members with the given keys count, or
any other value. -/
def readRecord? (keys : List String) (text : List Char) : Option Json := do
  match ← Tree.ofText? text with
  | .object members => (Tree.record? keys (depthLimit - 1) members).map .object
  | tree => tree.value? depthLimit

end Outbox.Json
