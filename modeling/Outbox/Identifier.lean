import Outbox.Ulid
/-!
# `Outbox.Identifier` — identifiers of messages and of history entries

Both kinds are 128-bit identifiers; the kind is part of the type, so that one cannot stand for the
other, and decides the tag that a displayed identifier begins with. JSON texts hold identifiers
without their tag.
-/

namespace Outbox

/-- What an identifier identifies. -/
inductive Kind
  | message
  | entry
  deriving DecidableEq, Repr

/-- The tag that displayed identifiers of a kind begin with. -/
def Kind.tag : Kind → List Char
  | .message => ['m', 's', 'g', '-']
  | .entry => ['h', 'i', 's', 't', '-']

/-- An identifier of a kind. -/
structure Identifier (kind : Kind) where
  ulid : Ulid
  deriving DecidableEq, Repr, Inhabited

/-- Identifies a message for all its life. -/
abbrev MessageId := Identifier .message

/-- Identifies one entry of the history. -/
abbrev EntryId := Identifier .entry

namespace Identifier

variable {kind : Kind}

instance : Ord (Identifier kind) := ⟨fun a b => compare a.ulid b.ulid⟩

/-- The identifier with the given number. -/
def ofNat (n : Nat) : Identifier kind :=
  ⟨Ulid.ofNat n⟩

/-- The text of an identifier on the wire. -/
def wire (id : Identifier kind) : String :=
  String.ofList id.ulid.write

/-- Reads the text of an identifier on the wire. -/
def ofWire? (s : String) : Option (Identifier kind) :=
  (Ulid.read? s.toList).map fun u => ⟨u⟩

/-- The text of an identifier where it is displayed. -/
def display (id : Identifier kind) : String :=
  String.ofList (kind.tag ++ id.ulid.write)

instance : ToString (Identifier kind) := ⟨display⟩

end Identifier

end Outbox
