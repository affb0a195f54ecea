import Outbox.Identifier
import Outbox.Time.Instant
/-!
# `Outbox.Generator` — new identifiers

A new identifier holds the time at which it is made, in whole milliseconds, and chance. Identifiers
made in different milliseconds sort by time.
-/

namespace Outbox.Identifier

variable {kind : Kind}

/-- The identifier made at a time with some chance. -/
def generate (t : Instant) (chance : Nat) : Identifier kind :=
  ⟨Ulid.ofParts (t.milliseconds % 0x1_0000_0000_0000).toNat chance⟩

/-- The time at which an identifier was made, in milliseconds. -/
def milliseconds (id : Identifier kind) : Nat :=
  id.ulid.milliseconds

end Outbox.Identifier
