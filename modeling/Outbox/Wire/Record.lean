import Outbox.Identifier
import Outbox.Json.Reader
import Outbox.Status
import Outbox.Time.Printer
import Outbox.Time.Reader
/-!
# `Outbox.Wire.Record` — the fields of records on the wire

A record is an object, or an array that lists the values of the fields in their order. In an object
no field may be repeated; in an array fields at the end may be missing. What a missing field means,
the field decides. An enumeration is its name, or an object that gives the name the value null.
-/

namespace Outbox.Wire

open Json (Number)

/-- The value of each field of a record, in the order of `keys`, where it has one. -/
def slots? (keys : List String) : Json → Option (List (Option Json))
  | .array items =>
    if items.length ≤ keys.length then
      some (items.map some ++ List.replicate (keys.length - items.length) none)
    else none
  | .object members => keys.mapM fun key =>
    match members.filter fun m => m.1 == key with
    | [] => some none
    | [m] => some (some m.2)
    | _ => none
  | _ => none

/-- A member of the object for a record. -/
def field (key : String) (value : Json) : List (String × Json) :=
  [(key, value)]

/-- A member that is left out where there is no value. -/
def optionalField (key : String) (value : Option Json) : List (String × Json) :=
  (value.map fun j => (key, j)).toList

/-! ## Reading values -/

/-- A text. -/
def text? : Json → Option String
  | .text s => some s
  | _ => none

/-- A truth value. -/
def bool? : Json → Option Bool
  | .bool b => some b
  | _ => none

/-- A number of things. -/
def count? : Json → Option Nat
  | .number (.integer n) => if 0 ≤ n then some n.toNat else none
  | _ => none

/-- A text that may be missing or null. -/
def optionalText? : Option Json → Option (Option String)
  | none => some none
  | some .null => some none
  | some (.text s) => some (some s)
  | some _ => none

/-- The name that stands for a value of an enumeration. -/
def name? : Json → Option String
  | .text s => some s
  | .object [(s, .null)] => some s
  | _ => none

/-- The text of each member of a list. -/
def textMembers? : List (String × Json) → Option (List (String × String))
  | [] => some []
  | (key, j) :: rest => do
    let s ← text? j
    let more ← textMembers? rest
    return (key, s) :: more

/-- A dictionary of texts that may be missing. -/
def dict? : Option Json → Option (Dict String)
  | none => some Dict.empty
  | some (.object members) => (textMembers? members).map Dict.ofList
  | some _ => none

/-- The object for a dictionary of texts. -/
def ofDict (d : Dict String) : Json :=
  .object (d.entries.map fun e => (e.1, .text e.2))

/-- The object for a dictionary of texts that is left out when it is empty. -/
def ofDict? (d : Dict String) : Option Json :=
  if d.isEmpty then none else some (ofDict d)

end Outbox.Wire

namespace Outbox

namespace Identifier

variable {kind : Kind}

/-- An identifier on the wire. -/
def toJson (id : Identifier kind) : Json :=
  .text id.wire

/-- Reads an identifier on the wire. -/
def ofJson? (j : Json) : Option (Identifier kind) :=
  Wire.text? j >>= ofWire?

end Identifier

namespace Instant

/-- An instant on the wire. -/
def toJson (t : Instant) : Json :=
  .text t.print

/-- Reads an instant on the wire. -/
def ofJson? (j : Json) : Option Instant :=
  Wire.text? j >>= fun s => Time.read? s.toList

end Instant

namespace Status

/-- A status on the wire. -/
def toJson (s : Status) : Json :=
  .text s.name

/-- Reads a status on the wire. -/
def ofJson? (j : Json) : Option Status :=
  Wire.name? j >>= ofName?

end Status

namespace Level

/-- A level on the wire. -/
def toJson (l : Level) : Json :=
  .text l.name

/-- Reads a level on the wire. -/
def ofJson? (j : Json) : Option Level :=
  Wire.name? j >>= ofName?

end Level

end Outbox
