/-!
# `Outbox.Text.Utf8` — reading bytes as text

The characters of a sequence of bytes. A byte that is no part of a character is a *stray*. In a JSON
text a stray byte can only stand inside a quoted text that nobody reads, and it is turned into
escapes that have the same fate: they are well formed, and no text holds them.
-/

namespace Outbox.Text.Utf8

/-- Two escapes that each name the second half of a surrogate pair. Even after a first half the
second of them is left over. -/
def stray : List Char :=
  ['\\', 'u', 'd', 'c', '0', '0', '\\', 'u', 'd', 'c', '0', '0']

/-- The characters from a position on; each call moves on by at least one byte. -/
def readFrom (bytes : ByteArray) : (fuel position : Nat) → List Char
  | 0, _ => []
  | fuel + 1, position =>
    if position < bytes.size then
      match bytes.utf8DecodeChar? position with
      | some c => c :: readFrom bytes fuel (position + c.utf8Size)
      | none => stray ++ readFrom bytes fuel (position + 1)
    else []

/-- The characters of a sequence of bytes. -/
def read (bytes : ByteArray) : List Char :=
  readFrom bytes bytes.size 0

end Outbox.Text.Utf8
