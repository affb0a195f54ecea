import Outbox.Text.Digits
import Outbox.Text.Unprintable
/-!
# `Outbox.Text.Quoted` — a text as an error message shows it

A quoted text stands between double quotes. Quotes, backslashes and the common control characters
are written with a backslash, every other unprintable character by its code point in hexadecimal.
-/

namespace Outbox.Text.Quoted

/-- The hexadecimal digits of a number, in lower case and without leading zeros. -/
def hex (n : Nat) : List Char :=
  Nat.toDigits 16 n

/-- One character of a quoted text. -/
def escape (c : Char) : List Char :=
  if c = '"' then ['\\', '"']
  else if c = '\\' then ['\\', '\\']
  else if c = '\n' then ['\\', 'n']
  else if c = '\r' then ['\\', 'r']
  else if c = '\t' then ['\\', 't']
  else if c = '\x00' then ['\\', '0']
  else if isUnprintable c then ['\\', 'u', '\x7b'] ++ hex c.toNat ++ ['\x7d']
  else [c]

/-- A text between double quotes. -/
def quote (s : String) : String :=
  String.ofList (['"'] ++ s.toList.flatMap escape ++ ['"'])

end Outbox.Text.Quoted
