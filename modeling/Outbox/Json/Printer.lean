import Outbox.Json.Basic
import Outbox.Number.Shortest
/-!
# `Outbox.Json.Printer` — the compact text of a JSON value

No white space between the parts, members in the order of the value, characters outside ASCII as
they are. In a text the quote, the backslash and the characters below the space are escaped, with
the short escape where JSON has one and with four lower-case hexadecimal digits elsewhere.
-/

namespace Outbox.Json

/-- The hexadecimal digit of a number below sixteen, in lower case. -/
def hexSymbol (d : Nat) : Char :=
  if d < 10 then Char.ofNat (48 + d) else Char.ofNat (87 + d)

/-- One character inside a JSON text. -/
def escape (c : Char) : List Char :=
  if c = '"' then ['\\', '"']
  else if c = '\\' then ['\\', '\\']
  else if c = '\x08' then ['\\', 'b']
  else if c = '\x0c' then ['\\', 'f']
  else if c = '\n' then ['\\', 'n']
  else if c = '\r' then ['\\', 'r']
  else if c = '\t' then ['\\', 't']
  else if c.toNat < 0x20 then
    ['\\', 'u', '0', '0', hexSymbol (c.toNat / 16), hexSymbol (c.toNat % 16)]
  else [c]

/-- A text between quotes. -/
def writeText (s : String) : List Char :=
  '"' :: (s.toList.flatMap escape ++ ['"'])

/-- The text of a number. -/
def Number.write : Number → List Char
  | .integer n => Text.Digits.writeInt n
  | .double x => x.write

mutual
/-- The text of a value. -/
def write : Json → List Char
  | .null => ['n', 'u', 'l', 'l']
  | .bool true => ['t', 'r', 'u', 'e']
  | .bool false => ['f', 'a', 'l', 's', 'e']
  | .number n => n.write
  | .text s => writeText s
  | .array [] => ['[', ']']
  | .array (j :: rest) => '[' :: (write j ++ (writeItems rest ++ [']']))
  | .object [] => ['\x7b', '\x7d']
  | .object (m :: rest) => '\x7b' :: (writeMember m ++ (writeMembers rest ++ ['\x7d']))

/-- The items after the first, each after a comma. -/
def writeItems : List Json → List Char
  | [] => []
  | j :: rest => ',' :: (write j ++ writeItems rest)

/-- The members after the first, each after a comma. -/
def writeMembers : List (String × Json) → List Char
  | [] => []
  | m :: rest => ',' :: (writeMember m ++ writeMembers rest)

/-- A key, a colon and a value. -/
def writeMember : String × Json → List Char
  | (key, j) => writeText key ++ (':' :: write j)
end

/-- The compact text of a value. -/
def print (j : Json) : String :=
  String.ofList j.write

end Outbox.Json
