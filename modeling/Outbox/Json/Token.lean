import Outbox.Json.Numeral
/-!
# `Outbox.Json.Token` — the parts of a JSON text

Splits a text into brackets, separators, literals, numbers and texts, one character at a time. A
number may be well formed and yet too large for a double, and a text may name half of a surrogate
pair and so stand for no text; both are tokens without a value, because a part of the text that is
skipped may hold them.
-/

namespace Outbox.Json

/-- A part of a JSON text. -/
inductive Token
  | openArray
  | closeArray
  | openObject
  | closeObject
  | comma
  | colon
  | null
  | bool (b : Bool)
  | number (n : Option Number)
  | text (s : Option String)
  deriving DecidableEq, Repr

/-! ## Texts -/

/-- The number that a hexadecimal digit of either case stands for. -/
def hexValue? (c : Char) : Option Nat :=
  if '0' ≤ c ∧ c ≤ '9' then some (c.toNat - 48)
  else if 'a' ≤ c ∧ c ≤ 'f' then some (c.toNat - 87)
  else if 'A' ≤ c ∧ c ≤ 'F' then some (c.toNat - 55)
  else none

/-- A piece of the inside of a text: a character, or a 16-bit unit given by its number. -/
inductive Piece
  | char (c : Char)
  | unit (n : Nat)
  deriving DecidableEq, Repr

/-- The character that a backslash and one letter stand for. -/
def shortEscape? (c : Char) : Option Char :=
  match c with
  | '"' => some '"'
  | '\\' => some '\\'
  | '/' => some '/'
  | 'b' => some '\x08'
  | 'f' => some '\x0c'
  | 'n' => some '\n'
  | 'r' => some '\r'
  | 't' => some '\t'
  | _ => none

/-- The pieces of the inside of a text; refuses a malformed escape. -/
def pieces? : List Char → Option (List Piece)
  | [] => some []
  | '\\' :: 'u' :: a :: b :: c :: d :: rest => do
    let a ← hexValue? a
    let b ← hexValue? b
    let c ← hexValue? c
    let d ← hexValue? d
    let more ← pieces? rest
    return .unit (((a * 16 + b) * 16 + c) * 16 + d) :: more
  | '\\' :: e :: rest => do
    let c ← shortEscape? e
    let more ← pieces? rest
    return .char c :: more
  | c :: rest => if c = '\\' then none else (pieces? rest).map (.char c :: ·)

/-- The characters that pieces stand for; refuses half of a surrogate pair. -/
def join? : List Piece → Option (List Char)
  | [] => some []
  | .char c :: rest => (join? rest).map (c :: ·)
  | .unit n :: .unit m :: rest =>
    if 0xD800 ≤ n ∧ n ≤ 0xDBFF then
      if 0xDC00 ≤ m ∧ m ≤ 0xDFFF then
        (join? rest).map (Char.ofNat ((n - 0xD800) * 0x400 + (m - 0xDC00) + 0x10000) :: ·)
      else none
    else if 0xDC00 ≤ n ∧ n ≤ 0xDFFF then none
    else (join? (.unit m :: rest)).map (Char.ofNat n :: ·)
  | .unit n :: rest =>
    if 0xD800 ≤ n ∧ n ≤ 0xDFFF then none else (join? rest).map (Char.ofNat n :: ·)

/-- The token for a text with the given inside; refuses a malformed escape. -/
def textToken? (inside : List Char) : Option Token :=
  (pieces? inside).map fun ps => .text ((join? ps).map String.ofList)

/-! ## Splitting -/

/-- The token for a literal. -/
def literalToken? (word : List Char) : Option Token :=
  if word = ['n', 'u', 'l', 'l'] then some .null
  else if word = ['t', 'r', 'u', 'e'] then some (.bool true)
  else if word = ['f', 'a', 'l', 's', 'e'] then some (.bool false)
  else none

/-- The token for a numeral. -/
def numberToken? (numeral : List Char) : Option Token :=
  (Numeral.read? numeral).map fun n => .number n.number?

/-- The token that is one character. -/
def markToken? (c : Char) : Option Token :=
  match c with
  | '[' => some .openArray
  | ']' => some .closeArray
  | '\x7b' => some .openObject
  | '\x7d' => some .closeObject
  | ',' => some .comma
  | ':' => some .colon
  | _ => none

/-- Whether a character separates tokens. -/
def isSpace (c : Char) : Bool :=
  c == ' ' || c == '\t' || c == '\n' || c == '\r'

/-- Whether a character can stand in a literal. -/
def isLetter (c : Char) : Bool :=
  'a' ≤ c && c ≤ 'z'

/-- Whether a character can stand in a numeral. -/
def isNumeral (c : Char) : Bool :=
  Text.Digits.isDigit c || c == '-' || c == '+' || c == '.' || c == 'e' || c == 'E'

/-- What is being read, with the characters of it read so far, the last one first. -/
inductive Mode
  | gap
  | literal (read : List Char)
  | numeral (read : List Char)
  | text (read : List Char)
  | escape (read : List Char)
  deriving DecidableEq, Repr

/-- What the first character after a gap begins, and the token that it is by itself. -/
def begin? (c : Char) : Option (Mode × List Token) :=
  if isSpace c then some (.gap, [])
  else if c = '"' then some (.text [], [])
  else if isLetter c then some (.literal [c], [])
  else if Text.Digits.isDigit c || c == '-' then some (.numeral [c], [])
  else (markToken? c).map fun t => (.gap, [t])

/-- Reads one character: what is being read then, and the tokens that it completes. -/
def Mode.next? : Mode → Char → Option (Mode × List Token)
  | .gap, c => begin? c
  | .literal read, c =>
    if isLetter c then some (.literal (c :: read), [])
    else do
      let t ← literalToken? read.reverse
      let (mode, ts) ← begin? c
      return (mode, t :: ts)
  | .numeral read, c =>
    if isNumeral c then some (.numeral (c :: read), [])
    else do
      let t ← numberToken? read.reverse
      let (mode, ts) ← begin? c
      return (mode, t :: ts)
  | .text read, c =>
    if c = '"' then (textToken? read.reverse).map fun t => (.gap, [t])
    else if c = '\\' then some (.escape read, [])
    else if c.toNat < 0x20 then none
    else some (.text (c :: read), [])
  | .escape read, c =>
    if c.toNat < 0x20 then none else some (.text (c :: '\\' :: read), [])

/-- The tokens that the end of the text completes. -/
def Mode.finish? : Mode → Option (List Token)
  | .gap => some []
  | .literal read => (literalToken? read.reverse).map fun t => [t]
  | .numeral read => (numberToken? read.reverse).map fun t => [t]
  | .text _ => none
  | .escape _ => none

/-- The tokens of a text, beginning in the given mode. -/
def Mode.tokens? (mode : Mode) : List Char → Option (List Token)
  | [] => mode.finish?
  | c :: rest => do
    let (mode, ts) ← mode.next? c
    let more ← mode.tokens? rest
    return ts ++ more

/-- The tokens of a text. -/
def tokens? (text : List Char) : Option (List Token) :=
  Mode.gap.tokens? text

end Outbox.Json
