import Outbox.Text.Blank
import Outbox.Text.Digits
import Outbox.Text.Quoted
/-!
# `Outbox.Config` — the settings of a pipeline

The settings with their defaults, what makes them usable, and how they are read from named texts
such as the variables of the environment. Durations are in milliseconds. A number is read after
trimming white space: at most one plus sign, then decimal digits. The settings are read in a fixed
order, the first unreadable one is the failure, and whether they are usable is looked at last.
-/

namespace Outbox

open Text.Digits

/-- The settings of a pipeline. -/
structure Config where
  /-- How many messages a publisher claims at once. -/
  batchSize : Nat
  /-- How long a publisher waits after it found no message. -/
  idleBackoff : Nat
  /-- How long a loop waits after a failure of the infrastructure. -/
  errorBackoff : Nat
  /-- Where the publisher sends messages. -/
  exchange : String
  /-- Where the consumer reads receipts. -/
  receiptQueue : String
  /-- How often a receipt for a message that is still pending is looked at again. -/
  recheckAttempts : Nat
  /-- How long to wait before each such look. -/
  recheckDelay : Nat
  /-- How often a failed write is tried again. -/
  storeRetries : Nat
  deriving DecidableEq, Repr, Inhabited

namespace Config

/-- The settings where nothing is set. -/
def default : Config where
  batchSize := 50
  idleBackoff := 500
  errorBackoff := 2000
  exchange := "notifications"
  receiptQueue := "notification-results"
  recheckAttempts := 3
  recheckDelay := 100
  storeRetries := 3

/-- The kinds of numbers among the settings. -/
inductive NumberKind
  | size
  | duration
  | attempts
  deriving DecidableEq, Repr

/-- What a number of this kind is called. -/
def NumberKind.name : NumberKind → String
  | .size => "usize"
  | .duration => "u64"
  | .attempts => "u32"

/-- Numbers of this kind are below this bound. -/
def NumberKind.bound : NumberKind → Nat
  | .size => 0x1_0000_0000_0000_0000
  | .duration => 0x1_0000_0000_0000_0000
  | .attempts => 0x1_0000_0000

/-- Why settings cannot be used. -/
inductive Failure
  | malformed (key : String) (kind : NumberKind) (value : String)
  | emptyBatch
  | noIdleBackoff
  | unnamed
  deriving DecidableEq, Repr

/-- The wording of a failure. -/
def Failure.message : Failure → String
  | .malformed key kind value =>
    key ++ " must be a valid " ++ kind.name ++ ", got " ++ Text.Quoted.quote value
  | .emptyBatch => "batch_size must be at least 1"
  | .noIdleBackoff => "idle_backoff must be greater than zero"
  | .unnamed => "exchange and queue names must not be empty"

/-- The name of the cause: a text that is no number, or a number or name that is of no use. -/
def Failure.cause : Failure → String
  | .malformed .. => "Invalid"
  | .emptyBatch | .noIdleBackoff | .unnamed => "OutOfRange"

/-- Whether a name is nothing but white space. -/
def isUnnamed (name : String) : Bool :=
  (Text.trim name.toList).isEmpty

/-- The first reason why settings cannot be used. -/
def check (c : Config) : Except Failure Unit :=
  if c.batchSize = 0 then .error .emptyBatch
  else if c.idleBackoff = 0 then .error .noIdleBackoff
  else if isUnnamed c.exchange || isUnnamed c.receiptQueue then .error .unnamed
  else .ok ()

/-- Settings that can be used. -/
def Usable (c : Config) : Prop :=
  0 < c.batchSize ∧ 0 < c.idleBackoff ∧ isUnnamed c.exchange = false ∧
    isUnnamed c.receiptQueue = false

instance (c : Config) : Decidable c.Usable :=
  inferInstanceAs (Decidable (_ ∧ _))

theorem check_eq_ok_iff {c : Config} : c.check = .ok () ↔ c.Usable := by
  simp only [check, Usable, Nat.pos_iff_ne_zero]
  by_cases hb : c.batchSize = 0
  · simp [hb]
  by_cases hi : c.idleBackoff = 0
  · simp [hb, hi]
  cases he : isUnnamed c.exchange <;> cases hq : isUnnamed c.receiptQueue <;> simp [hb, hi]

/-- Reads a number below a bound. -/
def number? (bound : Nat) (text : String) : Option Nat :=
  let ds := match Text.trim text.toList with
    | '+' :: ds => ds
    | ds => ds
  if !ds.isEmpty && ds.all isDigit && read ds < bound then some (read ds) else none

/-- The number with a key, or the given one where the key is not set. -/
def numberOr (lookup : String → Option String) (key : String) (kind : NumberKind) (number : Nat) :
    Except Failure Nat :=
  match lookup key with
  | none => .ok number
  | some value =>
    match number? kind.bound value with
    | some n => .ok n
    | none => .error (.malformed key kind value)

/-- The keys of the settings, in the order in which they are read. -/
def keys : List String :=
  ["COURIER_BATCH_SIZE", "COURIER_IDLE_BACKOFF_MS", "COURIER_ERROR_BACKOFF_MS",
    "COURIER_PUBLISH_EXCHANGE", "COURIER_RESULT_QUEUE", "COURIER_ACK_RECHECK_ATTEMPTS",
    "COURIER_ACK_RECHECK_DELAY_MS", "COURIER_STORE_RETRY_ATTEMPTS"]

/-- Reads the settings and looks whether they can be used. -/
def ofLookup (lookup : String → Option String) : Except Failure Config := do
  let batchSize ← numberOr lookup "COURIER_BATCH_SIZE" .size default.batchSize
  let idleBackoff ← numberOr lookup "COURIER_IDLE_BACKOFF_MS" .duration default.idleBackoff
  let errorBackoff ← numberOr lookup "COURIER_ERROR_BACKOFF_MS" .duration default.errorBackoff
  let exchange := (lookup "COURIER_PUBLISH_EXCHANGE").getD default.exchange
  let receiptQueue := (lookup "COURIER_RESULT_QUEUE").getD default.receiptQueue
  let recheckAttempts ←
    numberOr lookup "COURIER_ACK_RECHECK_ATTEMPTS" .attempts default.recheckAttempts
  let recheckDelay ← numberOr lookup "COURIER_ACK_RECHECK_DELAY_MS" .duration default.recheckDelay
  let storeRetries ← numberOr lookup "COURIER_STORE_RETRY_ATTEMPTS" .attempts default.storeRetries
  let config : Config :=
    { batchSize, idleBackoff, errorBackoff, exchange, receiptQueue, recheckAttempts, recheckDelay,
      storeRetries }
  config.check
  return config

end Config

end Outbox
