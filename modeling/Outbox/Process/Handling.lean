import Outbox.Process.Recording
/-!
# `Outbox.Process.Handling` — handling one receipt

A receipt is recorded as a step of its message. If the message is still pending, the broker was
faster than the publisher's record: the receipt is looked at again after a while, a limited number
of times. A receipt for a message whose life has ended is a repetition and changes nothing.
-/

namespace Outbox

/-- What became of a receipt. -/
inductive Disposition
  | applied (status : Status)
  | duplicate (current : Status)
  | unknownMessage
  | dropped (current : Status)
  | storeFailed
  deriving DecidableEq, Repr, Inhabited

/-- Where the handling of a receipt is. -/
inductive Handling
  | recording (r : Receipt) (rechecks : Nat) (record : Recording)
  | rechecking (r : Receipt) (rechecks : Nat)
  deriving DecidableEq, Inhabited

namespace Handling

/-- Begins to handle a receipt. -/
def begin (r : Receipt) : Handling :=
  .recording r 0 (.begin r.outcome)

/-- The receipt that is handled. -/
def receipt : Handling → Receipt
  | .recording r _ _ => r
  | .rechecking r _ => r

/-- What the handling waits for. -/
def request (c : Config) : Handling → Request
  | .recording _ _ record => record.request c
  | .rechecking _ _ => .sleep c.recheckDelay

/-- Goes on when the message is in a status from which the step is not legal. -/
def conflicted (c : Config) (r : Receipt) (rechecks : Nat) (current : Status) :
    Turn Handling Disposition :=
  if current.isTerminal then
    .after (.duplicateIgnored r.messageId current r.target) (.finish (.duplicate current))
  else if current = .pending ∧ rechecks < c.recheckAttempts then
    .after (.receiptEarly r.messageId (rechecks + 1)) (.wait (.rechecking r (rechecks + 1)))
  else .after (.receiptConflict r.messageId current r.target) (.finish (.dropped current))

/-- The turn after an answer. -/
def resume (c : Config) : (s : Handling) → (s.request c).Answer → Turn Handling Disposition
  | .recording r rechecks record, answer =>
    (record.resume c answer).andThen (.recording r rechecks) fun
      | .ok (.recorded change) => .finish (.applied change.new)
      | .ok .notFound => .after (.unknownMessage r.messageId) (.finish .unknownMessage)
      | .ok (.conflict current) => conflicted c r rechecks current
      | .error failure =>
        .after (.receiptUnrecorded r.messageId r.target failure) (.finish .storeFailed)
  | .rechecking r rechecks, _ => .wait (.recording r rechecks (.begin r.outcome))

end Handling

end Outbox
