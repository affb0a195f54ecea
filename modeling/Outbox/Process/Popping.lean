import Outbox.Process.Basic
/-!
# `Outbox.Process.Popping` — waiting for a message on an exchange

Takes the oldest message from an exchange, and if there is none listens for the doorbell and looks
again each time that it rings, until a deadline.
-/

namespace Outbox

/-- Where the wait for a message is. -/
inductive Popping
  | looking (exchange : String) (deadline : Nat)
  | listening (exchange : String) (deadline : Nat)
  deriving DecidableEq, Repr, Inhabited

namespace Popping

/-- What the wait asks for. -/
def request : Popping → Request
  | .looking exchange _ => .take exchange
  | .listening _ deadline => .listen deadline

/-- The turn after an answer. -/
def resume : (s : Popping) → s.request.Answer → Turn Popping (Option Publication)
  | .looking exchange deadline, answer =>
    match (answer : Option Publication) with
    | some p => .finish (some p)
    | none => .wait (.listening exchange deadline)
  | .listening exchange deadline, answer =>
    let rang : Bool := answer
    if rang then .wait (.looking exchange deadline) else .finish none

end Popping

end Outbox
