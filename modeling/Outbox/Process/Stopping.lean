import Outbox.Process.Roster
/-!
# `Outbox.Process.Stopping` — stopping the loops of a pipeline

A stop tells the chosen loops to stop, both before it waits for either, and waits for their end.
While it is at it, the stop has the roster to itself.
-/

namespace Outbox

/-- Which loops to stop. -/
structure StopChoice where
  publisher : Bool
  consumer : Bool
  deriving DecidableEq, Repr, Inhabited

namespace StopChoice

/-- Both loops. -/
def both : StopChoice := ⟨true, true⟩

/-- The publisher only. -/
def publisherOnly : StopChoice := ⟨true, false⟩

/-- The consumer only. -/
def consumerOnly : StopChoice := ⟨false, true⟩

/-- Neither loop. -/
def neither : StopChoice := ⟨false, false⟩

/-- The loops of a roster that are chosen. -/
def chosen (choice : StopChoice) (roster : Roster) : Roster :=
  ⟨if choice.publisher then roster.publisher else none,
    if choice.consumer then roster.consumer else none⟩

/-- The loops of a roster that are not chosen. -/
def spared (choice : StopChoice) (roster : Roster) : Roster :=
  ⟨if choice.publisher then none else roster.publisher,
    if choice.consumer then none else roster.consumer⟩

end StopChoice

/-- Where a stop is. -/
inductive Stopping
  | opening (choice : StopChoice)
  | halting (loops : Roster)
  | joiningPublisher (publisher : Launched) (consumer : Option Launched)
  | joiningConsumer (consumer : Launched)
  deriving DecidableEq, Repr, Inhabited

namespace Stopping

/-- What the stop waits for. -/
def request : Stopping → Request
  | .opening _ => .enter
  | .halting loops => .halt loops.toList
  | .joiningPublisher publisher _ => .join publisher
  | .joiningConsumer consumer => .join consumer

/-- Whether the stop has the roster to itself. -/
def isInside : Stopping → Bool
  | .opening _ => false
  | .halting _ | .joiningPublisher .. | .joiningConsumer _ => true

/-- Waits for the consumer's end, if it is to be waited for. -/
def joinConsumer : Option Launched → Turn Stopping Unit
  | none => .finish ()
  | some consumer => .wait (.joiningConsumer consumer)

/-- Waits for the publisher's end, if it is to be waited for, and then for the consumer's. -/
def joinAll (loops : Roster) : Turn Stopping Unit :=
  match loops.publisher with
  | none => joinConsumer loops.consumer
  | some publisher => .wait (.joiningPublisher publisher loops.consumer)

/-- The turn after an answer. `roster` is the roster before the turn; the one after it is given
along with it. -/
def resume (roster : Roster) : (s : Stopping) → s.request.Answer → Roster × Turn Stopping Unit
  | .opening choice, _ => (choice.spared roster, .wait (.halting (choice.chosen roster)))
  | .halting loops, _ => (roster, joinAll loops)
  | .joiningPublisher _ consumer, answer =>
    (roster, .after (Roster.endNotice .publisher answer) (joinConsumer consumer))
  | .joiningConsumer _, answer =>
    (roster, .after (Roster.endNotice .consumer answer) (.finish ()))

end Stopping

end Outbox
