import Outbox.Process.Basic
/-!
# `Outbox.Process.Roster` — the loops of a pipeline that were set going

A pipeline keeps on its roster every loop that it has set going and not yet stopped. A loop may come
to its end without being told to; it stays on the roster until somebody looks.
-/

namespace Outbox

/-- The loops that were set going and not yet stopped. -/
structure Roster where
  publisher : Option Launched
  consumer : Option Launched
  deriving DecidableEq, Repr, Inhabited

namespace Roster

/-- No loop has been set going. -/
def empty : Roster :=
  ⟨none, none⟩

/-- What is told about the end of a loop. -/
def endNotice (role : Role) : Ending → Notice
  | .done => .loopStopped role
  | .crashed => .loopCrashed role

/-- Strikes a loop off if it has ended. `ended` tells how each task ended that has ended. -/
def reap (role : Role) (ended : TaskId → Option Ending) :
    Option Launched → Option Launched × List Notice
  | none => (none, [])
  | some loop =>
    match ended loop.task with
    | none => (some loop, [])
    | some ending => (none, [endNotice role ending])

/-- Strikes off the loops that have ended. -/
def reapAll (ended : TaskId → Option Ending) (roster : Roster) : Roster × List Notice :=
  let (publisher, first) := reap .publisher ended roster.publisher
  let (consumer, second) := reap .consumer ended roster.consumer
  (⟨publisher, consumer⟩, first ++ second)

/-- Whether a loop is on the roster and has not ended. -/
def isRunning (ended : TaskId → Option Ending) : Option Launched → Bool
  | none => false
  | some loop => (ended loop.task).isNone

/-- All loops on the roster. -/
def toList (roster : Roster) : List Launched :=
  roster.publisher.toList ++ roster.consumer.toList

end Roster

end Outbox
