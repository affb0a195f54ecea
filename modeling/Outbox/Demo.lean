import Outbox.Rehearsal.Schedule
/-!
# `Outbox.Demo` — a pipeline shown at work

Twelve messages are put into a pipeline, of which the broker refuses the first and fails to deliver
every fifth that it takes. The demonstration waits until the life of every message has ended, stops
the pipeline and says in one line what became of the messages.
-/

namespace Outbox.Demo

open Rehearsal (Action World)

/-- What a program leaves behind. -/
structure Report where
  exit : Nat
  stdout : String
  stderr : String
  deriving DecidableEq, Repr

/-- The number of messages. -/
def seeds : Nat :=
  12

/-- One of the messages. -/
def draft (i : Nat) : Draft where
  destination := "https://hooks.example.com/team-" ++ toString (i % 3)
  content := .ofJson (.object [("text", .text ("deploy #" ++ toString i ++ " finished"))])
  metadata := .ofList [("event_type", "DEPLOY"), ("channel", "slack")]

/-- What is done before the messages are waited for. -/
def opening : List Action :=
  (List.range seeds).map (fun i => .insert (draft i)) ++
    [.reject (.ofNat 1), .spawn "broker" (.serveForever none none), .build [], .start]

/-- Takes actions one after the other. -/
def act (w : World) (actions : List Action) : World :=
  actions.foldl (fun w action => (w.perform action).2) w

/-- How the messages stand. -/
def tally (w : World) : Tally :=
  Tally.ofList (w.store.messages.values.map Message.status)

/-- Waits until the messages stand in a certain way, and looks at most `looks` times. -/
def waitFor (goal : Tally → Bool) : (looks : Nat) → World → World
  | 0, w => w
  | looks + 1, w => if goal (tally w) then w else waitFor goal looks (act w [.advance 50])

/-- How often the messages are looked at before the wait is given up: twenty times a second for half
a minute. -/
def patience : Nat :=
  600

/-- The whole demonstration. -/
def play (c : Config) : World :=
  let w := act (.initial c 0 []) opening
  let w := waitFor (fun t => t.terminal = seeds) patience w
  let w := act w [.stop .publisherOnly]
  let w := waitFor (fun t => t.enqueued = 0) patience w
  act w [.stop .consumerOnly]

/-- The line that says what became of the messages. -/
def summary (w : World) : String :=
  let t := tally w
  "pending=" ++ toString t.pending ++ " enqueued=" ++ toString t.enqueued ++
    " not_enqueued=" ++ toString t.notEnqueued ++ " delivered=" ++ toString t.delivered ++
    " delivered_failed=" ++ toString t.deliveredFailed ++
    " history_entries=" ++ toString w.history.size ++ "\n"

/-- Runs the demonstration with the settings that can be looked up. -/
def run (lookup : String → Option String) : Report :=
  match Config.ofLookup lookup with
  | .ok c => ⟨0, summary (play c), ""⟩
  | .error failure =>
    ⟨1, "",
      "Error: failed to load pipeline config\n\nCaused by:\n    " ++ failure.message ++ "\n"⟩

end Outbox.Demo
