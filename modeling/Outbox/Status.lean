/-!
# `Outbox.Status` — the life of a message

A message begins pending. It is handed to the broker, or the broker does not take it; once handed
over, its delivery succeeds or fails. No other step is legal, so every life is a path of at most two
steps.
-/

namespace Outbox

/-- Where a message is in its life. -/
inductive Status
  | pending
  | enqueued
  | notEnqueued
  | delivered
  | deliveredFailed
  deriving DecidableEq, Repr, Inhabited

/-- Whether a step went well, as the history and the dashboards classify it. -/
inductive Level
  | success
  | failed
  deriving DecidableEq, Repr, Inhabited

namespace Level

/-- The name of a level. -/
def name : Level → String
  | .success => "SUCCESS"
  | .failed => "FAILED"

/-- All levels. -/
def all : List Level :=
  [.success, .failed]

/-- The level with a name. -/
def ofName? (s : String) : Option Level :=
  all.find? fun level => level.name == s

instance : ToString Level := ⟨name⟩

end Level

namespace Status

/-- One legal step in the life of a message. -/
inductive Step : Status → Status → Prop
  | enqueue : Step .pending .enqueued
  | refuse : Step .pending .notEnqueued
  | deliver : Step .enqueued .delivered
  | fail : Step .enqueued .deliveredFailed

/-- Whether a step from the first status to the second is legal. -/
def canBecome : Status → Status → Bool
  | .pending, .enqueued => true
  | .pending, .notEnqueued => true
  | .enqueued, .delivered => true
  | .enqueued, .deliveredFailed => true
  | _, _ => false

theorem canBecome_iff {a b : Status} : a.canBecome b = true ↔ Step a b := by
  refine ⟨fun h => ?_, fun h => by cases h <;> rfl⟩
  cases a <;> cases b <;> simp_all [canBecome] <;> constructor

instance (a b : Status) : Decidable (Step a b) :=
  decidable_of_iff _ canBecome_iff

/-- Whether the life of a message ends with this status. -/
def isTerminal : Status → Bool
  | .notEnqueued | .delivered | .deliveredFailed => true
  | .pending | .enqueued => false

/-- How a step to this status is classified. -/
def level : Status → Level
  | .pending | .enqueued | .delivered => .success
  | .notEnqueued | .deliveredFailed => .failed

/-- The name of a status. -/
def name : Status → String
  | .pending => "PENDING"
  | .enqueued => "ENQUEUED"
  | .notEnqueued => "NOT_ENQUEUED"
  | .delivered => "DELIVERED"
  | .deliveredFailed => "DELIVERED_FAILED"

/-- All statuses. -/
def all : List Status :=
  [.pending, .enqueued, .notEnqueued, .delivered, .deliveredFailed]

/-- The status with a name. -/
def ofName? (s : String) : Option Status :=
  all.find? fun status => status.name == s

instance : ToString Status := ⟨name⟩

/-- The statuses of a message's life so far, each one legal step from the one before it. -/
def Path (start : Status) : List Status → Prop
  | [] => True
  | next :: rest => Step start next ∧ Path next rest

instance decidablePath (start : Status) (path : List Status) : Decidable (Path start path) :=
  match path with
  | [] => isTrue trivial
  | next :: rest =>
    have := decidablePath next rest
    inferInstanceAs (Decidable (Step start next ∧ Path next rest))

end Status

end Outbox
