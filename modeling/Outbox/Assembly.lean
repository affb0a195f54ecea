import Outbox.Config
/-!
# `Outbox.Assembly` — putting a pipeline together

A pipeline needs a store, a history and a broker, and settings that can be used; where no settings
are given the default ones are taken.
-/

namespace Outbox

/-- The parts without which there is no pipeline. -/
inductive Component
  | store
  | history
  | broker
  deriving DecidableEq, Repr, Inhabited

/-- What a part is called. -/
def Component.name : Component → String
  | .store => "store"
  | .history => "history"
  | .broker => "transport"

/-- Why a pipeline cannot be put together. -/
inductive AssemblyFailure
  | missing (component : Component)
  | unusable (failure : Config.Failure)
  deriving DecidableEq, Repr

/-- The wording of a failure. -/
def AssemblyFailure.message : AssemblyFailure → String
  | .missing component =>
    "missing component: " ++ component.name ++ ". Set it on the builder before build()."
  | .unusable failure => failure.message

/-- What a pipeline is put together from. -/
structure Assembly where
  components : List Component
  config : Option Config
  deriving DecidableEq, Repr, Inhabited

namespace Assembly

/-- A part that must be there. -/
def need (a : Assembly) (component : Component) : Except AssemblyFailure Unit :=
  if a.components.contains component then .ok () else .error (.missing component)

/-- The settings of the pipeline, if it can be put together. -/
def build (a : Assembly) : Except AssemblyFailure Config := do
  a.need .store
  a.need .history
  a.need .broker
  let config := a.config.getD .default
  match config.check with
  | .ok () => .ok config
  | .error failure => .error (.unusable failure)

end Assembly

end Outbox
