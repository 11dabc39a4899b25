import OneHost.Event
import OneHost.Health.Outcome

/-!
# The health of one endpoint

The state says whether the endpoint is held to be up, whether it has ever been probed, and when it
last was. `State.record` takes in the outcome of a probe and reports a change loudly.
-/

namespace OneHost.Health

/-- What is known of an endpoint's health. Times are in milliseconds. -/
structure State where
  healthy : Bool := false
  probed : Bool := false
  lastCheck : Option Nat := none
  deriving DecidableEq, Inhabited

namespace State

/-- Set the flag by hand. -/
def setHealthy (state : State) (healthy : Bool) : State :=
  { state with healthy }

/-- Take in the outcome of a probe. The first one and each that differs from the flag is a
change. -/
def record (state : State) (now : Nat) (address : SocketAddress) (outcome : Outcome) :
    State × Event :=
  let healthy := outcome.isHealthy
  let next : State := { healthy, probed := true, lastCheck := some now }
  if !state.probed || state.healthy != healthy then
    (next, .healthChanged address healthy outcome.text)
  else (next, .healthUnchanged address healthy outcome.text)

@[simp] theorem record_fst (state : State) (now : Nat) (address : SocketAddress)
    (outcome : Outcome) :
    (state.record now address outcome).1 =
      { healthy := outcome.isHealthy, probed := true, lastCheck := some now } := by
  simp only [record]
  split <;> rfl

end State

end OneHost.Health
