import OneHost.Health.Report
import OneHost.Health.State

/-!
# Endpoints

An endpoint is one address of the host together with its health and with the schedule by which it is
probed. An endpoint that is made by hand has no schedule, and its health is what it is set to.
-/

namespace OneHost.Pool

/-- The schedule of an endpoint's probes: there is none, or it waits for its next turn, or a probe
is on its way. A schedule whose first turn cannot come ends before it. -/
inductive Schedule where
  | none
  | ended
  | waiting
  | probing
  deriving DecidableEq, Repr, Inhabited

namespace Schedule

/-- Whether there are probes still to come. -/
def isLive : Schedule → Bool
  | waiting | probing => true
  | none | ended => false

/-- From this many milliseconds on, a period leads beyond the last instant that a clock can name.
The clock is taken to stand at its beginning, in its first second; the later it stands, the sooner
a period leads beyond. -/
def unreachable : Nat := 9223372036854775807000

/-- The schedule of an endpoint whose first probe is done. The period is in milliseconds. -/
def begin? : Option Nat → Schedule
  | Option.none => none
  | some period => if 0 < period && period < unreachable then waiting else ended

end Schedule

/-- One address of the host. -/
structure Endpoint where
  address : SocketAddress
  healthUri : Option String := none
  health : Health.State := {}
  schedule : Schedule := .none
  deriving DecidableEq, Inhabited

namespace Endpoint

/-- The internet address. -/
def ip (endpoint : Endpoint) : Ip := endpoint.address.ip

/-- An endpoint that is not probed. -/
def byHand (address : SocketAddress) (healthy : Bool) : Endpoint :=
  { address, health := { healthy } }

/-- Whether the endpoint is held to be up. -/
def isHealthy (endpoint : Endpoint) : Bool := endpoint.health.healthy

/-- Set the flag by hand. -/
def setHealthy (endpoint : Endpoint) (healthy : Bool) : Endpoint :=
  { endpoint with health := endpoint.health.setHealthy healthy }

/-- Take in the outcome of a probe. -/
def record (endpoint : Endpoint) (now : Nat) (outcome : Health.Outcome) : Endpoint × Event :=
  let (health, event) := endpoint.health.record now endpoint.address outcome
  ({ endpoint with health }, event)

@[simp] theorem record_fst (endpoint : Endpoint) (now : Nat) (outcome : Health.Outcome) :
    (endpoint.record now outcome).1 =
      { endpoint with
        health := { healthy := outcome.isHealthy, probed := true, lastCheck := some now } } := by
  simp [record]

/-- End the schedule, if there is one. The health stays what it was. -/
def dispose (endpoint : Endpoint) : Endpoint × List Event :=
  match endpoint.schedule with
  | .none => (endpoint, [])
  | _ => ({ endpoint with schedule := .none }, [.scheduleCancelled endpoint.address])

/-- The endpoint without a schedule. -/
def unscheduled (endpoint : Endpoint) : Endpoint :=
  { endpoint with schedule := .none }

@[simp] theorem dispose_fst (endpoint : Endpoint) : endpoint.dispose.1 = endpoint.unscheduled := by
  obtain ⟨address, healthUri, health, schedule⟩ := endpoint
  cases schedule <;> rfl

/-- What ending the schedule reports: nothing, if there was none. -/
theorem dispose_snd (endpoint : Endpoint) :
    endpoint.dispose.2 =
      if endpoint.schedule = .none then [] else [.scheduleCancelled endpoint.address] := by
  obtain ⟨address, healthUri, health, schedule⟩ := endpoint
  cases schedule <;> rfl

@[simp] theorem unscheduled_unscheduled (endpoint : Endpoint) :
    endpoint.unscheduled.unscheduled = endpoint.unscheduled := rfl

@[simp] theorem unscheduled_schedule (endpoint : Endpoint) :
    endpoint.unscheduled.schedule = .none := rfl

@[simp] theorem unscheduled_health (endpoint : Endpoint) :
    endpoint.unscheduled.health = endpoint.health := rfl

/-- The endpoint's line in a report made at a time in milliseconds. -/
def report (endpoint : Endpoint) (now : Nat) : Health.EndpointHealth :=
  { address := endpoint.address
    healthUri := endpoint.healthUri
    healthy := endpoint.isHealthy
    sinceCheck := endpoint.health.lastCheck.map fun time => .ofMilliseconds (now - time) }

end Endpoint

end OneHost.Pool
