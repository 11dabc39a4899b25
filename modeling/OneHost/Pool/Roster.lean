import OneHost.Pool.Endpoint
import OneHost.Pool.Rotation

/-!
# Endpoints and whose turn it is

A roster keeps every endpoint that there has been, at a fixed position, and the rotation of those
that requests go to at present. Endpoints are shared by position: what happens to one is seen by
everyone who holds its position.
-/

namespace OneHost.Pool

/-- The endpoints, and the positions of those that take turns. -/
structure Roster where
  endpoints : List Endpoint := []
  rotation : Rotation Nat := .empty
  deriving Inhabited

namespace Roster

/-- A roster in which all of some endpoints take turns, in their order. -/
def ofList (endpoints : List Endpoint) : Roster :=
  { endpoints, rotation := { members := List.range endpoints.length } }

/-- The endpoint at a position. -/
def get? (roster : Roster) (position : Nat) : Option Endpoint :=
  roster.endpoints[position]?

/-- Whether the endpoint at a position is up. -/
def isHealthy (roster : Roster) (position : Nat) : Bool :=
  (roster.get? position).any Endpoint.isHealthy

/-- Change the endpoint at a position. -/
def modify (roster : Roster) (position : Nat) (change : Endpoint → Endpoint) : Roster :=
  { roster with endpoints := roster.endpoints.modify position change }

theorem get?_modify (roster : Roster) (position other : Nat) (change : Endpoint → Endpoint) :
    (roster.modify position change).get? other =
      if position = other then (roster.get? other).map change else roster.get? other := by
  simp only [get?, modify, List.getElem?_modify]
  split <;> simp

@[simp] theorem length_modify (roster : Roster) (position : Nat) (change : Endpoint → Endpoint) :
    (roster.modify position change).endpoints.length = roster.endpoints.length :=
  List.length_modify ..

/-- Set the flag of the endpoint at a position. -/
def setHealthy (roster : Roster) (position : Nat) (healthy : Bool) : Roster :=
  roster.modify position (·.setHealthy healthy)

/-- Add an endpoint at the next position. -/
def push (roster : Roster) (endpoint : Endpoint) : Roster :=
  { roster with endpoints := roster.endpoints ++ [endpoint] }

theorem get?_push (roster : Roster) (endpoint : Endpoint) (position : Nat) :
    (roster.push endpoint).get? position =
      if position = roster.endpoints.length then some endpoint else roster.get? position := by
  simp only [get?, push, List.getElem?_append]
  grind

@[simp] theorem rotation_push (roster : Roster) (endpoint : Endpoint) :
    (roster.push endpoint).rotation = roster.rotation := rfl

/-- The endpoints at some positions. -/
def endpointsAt (roster : Roster) (positions : List Nat) : List Endpoint :=
  positions.filterMap roster.get?

/-- The endpoints that take turns. -/
def members (roster : Roster) : List Endpoint :=
  roster.endpointsAt roster.rotation.members

/-- Take a turn. -/
def next (roster : Roster) : Option Endpoint × Roster :=
  let (position, rotation) := roster.rotation.next roster.isHealthy
  (position.bind roster.get?, { roster with rotation })

/-- Take some turns in a row. -/
def turns (count : Nat) (roster : Roster) : List (Option Endpoint) × Roster :=
  let (positions, rotation) := roster.rotation.turns roster.isHealthy count
  (positions.map (·.bind roster.get?), { roster with rotation })

/-- How many of those that take turns are up. -/
def healthyCount (roster : Roster) : Nat :=
  (roster.rotation.available roster.isHealthy).length

/-- The report on those that take turns, at a time in milliseconds. -/
def report (roster : Roster) (now : Nat) : Health.Report :=
  .ofEndpoints (roster.members.map (·.report now))

end Roster

end OneHost.Pool
