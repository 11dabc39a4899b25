import OneHost.Health.Prober
import OneHost.Pool.Roster
import OneHost.Resolution.Answer

/-!
# The state of a pool

A pool follows the addresses of one host. Its snapshot is the rotation that requests go to, and it
changes only as a whole. Refreshes may be asked for at any time; the first of them works, and the
others wait for it in the order in which they came.
-/

namespace OneHost.Pool

/-- What a pool is made for. The period of probes is in milliseconds; without one, an endpoint is
probed only when it is made. `arrange` puts the members of each new snapshot into an order that is
neither the resolver's nor a caller's to choose. -/
structure Settings where
  hostname : String
  prober : Health.Prober
  probePeriod : Option Nat
  arrange : Nat → List Nat → List Nat := fun _ members => members
  arrange_perm : ∀ number members, (arrange number members).Perm members := by
    exact fun _ members => .refl members

/-- What a refresh did. It is `unchanged` when the resolver had no addresses to give, and the
snapshot was left as it was. -/
structure Summary where
  kept : Nat := 0
  added : Nat := 0
  removed : Nat := 0
  unchanged : Bool := false
  deriving DecidableEq, Inhabited

/-- The place of one address in a refresh that is under way. -/
inductive Slot where
  | kept (endpoint : Nat)
  | starting (ip : Ip)
  | started (endpoint : Nat)
  deriving DecidableEq, Inhabited

/-- The endpoint in a place, once there is one. -/
def Slot.endpoint? : Slot → Option Nat
  | kept endpoint | started endpoint => some endpoint
  | starting _ => none

/-- Whether the endpoint was there before the refresh. -/
def Slot.isKept : Slot → Bool
  | kept _ => true
  | _ => false

/-- Whether the endpoint was made by the refresh. -/
def Slot.isStarted : Slot → Bool
  | started _ => true
  | _ => false

/-- How far a refresh has come. Once it has its answer, it knows the members of the snapshot that it
is to replace, and has a place for each address. -/
inductive Phase where
  | waiting
  | lookingUp
  | starting (previous : List Nat) (answer : List Ip) (slots : List Slot)
  deriving Inhabited

/-- Who asked for a refresh: the making of the pool, its own schedule, or a caller. -/
inductive Origin where
  | construction
  | schedule
  | caller
  deriving DecidableEq, Inhabited

/-- A refresh that has been asked for and is not finished. -/
structure Refresh where
  id : Nat
  origin : Origin
  phase : Phase := .waiting
  deriving Inhabited

/-- The endpoints that a refresh has in hand. -/
def Refresh.endpoints (refresh : Refresh) : List Nat :=
  match refresh.phase with
  | .starting _ _ slots => slots.filterMap Slot.endpoint?
  | _ => []

/-- Whether a pool refreshes itself. Once it is told to stop, it goes on until it comes to that. -/
inductive Upkeep where
  | none
  | going
  | stopping
  deriving DecidableEq, Inhabited

/-- What becomes of it when the pool is told to stop. -/
def Upkeep.toStop : Upkeep → Upkeep
  | none => none
  | going | stopping => stopping

@[simp] theorem Upkeep.toStop_eq_none_iff {upkeep : Upkeep} :
    upkeep.toStop = none ↔ upkeep = none := by
  cases upkeep <;> simp [toStop]

/-- A snapshot with its number. -/
structure Snapshot where
  number : Nat
  rotation : Rotation Nat
  deriving Inhabited

end Pool

/-- A pool. The snapshots that callers hold are part of it, since their endpoints are still in
use. -/
structure Pool where
  settings : Pool.Settings
  roster : Pool.Roster := {}
  number : Nat := 0
  held : List Pool.Snapshot := []
  refreshes : List Pool.Refresh := []
  upkeep : Pool.Upkeep := .none

namespace Pool

/-- A pool before its first refresh. -/
def make (settings : Settings) : Pool := { settings }

/-- Whether the pool may still begin refreshes of its own. -/
def refreshing (pool : Pool) : Bool := pool.upkeep != .none

theorem refreshing_iff {pool : Pool} : pool.refreshing = true ↔ pool.upkeep ≠ .none := by
  simp [refreshing]

/-- The current snapshot. -/
def snapshot (pool : Pool) : Snapshot := ⟨pool.number, pool.roster.rotation⟩

/-- Whether a position is that of an endpoint in use: in the current snapshot, in one that a caller
holds, or in the hands of a refresh. -/
def inUse (pool : Pool) (position : Nat) : Bool :=
  pool.roster.rotation.members.contains position ||
    pool.held.any (·.rotation.members.contains position) ||
    pool.refreshes.any (·.endpoints.contains position)

/-- The positions of the endpoints that have a schedule with probes to come. -/
def scheduled (pool : Pool) : List Nat :=
  (List.range pool.roster.endpoints.length).filter fun position =>
    (pool.roster.get? position).any (·.schedule.isLive)

end Pool

end OneHost
