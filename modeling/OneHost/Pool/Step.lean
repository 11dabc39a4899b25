import OneHost.Pool.State

/-!
# The steps of a pool

Everything that happens to a pool is an input, and `step` says what the pool becomes and what it
asks of the world outside: lookups, probes, evictions, and answers to its callers. Between two
inputs nothing happens, so the orders in which inputs can come are the orders in which concurrent
callers, schedules and answers can interleave. An input that does not fit the state, such as an
answer to a refresh that was cancelled, changes nothing.
-/

namespace OneHost.Pool

/-- What can happen to a pool. Times are in milliseconds. -/
inductive Input where
  /-- A refresh is asked for. -/
  | refresh (id : Nat) (origin : Origin)
  /-- The resolver has answered a refresh. -/
  | answered (id : Nat) (answer : Except Resolution.LookupError (List Ip))
  /-- The first probe of the endpoint for one place of a refresh is done. -/
  | firstProbed (id slot now : Nat) (outcome : Health.Outcome)
  /-- A refresh looks whether all of its endpoints have been started. -/
  | join (id : Nat)
  /-- Whoever asked for a refresh gives it up. -/
  | cancel (id : Nat)
  /-- It is time to probe an endpoint again. -/
  | due (position : Nat)
  /-- A later probe of an endpoint is done. -/
  | probed (position now : Nat) (outcome : Health.Outcome)
  /-- The flag of an endpoint is set by hand. -/
  | setHealthy (position : Nat) (healthy : Bool)
  /-- A caller takes the next endpoint. -/
  | next
  /-- A caller takes hold of the current snapshot. -/
  | hold
  /-- All snapshots that callers hold are let go. -/
  | letGo
  /-- The schedule of an endpoint is ended by hand. -/
  | dispose (position : Nat)
  /-- The pool is to refresh itself from now on. -/
  | keepRefreshing
  /-- The pool is shut down. Its own refreshes are told to stop, and may go on for a while. -/
  | shutDown
  /-- The pool's own refreshes have come to their stop, in the middle of one or between two. -/
  | stopped

/-- What a pool asks of the world outside. -/
inductive Effect where
  | log (event : Event)
  /-- Ask the resolver on behalf of a refresh. -/
  | lookUp (id : Nat)
  /-- Probe an address for the first time, for one place of a refresh. -/
  | start (id slot : Nat) (ip : Ip)
  /-- Let an endpoint's schedule wait for its next turn; `first` if none has come yet. -/
  | await (position : Nat) (first : Bool)
  /-- Probe an endpoint again. -/
  | probe (position : Nat)
  /-- From here on, readers see a new snapshot. -/
  | published (snapshot : Snapshot)
  /-- Forget the connections to an address. -/
  | evict (address : SocketAddress)
  /-- A refresh is finished. -/
  | finished (id : Nat) (result : Except Resolution.LookupError Summary)
  /-- A caller has taken an endpoint. -/
  | picked (endpoint : Option Endpoint)
  /-- Stop the pool's own refreshes, as soon as that can be done. -/
  | stop

/-- End the schedule of the endpoint at a position. -/
def disposeAt (pool : Pool) (position : Nat) : Pool × List Effect :=
  match pool.roster.get? position with
  | none => (pool, [])
  | some endpoint =>
    let (endpoint, events) := endpoint.dispose
    ({ pool with roster := pool.roster.modify position fun _ => endpoint }, events.map .log)

/-- End the schedules of the endpoints at some positions. -/
def disposeAll (pool : Pool) : List Nat → Pool × List Effect
  | [] => (pool, [])
  | position :: rest =>
    let (pool, effects) := pool.disposeAt position
    let (pool, more) := pool.disposeAll rest
    (pool, effects ++ more)

/-- End the schedules of the endpoints that are no longer in use. -/
def release (pool : Pool) : Pool × List Effect :=
  pool.disposeAll
    ((List.range pool.roster.endpoints.length).filter fun position => !pool.inUse position)

/-- Let the first refresh begin with its lookup, if it has not yet begun. -/
def beginNext (pool : Pool) : Pool × List Effect :=
  match pool.refreshes with
  | ⟨id, origin, .waiting⟩ :: rest =>
    ({ pool with refreshes := ⟨id, origin, .lookingUp⟩ :: rest }, [.lookUp id])
  | _ => (pool, [])

/-- What the pool itself reports of a refresh that is finished. -/
def resultEvents (pool : Pool) (origin : Origin) :
    Except Resolution.LookupError Summary → List Event
  | .ok summary =>
    match origin with
    | .construction =>
      [.poolInitialized pool.settings.hostname summary.added pool.roster.healthyCount]
    | .schedule =>
      if 0 < summary.added || 0 < summary.removed then
        [.poolRefreshed pool.settings.hostname summary.kept summary.added summary.removed]
      else [.poolUnchanged pool.settings.hostname summary.kept]
    | .caller => []
  | .error error =>
    match origin with
    | .schedule => [.refreshFailed pool.settings.hostname error.message]
    | _ => []

/-- Finish the refresh that is at work, and let the next one begin. -/
def finish (pool : Pool) (id : Nat) (origin : Origin)
    (result : Except Resolution.LookupError Summary) : Pool × List Effect :=
  let events := pool.resultEvents origin result
  let pool := { pool with refreshes := pool.refreshes.drop 1 }
  let (pool, released) := pool.release
  let (pool, begun) := pool.beginNext
  (pool, released ++ .finished id result :: events.map .log ++ begun)

/-- The endpoint of the current snapshot for an address. -/
def existing? (pool : Pool) (ip : Ip) : Option Nat :=
  pool.roster.rotation.members.reverse.find? fun position =>
    (pool.roster.get? position).any (·.ip == ip)

/-- The place of an address in a refresh: an endpoint that there is already stays as it is. -/
def slotFor (pool : Pool) (ip : Ip) : Slot :=
  match pool.existing? ip with
  | some position => .kept position
  | none => .starting ip

/-- Remove the endpoints at some positions for good. -/
def removeAll (pool : Pool) : List Nat → Pool × List Effect
  | [] => (pool, [])
  | position :: rest =>
    match pool.roster.get? position with
    | none => pool.removeAll rest
    | some endpoint =>
      let (pool, disposed) := pool.disposeAt position
      let (pool, more) := pool.removeAll rest
      (pool,
        disposed ++
          [.evict endpoint.address,
            .log (.endpointRemoved pool.settings.hostname endpoint.address)] ++
          more)

/-- The positions among `previous` whose addresses are not in an answer. -/
def missing (pool : Pool) (previous : List Nat) (answer : List Ip) : List Nat :=
  previous.filter fun position =>
    (pool.roster.get? position).any fun endpoint => !answer.contains endpoint.ip

/-- Put the endpoints of a refresh in the place of the current snapshot, and remove those whose
addresses are gone. -/
def publish (pool : Pool) (id : Nat) (origin : Origin) (previous : List Nat) (answer : List Ip)
    (slots : List Slot) : Pool × List Effect :=
  let gone := pool.missing previous answer
  let members := pool.settings.arrange pool.number (slots.filterMap Slot.endpoint?)
  let pool :=
    { pool with
      roster := { pool.roster with rotation := { members } }
      number := pool.number + 1 }
  let shown := pool.snapshot
  let (pool, removed) := pool.removeAll gone
  let summary : Summary :=
    { kept := slots.countP Slot.isKept
      added := slots.countP Slot.isStarted
      removed := gone.length }
  let (pool, finished) := pool.finish id origin (.ok summary)
  (pool, .published shown :: removed ++ finished)

/-- Publish when every place of the refresh has its endpoint. -/
def publishIfComplete (pool : Pool) (id : Nat) (origin : Origin) (previous : List Nat)
    (answer : List Ip) (slots : List Slot) : Pool × List Effect :=
  if slots.all (·.endpoint?.isSome) then pool.publish id origin previous answer slots
  else (pool, [])

/-- Replace the phase of the refresh that is at work. -/
def setPhase (pool : Pool) (phase : Phase) : Pool :=
  { pool with
    refreshes :=
      match pool.refreshes with
      | first :: rest => { first with phase } :: rest
      | [] => [] }

/-- The first probe that a place of a refresh still needs. -/
def start? (id slot : Nat) : Slot → Option Effect
  | .starting ip => some (.start id slot ip)
  | _ => none

/-- The first probes that the places of a refresh still need. -/
def starts (id : Nat) (slots : List Slot) : List Effect :=
  slots.zipIdx.filterMap fun entry => start? id entry.2 entry.1

/-- Take in the resolver's answer. -/
def takeAnswer (pool : Pool) (id : Nat) (origin : Origin) :
    Except Resolution.LookupError (List Ip) → Pool × List Effect
  | .error error => pool.finish id origin (.error error)
  | .ok [] =>
    let count := pool.roster.rotation.members.length
    let (pool, effects) := pool.finish id origin (.ok { kept := count, unchanged := true })
    (pool, .log (.noAddresses pool.settings.hostname count) :: effects)
  | .ok (first :: rest) =>
    let answer := first :: rest
    let previous := pool.roster.rotation.members
    let slots := answer.map pool.slotFor
    let pool := pool.setPhase (.starting previous answer slots)
    match starts id slots with
    | [] => pool.publish id origin previous answer slots
    | effects => (pool, effects)

/-- Make the endpoint for one place of a refresh, now that it has been probed. -/
def takeFirstProbe (pool : Pool) (previous : List Nat) (answer : List Ip) (slots : List Slot)
    (slot now : Nat) (outcome : Health.Outcome) : Pool × List Effect :=
  match slots[slot]? with
  | some (.starting ip) =>
    let position := pool.roster.endpoints.length
    let (endpoint, event) := Endpoint.record
      { address := pool.settings.prober.target.socketAddress ip
        healthUri := some (pool.settings.prober.healthUri ip)
        schedule := .begin? pool.settings.probePeriod } now outcome
    let pool := { pool with roster := pool.roster.push endpoint }
    (pool.setPhase (.starting previous answer (slots.set slot (.started position))),
      .log event :: if endpoint.schedule.isLive then [.await position true] else [])
  | _ => (pool, [])

/-- Give up a refresh. If it was at work, the next one begins. -/
def cancel (pool : Pool) (gone : Refresh → Bool) : Pool × List Effect :=
  let pool := { pool with refreshes := pool.refreshes.filter fun refresh => !gone refresh }
  let (pool, released) := pool.release
  let (pool, begun) := pool.beginNext
  (pool, released ++ begun)

/-- One step of a pool. -/
def step (pool : Pool) : Input → Pool × List Effect
  | .refresh id origin =>
    if origin = .schedule && !pool.refreshing then (pool, [])
    else
      let asked : Pool := { pool with refreshes := pool.refreshes ++ [{ id, origin }] }
      asked.beginNext
  | .answered id answer =>
    match pool.refreshes with
    | ⟨other, origin, .lookingUp⟩ :: _ =>
      if other = id then pool.takeAnswer id origin answer else (pool, [])
    | _ => (pool, [])
  | .firstProbed id slot now outcome =>
    match pool.refreshes with
    | ⟨other, _, .starting previous answer slots⟩ :: _ =>
      if other = id then pool.takeFirstProbe previous answer slots slot now outcome else (pool, [])
    | _ => (pool, [])
  | .join id =>
    match pool.refreshes with
    | ⟨other, origin, .starting previous answer slots⟩ :: _ =>
      if other = id then pool.publishIfComplete id origin previous answer slots else (pool, [])
    | _ => (pool, [])
  | .cancel id => pool.cancel (·.id == id)
  | .due position =>
    match pool.roster.get? position with
    | some endpoint =>
      if endpoint.schedule = .waiting then
        ({ pool with roster := pool.roster.modify position ({ · with schedule := .probing }) },
          [.probe position])
      else (pool, [])
    | none => (pool, [])
  | .probed position now outcome =>
    match pool.roster.get? position with
    | some endpoint =>
      if endpoint.schedule = .probing then
        let (endpoint, event) := endpoint.record now outcome
        ({ pool with
            roster := pool.roster.modify position fun _ => { endpoint with schedule := .waiting } },
          [.log event, .await position false])
      else (pool, [])
    | none => (pool, [])
  | .setHealthy position healthy =>
    ({ pool with roster := pool.roster.setHealthy position healthy }, [])
  | .next =>
    let (endpoint, roster) := pool.roster.next
    ({ pool with roster }, [.picked endpoint])
  | .hold => ({ pool with held := pool.snapshot :: pool.held }, [])
  | .letGo =>
    let freed : Pool := { pool with held := [] }
    freed.release
  | .dispose position => pool.disposeAt position
  | .keepRefreshing => ({ pool with upkeep := .going }, [])
  | .shutDown =>
    let asked := if pool.upkeep = .going then [Effect.stop] else []
    let told : Pool := { pool with upkeep := pool.upkeep.toStop }
    let (ended, disposed) := told.disposeAll told.roster.rotation.members
    (ended, asked ++ disposed ++ [.log (.poolShutDown pool.settings.hostname)])
  | .stopped =>
    if pool.upkeep = .stopping then
      let halted : Pool := { pool with upkeep := .none }
      halted.cancel (·.origin == .schedule)
    else (pool, [])

/-- What a pool becomes through some inputs, and all that it asks on the way. -/
def run (pool : Pool) : List Input → Pool × List Effect
  | [] => (pool, [])
  | input :: inputs =>
    let (pool, effects) := pool.step input
    let (pool, more) := pool.run inputs
    (pool, effects ++ more)

end OneHost.Pool
