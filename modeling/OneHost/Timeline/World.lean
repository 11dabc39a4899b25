import OneHost.Dispatch.Dispatcher
import OneHost.Pool.Step
import OneHost.Timeline.Script

/-!
# A pool in time

A world is a pool together with what surrounds it: servers, a resolver and a clock that stands still
until it is advanced. Nothing takes time but what the servers and the resolver say does. The timers
fire in the order of their instants and, at one instant, in the order in which they were set; what
takes no time is done at once, and what is begun beside it comes after what is already at work.
-/

namespace OneHost.Timeline

/-- Servers: how long a request takes, what comes of it and which events it causes, and what it
means to forget an address. A request is made at some time, and waited for as long as its limit
says. Times are in milliseconds. -/
structure Network (σ : Type) where
  exchange : (now : Nat) → (limit : Option Nat) → SocketAddress → Http.Request → σ →
    (Nat × Except TransportError Http.Response × List Event) × σ
  evict : SocketAddress → σ → List Event × σ

/-- The servers of a script. -/
def Script.network : Network Script where
  exchange now _ address request script :=
    let ((delay, result), script) := script.exchange now address request
    ((delay, result, []), script)
  evict address script := ([], script.evict address)

/-- A resolver: its answer, what it reports of it, and the milliseconds it takes. The answer is that
of the moment at which it is given. -/
structure Resolver where
  answer : Except Resolution.LookupError (List Ip)
  events : List Event := []
  delay : Nat := 0

/-- Something that happens to the pool at some instant. -/
inductive Action where
  | answer (id : Nat)
  | start (id slot : Nat) (ip : Ip)
  | firstProbed (id slot : Nat) (outcome : Health.Outcome)
  | join (id : Nat)
  | due (position deadline : Nat)
  | probed (position : Nat) (outcome : Health.Outcome)
  | refreshDue (deadline : Nat)
  | stop

/-- An action that waits for its instant. -/
structure Timer where
  instant : Nat
  action : Action

/-- The instant of the next turn of a schedule whose turn was to come at `deadline` and is taken
`now`. A turn that is taken more than five milliseconds late moves all that follow. -/
def nextDeadline (period deadline now : Nat) : Nat :=
  if deadline + 5 < now then now + period else deadline + period

/-- A pool with its surroundings, and the events that were reported, the latest first. -/
structure World (σ : Type) where
  network : Network σ
  links : σ
  resolver : Resolver
  pool : Pool
  refreshPeriod : Option Nat := none
  now : Nat := 0
  ready : List Action := []
  timers : List Timer := []
  deadlines : List (Nat × Nat) := []
  refreshDeadline : Nat := 0
  nextRefresh : Nat := 0
  events : List Event := []
  asked : Nat := 0
  finished : List (Nat × Except Resolution.LookupError Pool.Summary) := []
  picked : Option SocketAddress := none

namespace World

variable {σ : Type}

/-- Write down some events. -/
def log (world : World σ) (events : List Event) : World σ :=
  { world with events := events.reverse ++ world.events }

/-- Do something after some milliseconds, and at once if there are none. -/
def after (world : World σ) (delay : Nat) (action : Action) : World σ :=
  if delay = 0 then { world with ready := action :: world.ready }
  else { world with timers := world.timers ++ [⟨world.now + delay, action⟩] }

/-- Do something at an instant, and at once if that has come. -/
def atInstant (world : World σ) (instant : Nat) (action : Action) : World σ :=
  world.after (instant - world.now) action

/-- Send a request to an address, where the result is known at once together with its delay. -/
def exchange (limit : Option Duration) (address : SocketAddress) (request : Http.Request)
    (world : World σ) : (Duration × Except TransportError Http.Response) × World σ :=
  let ((delay, result, events), links) :=
    world.network.exchange world.now (limit.map (·.milliseconds)) address request world.links
  ((.ofMilliseconds delay, result), { world with links }.log events)

/-- Probe an address. -/
def probe (world : World σ) (ip : Ip) : (Nat × Health.Outcome) × World σ :=
  let prober := world.pool.settings.prober
  let ((delay, outcome), world) := prober.probe (fun limit => exchange (some limit)) ip world
  ((delay.milliseconds, outcome), world)

/-- The period of probes. -/
def probePeriod (world : World σ) : Nat := world.pool.settings.probePeriod.getD 0

/-- The period of the pool's own refreshes. -/
def period (world : World σ) : Nat := world.refreshPeriod.getD 0

/-- Do what the pool asks for. -/
def serve (world : World σ) : Pool.Effect → World σ
  | .log event => world.log [event]
  | .lookUp id =>
    { world with asked := world.asked + 1 }.after world.resolver.delay (.answer id)
  | .start id slot ip => { world with ready := world.ready ++ [.start id slot ip] }
  | .await position first =>
    let deadline :=
      if first then world.now + world.probePeriod
      else (world.deadlines.lookup position).getD world.now
    world.atInstant deadline (.due position deadline)
  | .probe position =>
    match world.pool.roster.get? position with
    | none => world
    | some endpoint =>
      let ((delay, outcome), world) := world.probe endpoint.ip
      world.after delay (.probed position outcome)
  | .evict address =>
    let (events, links) := world.network.evict address world.links
    { world with links }.log events
  | .published _ => world
  | .finished id result => { world with finished := (id, result) :: world.finished }
  | .picked endpoint => { world with picked := endpoint.map (·.address) }
  | .stop => { world with ready := world.ready ++ [.stop] }

/-- Give the pool an input and do what it asks for. -/
def input (world : World σ) (input : Pool.Input) : World σ :=
  let (pool, effects) := world.pool.step input
  effects.foldl serve { world with pool }

/-- Set the timer of the pool's next refresh of its own. -/
def awaitRefresh (world : World σ) : World σ :=
  world.atInstant world.refreshDeadline (.refreshDue world.refreshDeadline)

/-- Set the timer again if a refresh of the pool's own has come to its end. -/
def rearm (before world : World σ) : World σ :=
  let isOwn (pool : Pool) := pool.refreshes.any (·.origin == .schedule)
  if isOwn before.pool && !isOwn world.pool && world.pool.refreshing then world.awaitRefresh
  else world

/-- Do an action. -/
def perform (world : World σ) (action : Action) : World σ :=
  match action with
  | .answer id =>
    rearm world ((world.log world.resolver.events).input (.answered id world.resolver.answer))
  | .start id slot ip =>
    let ((delay, outcome), world) := world.probe ip
    world.after delay (.firstProbed id slot outcome)
  | .firstProbed id slot outcome =>
    let world := world.input (.firstProbed id slot world.now outcome)
    { world with ready := world.ready ++ [.join id] }
  | .join id => rearm world (world.input (.join id))
  | .due position deadline =>
    { world with
      deadlines :=
        (position, nextDeadline world.probePeriod deadline world.now) ::
          world.deadlines.filter (·.1 ≠ position) }.input (.due position)
  | .probed position outcome => world.input (.probed position world.now outcome)
  | .refreshDue deadline =>
    { world with
      refreshDeadline := nextDeadline world.period deadline world.now
      nextRefresh := world.nextRefresh + 1 }.input (.refresh world.nextRefresh .schedule)
  | .stop => world.input .stopped

/-- The first timer of the earliest instant, among those up to a limit. -/
def earliest (limit : Option Nat) (timers : List Timer) : Option Timer :=
  timers.foldl (fun best timer =>
    if limit.all (timer.instant ≤ ·) then
      match best with
      | some other => if timer.instant < other.instant then some timer else best
      | none => some timer
    else best) none

/-- Take out the first timer of an instant. -/
def withoutTimer (instant : Nat) : List Timer → List Timer
  | [] => []
  | timer :: rest =>
    if timer.instant = instant then rest else timer :: withoutTimer instant rest

/-- Let happen what is at hand, and then what the timers bring up to a limit, until `stop` holds.
The first argument bounds the number of actions. -/
def run : Nat → Option Nat → (World σ → Bool) → World σ → World σ
  | 0, _, _, world => world
  | bound + 1, limit, stop, world =>
    if stop world then world
    else
      match world.ready with
      | action :: ready => run bound limit stop ({ world with ready }.perform action)
      | [] =>
        match earliest limit world.timers with
        | none => world
        | some timer =>
          run bound limit stop
            ({ world with
                now := max world.now timer.instant
                timers := withoutTimer timer.instant world.timers }.perform timer.action)

/-- A number of actions that no run comes near. -/
def patience : Nat := 1000000000000

/-- Let happen what is due at the present instant. -/
def settle (world : World σ) : World σ :=
  run patience (some world.now) (fun _ => false) world

/-- Let some milliseconds pass, with all that happens in them. -/
def advance (world : World σ) (milliseconds : Nat) : World σ :=
  let instant := world.now + milliseconds
  { run patience (some instant) (fun _ => false) world with now := instant }

/-- The result of a refresh that has come to its end. -/
def result? (world : World σ) (id : Nat) : Option (Except Resolution.LookupError Pool.Summary) :=
  world.finished.lookup id

/-- Ask for a refresh. -/
def ask (world : World σ) (origin : Pool.Origin) : Nat × World σ :=
  (world.nextRefresh,
    { world with nextRefresh := world.nextRefresh + 1 }.input (.refresh world.nextRefresh origin))

/-- Let time pass until some refreshes have come to their ends. -/
def await (world : World σ) (ids : List Nat) : World σ :=
  (run patience none (fun world => ids.all fun id => (world.result? id).isSome) world).settle

/-- Refresh the pool and wait for the end. -/
def refresh (world : World σ) (origin : Pool.Origin := .caller) :
    Option (Except Resolution.LookupError Pool.Summary) × World σ :=
  let (id, world) := world.ask origin
  let world := world.await [id]
  (world.result? id, world)

/-- Let the pool refresh itself from now on. A period of nothing ends that before it begins. -/
def keepRefreshing (world : World σ) : World σ :=
  match world.refreshPeriod with
  | none | some 0 => world
  | some period =>
    { world with refreshDeadline := world.now + period }.input .keepRefreshing |>.awaitRefresh

/-- Take the next endpoint. -/
def next (world : World σ) : Option SocketAddress × World σ :=
  let world := world.input .next
  (world.picked, world)

/-- A dispatcher's surroundings: the pool and its servers. While an exchange takes its time,
everything else goes on. -/
def surroundings : Surroundings (World σ) where
  next := next
  exchange address request world :=
    let ((delay, result), world) := world.exchange none address request
    (result, world.advance delay.milliseconds)

/-- Send a request through the pool. -/
def send (world : World σ) (dispatcher : Dispatcher (World σ)) (request : Http.Request)
    (once : Bool) : Except DispatchError Http.Response × World σ :=
  let delivery :=
    if once then dispatcher.sendOnce surroundings request world
    else dispatcher.send surroundings request world
  (delivery.result, delivery.state.log delivery.events)

/-- Build the pool: refresh it for the first time, and let it refresh itself from then on. -/
def build (world : World σ) : Except Resolution.LookupError Unit × World σ :=
  match world.refresh .construction with
  | (some (.error error), world) => (.error error, world)
  | (_, world) => (.ok (), world.keepRefreshing.settle)

end World

end OneHost.Timeline
