import OneHost.Dispatch.Configured
import OneHost.Pool.Configured
import OneHost.Resolution.Configured
import OneHost.Session.Error
import OneHost.Timeline.Link

/-!
# A session with one host

Everything that is needed to talk to a host: its settings, a pool of its endpoints, connections to
them, and a dispatcher for requests. Setting it up loads the roots of trust if the protocol asks for
them, looks the hostname up and probes every endpoint once.
-/

namespace OneHost

/-- A session, in the world that its pool lives in. -/
structure Session (σ : Type) where
  settings : Settings
  world : Timeline.World σ

namespace Session

variable {σ : Type}

/-- The client's end of encrypted connections, for settings that ask for them. -/
def client? (settings : Settings) (folder : Folder) (judge : Trust.Roots → Trust.Delegate) :
    Except SessionError (Option Trust.Client) × List Event :=
  if settings.protocol.isEncrypted then
    match Trust.Roots.ofSettings settings.trust folder with
    | (.error error, events) => (.error (.roots error), events)
    | (.ok roots, events) =>
      match Trust.Client.make judge settings.hostname roots with
      | .error error => (.error (.client error), events)
      | .ok client => (.ok (some client), events)
  else (.ok none, [])

/-- The transport of some settings, with the events on the way to it. -/
def transport (settings : Settings) (folder : Folder) (judge : Trust.Roots → Trust.Delegate) :
    Except SessionError Connection.Transport × List Event :=
  match client? settings folder judge with
  | (.error error, events) => (.error error, events)
  | (.ok client, events) =>
    match Connection.Channel.ofProtocol settings.protocol settings.hostname client with
    | .error error => (.error (.channel error), events)
    | .ok channel =>
      (.ok (.make channel (.ofMilliseconds settings.connectTimeout.toNat) settings.cache.limits),
        events)

/-- Set a session up among some peers. Certificates are judged by `judge`. -/
def start {ρ : Type} (peers : Connection.Peers ρ) (peer : ρ) (judge : Trust.Roots → Trust.Delegate)
    (folder : Folder) (settings : Settings) :
    Except SessionError (Session (Connection.Link ρ)) := do
  match settings.validate with
  | .error error => .error (.settings error)
  | .ok () =>
    let (transport, events) := transport settings folder judge
    let (answer, reports) := settings.resolver.resolve settings.hostname
    let world : Timeline.World (Connection.Link ρ) :=
      { network := Connection.Link.network peers
        links := ⟨← transport, peer⟩
        resolver := { answer, events := reports }
        pool := .make (.ofSettings settings)
        refreshPeriod := some settings.refreshMilliseconds
        events }
    match world.build with
    | (.error error, _) => .error (.pool settings.hostname error)
    | (.ok (), world) =>
      return {
        settings
        world := world.log
          [.clientInitialized settings.hostname settings.protocol.scheme settings.port.toNat] }

/-- The dispatcher of the session. -/
def dispatcher (session : Session σ) : Dispatcher (Timeline.World σ) :=
  .ofSettings session.settings

/-- The health of the endpoints. -/
def check (session : Session σ) : Health.Report :=
  session.world.pool.roster.report session.world.now

/-- Look the hostname up, without touching the pool. -/
def resolve (session : Session σ) : Except SessionError (List Ip) × Session σ :=
  let hostname := session.settings.hostname
  let (answer, events) := session.settings.resolver.resolve hostname
  let session := { session with world := session.world.log events }
  match answer with
  | .ok addresses => (.ok addresses, session)
  | .error error => (.error (.lookup hostname error), session)

/-- Send a request to one of the endpoints. -/
def send (session : Session σ) (request : Http.Request) :
    Except DispatchError Http.Response × Session σ :=
  let (result, world) := session.world.send session.dispatcher request false
  (result, { session with world })

/-- Ask one of the endpoints for what is at a path. -/
def get (session : Session σ) (path : String) :
    Except SessionError Http.Response × Session σ :=
  let path := Http.Target.rooted path
  match Http.Request.build "GET" path [] [] with
  | .error error => (.error (.path path error), session)
  | .ok request =>
    match session.send request with
    | (.ok response, session) => (.ok response, session)
    | (.error error, session) => (.error (.exchange path session.settings.hostname error), session)

/-- Refresh the pool. -/
def refresh (session : Session σ) :
    Option (Except Resolution.LookupError Pool.Summary) × Session σ :=
  let (result, world) := session.world.refresh
  (result, { session with world })

/-- End all that the pool does of its own. -/
def shutDown (session : Session σ) : Session σ :=
  { session with world := (session.world.input .shutDown).settle }

end Session

end OneHost
