import OneHost.Connection.Cache
import OneHost.Connection.Line

/-!
# Sending requests to addresses

A send takes an idle connection to the address, or makes one, writes its request and waits for the
whole answer; only then does the connection go back to be used again. Connecting, securing, waiting
for an answer: wherever a send waits, other sends go on, connections close, addresses are evicted,
and the send itself may be cancelled.

So everything that happens to a transport is an input, and `step` says what the transport becomes
and what it asks of the world outside. An input that does not fit the state changes nothing.
-/

namespace OneHost.Connection

/-- How far a send has come: it has an idle connection and waits until that is ready; it waits for a
connection, for its security, for it to be opened for requests; it has written its request; it has
the head of the answer. -/
inductive Stage where
  | readying (checkout : Checkout Nat)
  | dialling
  | securing
  | opening (secured : Option Secured)
  | waiting (checkout : Checkout Nat)
  | receiving (checkout : Checkout Nat) (head : Http.Response)

/-- The connection that a send holds. -/
def Stage.checkout? : Stage → Option (Checkout Nat)
  | readying checkout | waiting checkout | receiving checkout _ => some checkout
  | dialling | securing | opening _ => none

/-- A send that is under way. Its request is in the form in which it is written. -/
structure Sending where
  id : Nat
  address : SocketAddress
  request : Http.Request
  stage : Stage

/-- The connections of a client, and its sends under way. -/
structure Transport where
  channel : Channel
  connectTimeout : Duration
  cache : Cache Nat
  lines : List Line := []
  sends : List Sending := []
  now : Nat := 0

/-- What can happen to a transport. -/
inductive Input where
  /-- A request is to be sent to an address. -/
  | send (id : Nat) (address : SocketAddress) (request : Http.Request)
  /-- The idle connection that a send has taken is ready for its request. -/
  | ready (id : Nat)
  /-- The idle connection that a send has taken will take no request. -/
  | notReady (id : Nat)
  /-- A connection has been made. -/
  | connected (id : Nat)
  /-- No connection can be made. -/
  | connectFailed (id : Nat) (cause : String)
  /-- No connection has been made in time. -/
  | connectTimedOut (id : Nat)
  /-- A connection has been made, but it cannot be set up. -/
  | unusable (id : Nat) (cause : String)
  /-- The server has presented its certificate. -/
  | presented (id : Nat) (presentation : Trust.Presentation)
  /-- The handshake has failed before the server was judged. -/
  | handshakeFailed (id : Nat)
  /-- A connection is open for requests. -/
  | opened (id : Nat)
  /-- A connection cannot be opened for requests. -/
  | openFailed (id : Nat)
  /-- The head of an answer has come. -/
  | head (line : Nat) (response : Http.Response)
  /-- The body of an answer has come whole. -/
  | body (line : Nat) (body : Bytes)
  /-- An exchange has failed. -/
  | broken (line : Nat)
  /-- The other end has closed a connection. -/
  | close (line : Nat)
  /-- A send is given up. -/
  | cancel (id : Nat)
  /-- All that is kept for an address is to be forgotten. -/
  | evict (address : SocketAddress)
  /-- Time has passed. -/
  | elapse (nanoseconds : Nat)

/-- What a transport asks of the world outside, and what it tells. -/
inductive Effect where
  /-- Wait until an idle connection is ready for the request of a send. -/
  | awaitReady (id line : Nat)
  /-- Connect to an address. -/
  | dial (id : Nat) (address : SocketAddress)
  /-- Secure the connection of a send, telling the server a name. -/
  | secure (id : Nat) (address : SocketAddress) (name : ServerName)
  /-- Open the connection of a send for requests. -/
  | prepare (id : Nat) (address : SocketAddress)
  /-- Write the request of a send to a connection. -/
  | write (id line : Nat) (address : SocketAddress) (request : Http.Request)
  /-- Report an event. -/
  | log (event : Event)
  /-- A send is finished. -/
  | finished (id : Nat) (result : Except TransportError Http.Response)

namespace Transport

/-- A transport that has done nothing yet. -/
def make (channel : Channel) (connectTimeout : Duration) (limits : Limits) : Transport :=
  { channel, connectTimeout, cache := { limits } }

/-- Whether a connection is open. -/
def isOpen (transport : Transport) (line : Nat) : Bool :=
  transport.lines[line]?.any (·.isOpen)

/-- Change a connection. -/
def modifyLine (transport : Transport) (line : Nat) (change : Line → Line) : Transport :=
  { transport with lines := transport.lines.modify line change }

/-- The send with a number. -/
def send? (transport : Transport) (id : Nat) : Option Sending :=
  transport.sends.find? (·.id = id)

/-- The send that holds a connection. -/
def holder? (transport : Transport) (line : Nat) : Option Sending :=
  transport.sends.find? fun sending => sending.stage.checkout?.any (·.connection = line)

/-- Forget a send. -/
def withoutSend (transport : Transport) (id : Nat) : Transport :=
  { transport with sends := transport.sends.filter (·.id ≠ id) }

/-- Bring a send to a stage. -/
def enter (transport : Transport) (sending : Sending) (stage : Stage) : Transport :=
  { transport with
    sends := { sending with stage } :: transport.sends.filter (·.id ≠ sending.id) }

/-- End a send with a result. -/
def finish (transport : Transport) (sending : Sending)
    (result : Except TransportError Http.Response) : Transport × List Effect :=
  (transport.withoutSend sending.id, [.finished sending.id result])

/-- End a send because no connection could be made. -/
def fail (transport : Transport) (sending : Sending) (error : TransportError) :
    Transport × List Effect :=
  { transport with cache := transport.cache.recordFailed sending.address }.finish sending
    (.error error)

/-- Take an idle connection for a send, or begin to make one. -/
def acquire (transport : Transport) (sending : Sending) : Transport × List Effect :=
  let (checkout, events, cache) :=
    transport.cache.checkout transport.isOpen transport.now sending.address
  let transport := { transport with cache }
  match checkout with
  | some checkout =>
    (transport.enter sending (.readying checkout),
      events.map .log ++ [.awaitReady sending.id checkout.connection])
  | none =>
    (transport.enter sending .dialling, events.map .log ++ [.dial sending.id sending.address])

/-- Write the request of a send to a connection. -/
def writeTo (transport : Transport) (sending : Sending) (checkout : Checkout Nat) :
    Transport × List Effect :=
  ((transport.modifyLine checkout.connection (·.write sending.request)).enter sending
      (.waiting checkout),
    [.write sending.id checkout.connection sending.address sending.request])

/-- Go on with a send that has a bare connection. -/
def connected (transport : Transport) (sending : Sending) : Transport × List Effect :=
  match transport.channel with
  | .plain => (transport.enter sending (.opening none), [.prepare sending.id sending.address])
  | .encrypted _ name _ =>
    (transport.enter sending .securing, [.secure sending.id sending.address name])

/-- Judge what the server of a send presents. -/
def judge (transport : Transport) (sending : Sending) (presentation : Trust.Presentation) :
    Transport × List Effect :=
  match transport.channel with
  | .plain => (transport, [])
  | .encrypted _ name client =>
    let (verdict, events) := client.verifier.verify name presentation
    let (transport, effects) :=
      match verdict with
      | .ok () =>
        (transport.enter sending (.opening (some ⟨name, presentation.leaf⟩)),
          [Effect.prepare sending.id sending.address])
      | .error _ => transport.fail sending (.tls sending.address none)
    (transport, events.map Effect.log ++ effects)

/-- Go on with a send whose connection takes requests: it counts, and the request is written. -/
def opened (transport : Transport) (sending : Sending) (secured : Option Secured) :
    Transport × List Effect :=
  let line := transport.lines.length
  let transport : Transport :=
    { transport with
      lines := transport.lines ++ [{ address := sending.address, secured }]
      cache := transport.cache.recordCreated sending.address }
  let (transport, effects) := transport.writeTo sending (.fresh line transport.now)
  (transport,
    .log (.connectionCreated sending.address transport.channel.isEncrypted) :: effects)

/-- Go on with a send whose answer has come whole: its connection is idle from now on. -/
def complete (transport : Transport) (sending : Sending) (checkout : Checkout Nat)
    (response : Http.Response) : Transport × List Effect :=
  { transport with
    cache := transport.cache.checkin transport.isOpen transport.now sending.address
      checkout }.finish sending (.ok response)

/-- Go on with the send of a number, if it is under way. -/
def advance (transport : Transport) (id : Nat)
    (change : Sending → Transport × List Effect) : Transport × List Effect :=
  match transport.send? id with
  | some sending => change sending
  | none => (transport, [])

/-- One step. -/
def step (transport : Transport) : Input → Transport × List Effect
  | .send id address request =>
    if (transport.send? id).isSome then (transport, [])
    else
      match request.originForm with
      | .error error => (transport, [.finished id (.error (.request error))])
      | .ok request => transport.acquire { id, address, request, stage := .dialling }
  | .ready id =>
    transport.advance id fun sending =>
      match sending.stage with
      | .readying checkout => transport.writeTo sending checkout
      | _ => (transport, [])
  | .notReady id =>
    transport.advance id fun sending =>
      match sending.stage with
      | .readying _ => transport.acquire sending
      | _ => (transport, [])
  | .connected id =>
    transport.advance id fun sending =>
      match sending.stage with
      | .dialling => transport.connected sending
      | _ => (transport, [])
  | .connectFailed id cause =>
    transport.advance id fun sending =>
      match sending.stage with
      | .dialling => transport.fail sending (.connect sending.address cause)
      | _ => (transport, [])
  | .connectTimedOut id =>
    transport.advance id fun sending =>
      match sending.stage with
      | .dialling =>
        transport.fail sending (.connectTimeout sending.address transport.connectTimeout)
      | _ => (transport, [])
  | .unusable id cause =>
    transport.advance id fun sending =>
      match sending.stage with
      | .dialling => transport.finish sending (.error (.connect sending.address cause))
      | _ => (transport, [])
  | .presented id presentation =>
    transport.advance id fun sending =>
      match sending.stage with
      | .securing => transport.judge sending presentation
      | _ => (transport, [])
  | .handshakeFailed id =>
    transport.advance id fun sending =>
      match sending.stage with
      | .securing => transport.fail sending (.tls sending.address none)
      | _ => (transport, [])
  | .opened id =>
    transport.advance id fun sending =>
      match sending.stage with
      | .opening secured => transport.opened sending secured
      | _ => (transport, [])
  | .openFailed id =>
    transport.advance id fun sending =>
      match sending.stage with
      | .opening _ => transport.finish sending (.error (.http sending.address none))
      | _ => (transport, [])
  | .head line response =>
    match transport.holder? line with
    | some sending =>
      match sending.stage with
      | .waiting checkout => (transport.enter sending (.receiving checkout response), [])
      | _ => (transport, [])
    | none => (transport, [])
  | .body line body =>
    match transport.holder? line with
    | some sending =>
      match sending.stage with
      | .receiving checkout head =>
        (transport.modifyLine line (·.noteAnswer)).complete sending checkout { head with body }
      | _ => (transport, [])
    | none => (transport.modifyLine line (·.noteAnswer), [])
  | .broken line =>
    let transport := transport.modifyLine line (·.close)
    match transport.holder? line with
    | some sending =>
      match sending.stage with
      | .waiting _ | .receiving .. =>
        transport.finish sending (.error (.http sending.address none))
      | _ => (transport, [])
    | none => (transport, [])
  | .close line => (transport.modifyLine line (·.close), [])
  | .cancel id => (transport.withoutSend id, [])
  | .evict address =>
    let (events, cache) := transport.cache.evict address
    ({ transport with cache }, events.map .log ++ [.log (.connectionsEvicted address)])
  | .elapse nanoseconds => ({ transport with now := transport.now + nanoseconds }, [])

/-- What a transport becomes through some inputs, and all that it asks and tells on the way. -/
def run (transport : Transport) : List Input → Transport × List Effect
  | [] => (transport, [])
  | input :: inputs =>
    let (transport, effects) := transport.step input
    let (transport, more) := transport.run inputs
    (transport, effects ++ more)

end Transport

end OneHost.Connection
