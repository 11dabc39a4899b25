import OneHost.Connection.Transport

/-!
# Sends among peers that answer at once

The other ends of a transport's connections reply to what it asks. Where they take no time, all that
some requests bring about is over in one go; what gets no reply ends with the timeouts of the
client. Requests that are sent together go forward side by side.
-/

namespace OneHost.Connection

/-- The other ends: what they reply to an ask, in a state of their own. -/
abbrev Peers (ρ : Type) := Effect → ρ → List Input × ρ

/-- A transport and the peers that it talks to. -/
structure Link (ρ : Type) where
  transport : Transport
  peer : ρ

/-- A link with what has come of its sends so far. -/
structure Conversation (ρ : Type) extends Link ρ where
  results : List (Nat × Except TransportError Http.Response) := []
  events : List Event := []

/-- A result, the milliseconds that it took, and the events on the way. -/
abbrev Timed := Nat × Except TransportError Http.Response

namespace Conversation

variable {ρ : Type}

/-- Serve what a transport asks and tells, in its order, and then what follows from that. The first
argument bounds how often. -/
def serve (peers : Peers ρ) : Nat → List Effect → Conversation ρ → Conversation ρ
  | 0, _, conversation | _, [], conversation => conversation
  | bound + 1, effect :: rest, conversation =>
    match effect with
    | .log event =>
      serve peers bound rest { conversation with events := conversation.events ++ [event] }
    | .finished id result =>
      serve peers bound rest
        { conversation with results := (id, result) :: conversation.results }
    | ask =>
      let (inputs, peer) := peers ask conversation.peer
      let (transport, effects) := conversation.transport.run inputs
      serve peers bound (rest ++ effects) { conversation with transport, peer }

/-- More than all sends under way can ask and tell: for each of them one word for every connection
that there has been, and some more. -/
def bound (transport : Transport) : Nat :=
  (transport.sends.length + 1) * (2 * transport.lines.length + 16)

/-- Give a transport some inputs and serve what follows. -/
def input (peers : Peers ρ) (conversation : Conversation ρ) (inputs : List Input) :
    Conversation ρ :=
  let (transport, effects) := conversation.transport.run inputs
  serve peers (bound transport + effects.length) effects { conversation with transport }

/-- How a send ends that gets no reply, and after how many milliseconds: the wait for a connection
has a timeout, unless the client waits less long for the whole. -/
def giveUp (transport : Transport) (limit : Option Nat) (sending : Sending) : Nat × Input :=
  let timeout := transport.connectTimeout.milliseconds
  match sending.stage, limit with
  | .dialling, limit =>
    if limit.all (timeout ≤ ·) then (timeout, .connectTimedOut sending.id)
    else (limit.getD 0 + 1, .cancel sending.id)
  | _, some limit => (limit + 1, .cancel sending.id)
  | stage, none =>
    (0, (stage.checkout?.map fun checkout => Input.broken checkout.connection).getD
      (.cancel sending.id))

/-- The result of a send, in the time that it took. -/
def resultOf (conversation : Conversation ρ) (address : SocketAddress) (delays : List (Nat × Nat))
    (id : Nat) : Timed :=
  ((delays.lookup id).getD 0,
    (conversation.results.lookup id).getD (.error (.http address none)))

/-- Send requests to one address, all at the same time. -/
def exchangeAll (peers : Peers ρ) (now : Nat) (limit : Option Nat) (address : SocketAddress)
    (requests : List Http.Request) (link : Link ρ) : List Timed × Conversation ρ :=
  let conversation : Conversation ρ := { link with }
  let sends := requests.mapIdx fun id request => Input.send id address request
  let conversation :=
    conversation.input peers (.elapse (now * 1000000 - link.transport.now) :: sends)
  let ends := conversation.transport.sends.map fun sending =>
    (sending.id, giveUp conversation.transport limit sending)
  let conversation := conversation.input peers (ends.map (·.2.2))
  let delays := ends.map fun (id, delay, _) => (id, delay)
  ((List.range requests.length).map (conversation.resultOf address delays), conversation)

/-- Send a request to an address. -/
def exchange (peers : Peers ρ) (now : Nat) (limit : Option Nat) (address : SocketAddress)
    (request : Http.Request) (link : Link ρ) : Timed × Conversation ρ :=
  let (results, conversation) := exchangeAll peers now limit address [request] link
  (results.headD (0, .error (.http address none)), conversation)

end Conversation

end OneHost.Connection
