import OneHost.Dispatch.Error
import OneHost.Event
import OneHost.Http.Target

/-!
# Sending a request to one of the endpoints

A dispatcher takes the next endpoint, aims the request at it and sends it. If no connection comes
about in time, the server has seen nothing of the request, and the dispatcher goes on to the next
endpoint, three times at most. Any other failure is final.

Where the endpoints come from, what carries the request, and how the application changes it on the
way is left open: each may look at and change a state that they share, in which everything else that
goes on at the same time finds its place.
-/

namespace OneHost

/-- A source of endpoints and a carrier of requests, over a state that they share. -/
structure Surroundings (σ : Type) where
  next : σ → Option SocketAddress × σ
  exchange : SocketAddress → Http.Request → σ → Except TransportError Http.Response × σ

/-- A client for one host. Each attempt's request goes through `transform` before it is aimed; what
that does may differ from one attempt to the next. -/
structure Dispatcher (σ : Type) where
  target : Http.Target
  transform : Http.Request → σ → Http.Request × σ := fun request state => (request, state)

namespace Dispatcher

/-- The client that changes every request in the same way. -/
def ofChange {σ : Type} (target : Http.Target) (change : Http.Request → Http.Request) :
    Dispatcher σ :=
  { target, transform := fun request state => (change request, state) }

/-- The most endpoints that are tried for one request. -/
def maxAttempts : Nat := 3

/-- One call of the carrier and what came of it. -/
structure Call where
  address : SocketAddress
  request : Http.Request
  outcome : Except TransportError Http.Response

/-- What became of a request, with the calls that were made for it and the events on the way. -/
structure Delivery (σ : Type) where
  result : Except DispatchError Http.Response
  calls : List Call
  events : List Event
  state : σ

/-- One attempt: the call if one was made, or else the reason why not. -/
def attempt {σ : Type} (dispatcher : Dispatcher σ) (surroundings : Surroundings σ)
    (request : Http.Request) (attempted : List SocketAddress) (state : σ) :
    Except DispatchError Call × List Event × σ :=
  match surroundings.next state with
  | (none, state) =>
    (.error (.noHealthyEndpoint dispatcher.target.hostname attempted), [], state)
  | (some address, state) =>
    let (request, state) := dispatcher.transform request state
    match dispatcher.target.retarget address.ip request with
    | .error error => (.error (.request error), [], state)
    | .ok aimed =>
      let (outcome, state) := surroundings.exchange address aimed state
      (.ok ⟨address, aimed, outcome⟩, [.dispatching address aimed.method aimed.uri.text], state)

/-- What one call means for the whole, if it is the last one. -/
def Call.result (call : Call) : Except DispatchError Http.Response :=
  match call.outcome with
  | .ok response => .ok response
  | .error error => .error (.transport call.address error)

/-- Send a request, with some attempts left after those at `attempted`. -/
def sendFrom {σ : Type} (dispatcher : Dispatcher σ) (surroundings : Surroundings σ)
    (request : Http.Request) : Nat → List SocketAddress → σ → Delivery σ
  | 0, attempted, state =>
    ⟨.error (.retriesExhausted attempted request.method request.uri), [], [], state⟩
  | left + 1, attempted, state =>
    match dispatcher.attempt surroundings request.copy attempted state with
    | (.error error, events, state) => ⟨.error error, [], events, state⟩
    | (.ok call, events, state) =>
      let number := attempted.length + 1
      match call.outcome with
      | .ok _ =>
        let more :=
          if 1 < number then [Event.succeededAfterRetry call.address number] else []
        ⟨call.result, [call], events ++ more, state⟩
      | .error error =>
        if error.isConnectTimeout then
          let rest :=
            dispatcher.sendFrom surroundings request left (attempted ++ [call.address]) state
          ⟨rest.result, call :: rest.calls,
            events ++ .connectTimedOut call.address number error.message :: rest.events,
            rest.state⟩
        else ⟨call.result, [call], events, state⟩

/-- Send a request, and try the next endpoint when no connection comes about in time. -/
def send {σ : Type} (dispatcher : Dispatcher σ) (surroundings : Surroundings σ)
    (request : Http.Request) (state : σ) : Delivery σ :=
  dispatcher.sendFrom surroundings request maxAttempts [] state

/-- Send a request with a single attempt. -/
def sendOnce {σ : Type} (dispatcher : Dispatcher σ) (surroundings : Surroundings σ)
    (request : Http.Request) (state : σ) : Delivery σ :=
  match dispatcher.attempt surroundings request [] state with
  | (.error error, events, state) => ⟨.error error, [], events, state⟩
  | (.ok call, events, state) => ⟨call.result, [call], events, state⟩

end Dispatcher

end OneHost
