import OneHost.Connection.Failure

/-!
# Scripted servers

A script says what each address answers and after what time. The behaviours of an address are used
up one by one, and the last one stays. Every request is written down when it is made.
-/

namespace OneHost.Timeline

/-- A failure of an exchange, before it is known with which address. -/
inductive Fault where
  | connectTimeout (after : Duration)
  | connect (cause : String)
  | tls (cause : String)
  | readTimeout (after : Duration)
  | serverName (name : String)
  | request (error : Http.RequestError)

/-- The failure of an exchange with an address. -/
def Fault.error (address : SocketAddress) : Fault → TransportError
  | connectTimeout after => .connectTimeout address after
  | connect cause => .connect address cause
  | tls cause => .tls address (some cause)
  | readTimeout after => .readTimeout address after
  | serverName name => .invalidServerName name
  | request error => .request error

/-- What a server does with a request, after some milliseconds. -/
structure Behaviour where
  delay : Nat := 0
  reply : Except Fault Http.Response := .ok { status := 200, body := Text.encode "scripted" }

/-- A request that was made, at a time in milliseconds. -/
structure Call where
  time : Nat
  address : SocketAddress
  request : Http.Request

/-- By time, then by address. -/
def Call.le (left right : Call) : Bool :=
  if left.time = right.time then left.address.le right.address else left.time ≤ right.time

/-- What the servers will do, what they were asked, the latest first, and which of them were
forgotten. -/
structure Script where
  behaviours : List (SocketAddress × List Behaviour) := []
  calls : List Call := []
  evicted : List SocketAddress := []

namespace Script

/-- Replace what one server will do. -/
def set (script : Script) (address : SocketAddress) (behaviours : List Behaviour) : Script :=
  { script with
    behaviours := (address, behaviours) :: script.behaviours.filter fun entry => entry.1 ≠ address }

/-- What a server does next. -/
def take (script : Script) (address : SocketAddress) : Behaviour × Script :=
  match (script.behaviours.lookup address).getD [] with
  | [] => ({}, script)
  | [last] => (last, script)
  | first :: rest => (first, script.set address rest)

/-- Send a request to a server at some time. -/
def exchange (script : Script) (now : Nat) (address : SocketAddress) (request : Http.Request) :
    (Nat × Except TransportError Http.Response) × Script :=
  let (behaviour, script) := script.take address
  let result :=
    match behaviour.reply with
    | .ok response => .ok response
    | .error fault => .error (fault.error address)
  ((behaviour.delay, result), { script with calls := ⟨now, address, request⟩ :: script.calls })

/-- Forget a server. -/
def evict (script : Script) (address : SocketAddress) : Script :=
  { script with evicted := script.evicted ++ [address] }

/-- What was asked, by time and address, and else in the order in which it was asked. -/
def sorted (script : Script) : List Call :=
  script.calls.reverse.mergeSort Call.le

/-- Forget what was written down. -/
def clear (script : Script) : Script :=
  { script with calls := [], evicted := [] }

end Script

end OneHost.Timeline
