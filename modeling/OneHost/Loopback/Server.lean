import OneHost.Certificate.Pem
import OneHost.Connection.Conversation
import OneHost.Http.Wire
import OneHost.Trust.Chain

/-!
# A server in memory

A server that listens at one port of some addresses of the machine itself. What it answers is told
by routes: the first one that a request fits is taken, as long as it has uses left. It may answer
with any bytes, hang up, or never let a connection come about. Where it has a certificate,
connections are encrypted; the authority behind it is one that clients can be told to trust.
-/

namespace OneHost.Loopback

open Connection (Effect Input)

/-- When a server ends a connection: never of its own, after the answer, or when it is told to. -/
inductive HangUp where
  | never
  | atOnce
  | whenTold
  deriving DecidableEq

/-- What a server does with some requests. Bytes given as `raw` take the place of the response. -/
structure Route where
  path : Option String := none
  ip : Option Ip := none
  uses : Option Nat := none
  status : Nat := 200
  fields : List (String × String) := []
  body : Bytes := Text.encode "hello"
  raw : Option Bytes := none
  hangUp : HangUp := .never

/-- A request as it came in. -/
structure Visit where
  ip : Ip
  head : List String
  body : Bytes

/-- A server. It knows whether clients set up encryption, which lines speak the old version, and
which ones it is to hang up. -/
structure Server where
  port : UInt16
  listen : List Ip
  routes : List Route := []
  certificate : Option Trust.Issued := none
  full : Bool := false
  year : Nat := 2026
  greeted : Bool := false
  old : List Nat := []
  doomed : List Nat := []
  visits : List Visit := []

namespace Route

/-- Whether a request for some resource at some address takes the route. -/
def fits (route : Route) (ip : Ip) (path : String) : Bool :=
  route.path.all (· = path) && route.ip.all (· = ip) && route.uses.all (0 < ·)

/-- The route with one use fewer. -/
def used (route : Route) : Route :=
  { route with uses := route.uses.map (· - 1) }

/-- The bytes that answer a request. -/
def answer (route : Route) (method : String) : Bytes :=
  match route.raw with
  | some bytes => bytes
  | none =>
    if route.status = 204 || route.status = 304 then
      Http.Wire.encodeResponse route.status route.fields []
    else
      Http.Wire.encodeResponse route.status
        (route.fields ++ [("content-length", Text.decimal route.body.length)])
        (if method = "HEAD" then [] else route.body)

/-- Take the first route that fits, or else one that is always there. -/
def take (ip : Ip) (path : String) : List Route → Route × List Route
  | [] => ({}, [])
  | route :: rest =>
    if route.fits ip path then (route, route.used :: rest)
    else
      let (taken, rest) := take ip path rest
      (taken, route :: rest)

end Route

namespace Server

/-- The certificate of the authority that issues the certificates of servers. -/
def authority : Bytes :=
  Certificate.Content.encode
    { domains := []
      addresses := []
      subjectName := some "ca"
      notBefore := 2000
      notAfter := 2100 }

/-- The text file with the authority's certificate. -/
def authorityFile : String :=
  Certificate.Pem.encode "CERTIFICATE" authority

/-- How the server's certificate is judged by some roots. -/
def judge (server : Server) (roots : Trust.Roots) : Trust.Delegate := fun name _ =>
  match server.certificate with
  | some issued =>
    { issued with trusted := issued.trusted && roots.anchors.contains authority }.judge
      server.year name
  | none => .error (.certificate .unknownIssuer)

/-- What a client that nobody listens to is told. -/
def refusal : String := "Connection refused (os error 111)"

/-- Answer a request on a line. -/
def answer (server : Server) (line : Nat) (address : SocketAddress) (request : Http.Request) :
    List Input × Server :=
  let version : Http.Version := if server.old.contains line then .http10 else .http11
  let (route, routes) := Route.take address.ip request.uri.text server.routes
  let visit : Visit := ⟨address.ip, Http.Wire.requestLines request version, request.body⟩
  let server := { server with routes, visits := server.visits ++ [visit] }
  let ended := route.hangUp = .atOnce
  match Http.Wire.readResponse request.method ended (route.answer request.method) with
  | .done (response, reusable) _ =>
    ([.head line response] ++ (if reusable then [] else [.close line]) ++
        [.body line response.body] ++ (if ended then [.close line] else []),
      { server with
        old := if response.version = .http10 then line :: server.old else server.old
        doomed := if route.hangUp = .whenTold then line :: server.doomed else server.doomed })
  | .short => (if ended then [.broken line] else [], server)
  | .invalid => ([.broken line], server)

/-- What the server, and the machine that it runs on, reply to a client. -/
def peers : Connection.Peers Server := fun effect server =>
  match effect with
  | .awaitReady id _ => ([.ready id], server)
  | .dial id address =>
    if address.port ≠ server.port || !server.listen.contains address.ip then
      ([.connectFailed id refusal], server)
    else (if server.full then [] else [.connected id], server)
  | .secure id _ _ =>
    match server.certificate with
    | some issued =>
      ([.presented id (issued.presentation server.year)], { server with greeted := true })
    | none => ([.handshakeFailed id], server)
  | .prepare id _ => ([.opened id], server)
  | .write _ line address request =>
    if server.certificate.isSome && !server.greeted then ([.broken line], server)
    else server.answer line address request
  | .log _ | .finished .. => ([], server)

/-- Hang up where that was put off. -/
def hangUp (server : Server) : List Input × Server :=
  (server.doomed.map .close, { server with doomed := [] })

/-- Forget the requests that came in. -/
def clear (server : Server) : Server :=
  { server with visits := [] }

end Server

end OneHost.Loopback
