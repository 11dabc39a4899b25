import OneHost.Address.Socket
import OneHost.Http.Message
import OneHost.Protocol

/-!
# Requests for one address of a host

An application addresses the hostname. Before a request goes out, its URI is made to name the
address that was chosen, while its `host` header goes on naming the host, so that servers of many
hosts and checks of certificates see the name that was meant.
-/

namespace OneHost.Http

/-- The host on whose behalf requests are sent, and how it is reached. -/
structure Target where
  protocol : Protocol
  hostname : String
  port : UInt16
  deriving DecidableEq, Inhabited

namespace Target

/-- The socket address behind an address of the host. -/
def socketAddress (target : Target) (ip : Ip) : SocketAddress :=
  ⟨ip, target.port⟩

/-- The value of the `host` header: the hostname, with the port unless the scheme implies it. -/
def hostHeader (target : Target) : String :=
  if target.port = target.protocol.defaultPort then target.hostname
  else target.hostname ++ ":" ++ Text.decimal target.port.toNat

/-- A path with a slash in front. -/
def rooted (path : String) : String :=
  if path.toList.head? = some '/' then path else "/" ++ path

/-- The text of the URI of a path at an address of the host. -/
def uriText (target : Target) (ip : Ip) (path : String) : String :=
  target.protocol.scheme ++ "://" ++ (target.socketAddress ip).text ++ rooted path

/-- The URI of a path at an address of the host. -/
def uriFor (target : Target) (ip : Ip) (path : String) : Except RequestError Uri :=
  requestUri (target.uriText ip path)

/-- Aim a request at an address of the host. Only the resource of its URI stays, and the `host`
header is made to name the host. -/
def retarget (target : Target) (ip : Ip) (request : Request) : Except RequestError Request := do
  let uri ← target.uriFor ip request.uri.resourceText
  let host ← headerValue target.hostHeader
  return { request with uri, headers := request.headers.insert "host" host }

/-- The request that asks an address of the host for its health. -/
def healthCheck (target : Target) (ip : Ip) (path : String) : Except RequestError Request := do
  let uri ← target.uriFor ip path
  let host ← headerValue target.hostHeader
  return { method := "GET", uri, headers := Headers.empty.insert "host" host }

end Target

end OneHost.Http
