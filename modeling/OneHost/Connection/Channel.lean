import OneHost.Connection.Failure
import OneHost.Trust.Client

/-!
# What connections run over

Connections are plain or encrypted, as the protocol of the host says. An encrypted one presents the
hostname to the server, whichever address was dialled.
-/

namespace OneHost.Connection

/-- What the bytes of a connection pass through. -/
inductive Channel where
  | plain
  | encrypted (hostname : String) (serverName : ServerName) (client : Trust.Client)

namespace Channel

/-- An encrypted channel to a host. -/
def secure (hostname : String) (client : Trust.Client) : Except TransportError Channel :=
  match ServerName.parse? hostname with
  | some serverName => .ok (encrypted hostname serverName client)
  | none => .error (.invalidServerName hostname)

/-- The channel that the protocol of a host asks for. -/
def ofProtocol (protocol : Protocol) (hostname : String) (client : Option Trust.Client) :
    Except TransportError Channel :=
  match protocol, client with
  | .https, some client => secure hostname client
  | .https, none =>
    .error (.invalidServerName (hostname ++ " (https requires a TLS configuration)"))
  | .http, _ => .ok plain

/-- The name that servers are told. -/
def serverName? : Channel → Option String
  | plain => none
  | encrypted hostname _ _ => some hostname

/-- Whether connections are encrypted. -/
def isEncrypted : Channel → Bool
  | plain => false
  | encrypted .. => true

end Channel

end OneHost.Connection
