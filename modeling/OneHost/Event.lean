import OneHost.Address.Socket
import OneHost.Text.Quoted

/-!
# What the client reports

Every noteworthy step of the client is an event. An event has a level, a message, and fields with
the values that the step was about; `Event.text` writes it on one line.
-/

namespace OneHost

/-- How much an event matters. -/
inductive Level where
  | debug
  | info
  | warn
  deriving DecidableEq, Repr

/-- The name of a level. -/
def Level.name : Level → String
  | debug => "DEBUG"
  | info => "INFO"
  | warn => "WARN"

/-- The events of the client. -/
inductive Event where
  | caCertificatesLoaded (path : String) (added ignored : Nat)
  | serverNameDiffers
  | nameCheckOverridden
  | hostnameMismatch (expected : String) (presented : List String)
  | systemResolverAnswered (hostname : String) (count : Nat)
  | recursiveResolverAnswered (hostname : String) (count : Nat)
  | connectionCreated (address : SocketAddress) (encrypted : Bool)
  | connectionReused (address : SocketAddress) (useCount ageSeconds : Nat)
  | connectionDiscarded (address : SocketAddress)
  | idleConnectionsEvicted (address : SocketAddress) (closed : Nat)
  | connectionsEvicted (address : SocketAddress)
  | healthChanged (address : SocketAddress) (healthy : Bool) (outcome : String)
  | healthUnchanged (address : SocketAddress) (healthy : Bool) (outcome : String)
  | scheduleCancelled (address : SocketAddress)
  | endpointRemoved (hostname : String) (address : SocketAddress)
  | noAddresses (hostname : String) (endpoints : Nat)
  | poolInitialized (hostname : String) (endpoints healthy : Nat)
  | poolRefreshed (hostname : String) (kept added removed : Nat)
  | poolUnchanged (hostname : String) (kept : Nat)
  | refreshFailed (hostname : String) (error : String)
  | poolShutDown (hostname : String)
  | dispatching (address : SocketAddress) (method uri : String)
  | connectTimedOut (address : SocketAddress) (attempt : Nat) (error : String)
  | succeededAfterRetry (address : SocketAddress) (attempt : Nat)
  | clientInitialized (hostname protocol : String) (port : Nat)
  deriving DecidableEq

namespace Event

open Text (decimal)

/-- The level of an event. -/
def level : Event → Level
  | hostnameMismatch .. | noAddresses .. | refreshFailed .. | connectTimedOut .. => .warn
  | connectionsEvicted .. | healthChanged .. | endpointRemoved .. | poolInitialized ..
  | poolRefreshed .. | succeededAfterRetry .. | clientInitialized .. => .info
  | _ => .debug

/-- The message of an event. -/
def message : Event → String
  | caCertificatesLoaded .. => "loaded CA certificates"
  | serverNameDiffers => "handshake server name differs from pinned hostname"
  | nameCheckOverridden => "delegate name check overridden by hostname matcher"
  | hostnameMismatch .. => "server certificate hostname mismatch"
  | systemResolverAnswered .. => "system resolver answered"
  | recursiveResolverAnswered .. => "hickory resolver answered"
  | connectionCreated .. => "Created new connection"
  | connectionReused .. => "Reusing connection"
  | connectionDiscarded .. => "Discarding stale connection"
  | idleConnectionsEvicted .. => "Evicted idle connections"
  | connectionsEvicted .. => "evicted endpoint connections"
  | healthChanged .. => "endpoint health changed"
  | healthUnchanged .. => "endpoint health check"
  | scheduleCancelled .. => "endpoint probe schedule cancelled"
  | endpointRemoved .. => "endpoint removed"
  | noAddresses .. => "DNS returned no addresses, keeping current endpoints"
  | poolInitialized .. => "pool initialized"
  | poolRefreshed .. => "pool refreshed"
  | poolUnchanged .. => "pool refreshed, no changes"
  | refreshFailed .. => "DNS refresh failed, keeping current endpoints"
  | poolShutDown .. => "pool shut down"
  | dispatching .. => "dispatching request"
  | connectTimedOut .. => "connect timed out, trying next endpoint"
  | succeededAfterRetry .. => "request succeeded after retry"
  | clientInitialized .. => "core initialized"

/-- The text of a truth value. -/
def boolText (value : Bool) : String :=
  if value then "true" else "false"

/-- The fields of an event, in the order in which they are written. -/
def fields : Event → List (String × String)
  | caCertificatesLoaded path added ignored =>
    [("path", path), ("added", decimal added), ("ignored", decimal ignored)]
  | serverNameDiffers | nameCheckOverridden => []
  | hostnameMismatch expected presented =>
    [("expected", expected), ("presented", Text.quoteList presented)]
  | systemResolverAnswered hostname count | recursiveResolverAnswered hostname count =>
    [("hostname", hostname), ("count", decimal count)]
  | connectionCreated address encrypted =>
    [("addr", address.text), ("tls", boolText encrypted)]
  | connectionReused address useCount ageSeconds =>
    [("addr", address.text), ("use_count", decimal useCount), ("age_secs", decimal ageSeconds)]
  | connectionDiscarded address | connectionsEvicted address | scheduleCancelled address =>
    [("addr", address.text)]
  | idleConnectionsEvicted address closed =>
    [("addr", address.text), ("closed", decimal closed)]
  | healthChanged address healthy outcome | healthUnchanged address healthy outcome =>
    [("addr", address.text), ("healthy", boolText healthy), ("outcome", outcome)]
  | endpointRemoved hostname address => [("hostname", hostname), ("addr", address.text)]
  | noAddresses hostname endpoints =>
    [("hostname", hostname), ("endpoints", decimal endpoints)]
  | poolInitialized hostname endpoints healthy =>
    [("hostname", hostname), ("endpoints", decimal endpoints), ("healthy", decimal healthy)]
  | poolRefreshed hostname kept added removed =>
    [("hostname", hostname), ("kept", decimal kept), ("added", decimal added),
      ("removed", decimal removed)]
  | poolUnchanged hostname kept => [("hostname", hostname), ("kept", decimal kept)]
  | refreshFailed hostname error => [("hostname", hostname), ("error", error)]
  | poolShutDown hostname => [("hostname", hostname)]
  | dispatching address method uri =>
    [("addr", address.text), ("method", method), ("uri", uri)]
  | connectTimedOut address attempt error =>
    [("addr", address.text), ("attempt", decimal attempt), ("error", error)]
  | succeededAfterRetry address attempt =>
    [("addr", address.text), ("attempt", decimal attempt)]
  | clientInitialized hostname protocol port =>
    [("hostname", hostname), ("protocol", protocol), ("port", decimal port)]

/-- The level and the message. -/
def heading (event : Event) : String :=
  event.level.name ++ " " ++ event.message

/-- The level, the message and the fields, on one line. -/
def text (event : Event) : String :=
  event.fields.foldl (fun line (name, value) => line ++ " " ++ name ++ "=" ++ value) event.heading

end Event

end OneHost
