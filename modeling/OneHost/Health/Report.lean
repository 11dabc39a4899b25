import OneHost.Address.Socket
import OneHost.Time.Duration

/-!
# Reports of health

A report lists the endpoints with their health and sums it up in one status.
-/

namespace OneHost.Health

/-- The health of all endpoints together. -/
inductive Status where
  | ok
  | warning
  | error
  deriving DecidableEq, Repr

namespace Status

/-- The status of `total` endpoints of which `healthy` are up. -/
def ofCounts (healthy total : Nat) : Status :=
  if healthy = 0 then error else if healthy = total then ok else warning

/-- The name of a status. -/
def text : Status → String
  | ok => "OK"
  | warning => "WARNING"
  | error => "ERROR"

/-- The status of a name. -/
def parse? : String → Option Status
  | "OK" => some ok
  | "WARNING" => some warning
  | "ERROR" => some error
  | _ => none

end Status

/-- The health of one endpoint, with the time since it was last probed. -/
structure EndpointHealth where
  address : SocketAddress
  healthUri : Option String
  healthy : Bool
  sinceCheck : Option Duration
  deriving DecidableEq

/-- The health of a set of endpoints. -/
structure Report where
  status : Status
  endpoints : List EndpointHealth

namespace Report

/-- Sum up the health of some endpoints. -/
def ofEndpoints (endpoints : List EndpointHealth) : Report :=
  ⟨.ofCounts (endpoints.countP (·.healthy)) endpoints.length, endpoints⟩

/-- How many of the endpoints are up. -/
def healthyCount (report : Report) : Nat :=
  report.endpoints.countP (·.healthy)

/-- A text with blanks behind it up to a width. -/
def padded (width : Nat) (text : String) : String :=
  text ++ String.ofList (List.replicate (width - text.length) ' ')

/-- The line of one endpoint. -/
def line (endpoint : EndpointHealth) : String :=
  "  " ++ padded 4 (if endpoint.healthy then "up" else "down") ++ " " ++
    padded 24 endpoint.address.text ++ " checked " ++
    (endpoint.sinceCheck.map Duration.age).getD "never" ++ " ago  " ++
    endpoint.healthUri.getD "-" ++ "\n"

/-- The report as text: a line for the host and one for each endpoint. -/
def text (report : Report) (hostname : String) : String :=
  hostname ++ " " ++ report.status.text ++ " (" ++ Text.decimal report.healthyCount ++ "/" ++
    Text.decimal report.endpoints.length ++ " healthy)\n" ++
    String.join (report.endpoints.map line)

end Report

end OneHost.Health
