import OneHost.Connection.Failure

/-!
# Why a request was not answered

Sending a request on behalf of a host fails when no endpoint is up, when every attempt found no
connection in time, when an exchange failed in another way, or when the request cannot be aimed at
the endpoint.
-/

namespace OneHost

/-- Why a request was not answered. -/
inductive DispatchError where
  | noHealthyEndpoint (hostname : String) (attempted : List SocketAddress)
  | retriesExhausted (attempted : List SocketAddress) (method : String) (uri : Http.Uri)
  | transport (address : SocketAddress) (error : TransportError)
  | request (error : Http.RequestError)
  deriving DecidableEq

namespace DispatchError

/-- Some addresses, in their order. -/
def addressList (addresses : List SocketAddress) : String :=
  ", ".intercalate (addresses.map SocketAddress.text)

/-- The addresses that were tried before giving up. -/
def attempted : DispatchError → List SocketAddress
  | noHealthyEndpoint _ attempted | retriesExhausted attempted _ _ => attempted
  | transport .. | request _ => []

/-- The text of the failure. -/
def message : DispatchError → String
  | noHealthyEndpoint hostname attempted =>
    "no healthy endpoint for " ++ hostname ++ " (tried: [" ++ addressList attempted ++ "])"
  | retriesExhausted attempted method uri =>
    method ++ " " ++ uri.text ++ " failed after " ++ Text.decimal attempted.length ++
      " attempts, connect timed out on [" ++ addressList attempted ++ "]"
  | transport address error =>
    "request to " ++ address.text ++ " failed: " ++ error.message
  | request error => "invalid request: " ++ error.message

end DispatchError

end OneHost
