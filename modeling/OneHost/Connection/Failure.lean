import OneHost.Address.Socket
import OneHost.Http.Message
import OneHost.Text.Quoted
import OneHost.Time.Duration

/-!
# Why an exchange fails

One exchange with one address can fail at each of its stages. Only a connection that is not
established in time leaves it certain that the server has seen nothing, so that alone is worth a
second try elsewhere.
-/

namespace OneHost

/-- Why an exchange with an address failed. What the layers below report in words of their own is
known only where it was given. -/
inductive TransportError where
  | connectTimeout (address : SocketAddress) (after : Duration)
  | connect (address : SocketAddress) (cause : String)
  | tls (address : SocketAddress) (cause : Option String)
  | http (address : SocketAddress) (cause : Option String)
  | readTimeout (address : SocketAddress) (after : Duration)
  | invalidServerName (name : String)
  | request (error : Http.RequestError)
  deriving DecidableEq

namespace TransportError

/-- Whether no connection came about in time. -/
def isConnectTimeout : TransportError → Bool
  | connectTimeout .. => true
  | _ => false

/-- A cause in the words of the layer below. -/
def causeText (cause : Option String) : String :=
  cause.getD "unknown cause"

/-- The text of the failure. -/
def message : TransportError → String
  | connectTimeout address after =>
    "timed out connecting to " ++ address.text ++ " after " ++ after.text
  | connect address cause => "failed to connect to " ++ address.text ++ ": " ++ cause
  | tls address cause => "TLS handshake with " ++ address.text ++ " failed: " ++ causeText cause
  | http address cause => "HTTP exchange with " ++ address.text ++ " failed: " ++ causeText cause
  | readTimeout address after =>
    "timed out waiting for " ++ address.text ++ " after " ++ after.text
  | invalidServerName name => "invalid TLS server name " ++ Text.quote name
  | request error => "invalid request: " ++ error.message

/-- The text of the failure, unless a part of it is in words that are not known. -/
def ownMessage? (error : TransportError) : Option String :=
  match error with
  | tls _ none | http _ none => none
  | error => some error.message

end TransportError

end OneHost
