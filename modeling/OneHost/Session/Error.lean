import OneHost.Dispatch.Error
import OneHost.Resolution.Answer
import OneHost.Settings.Loading
import OneHost.Trust.Roots

/-!
# Why a session fails

A session is set up in steps and then asked for things. A failure says what was attempted, and names
the cause behind it.
-/

namespace OneHost

/-- What a session could not do, with the cause. -/
inductive SessionError where
  | load (error : LoadError)
  | settings (error : SettingsError)
  | roots (error : Trust.SetupError)
  | client (error : Trust.SetupError)
  | channel (error : TransportError)
  | pool (hostname : String) (error : Resolution.LookupError)
  | lookup (hostname : String) (error : Resolution.LookupError)
  | path (path : String) (error : Http.RequestError)
  | exchange (path hostname : String) (error : DispatchError)
  | noHealthyEndpoint (hostname : String)
  | noInterval
  deriving DecidableEq

namespace SessionError

/-- What was attempted, for all failures that have a cause of their own. -/
def context? : SessionError → Option String
  | load _ | noHealthyEndpoint _ | noInterval => none
  | settings _ => some "Invalid server configuration"
  | roots _ => some "Failed to load trust anchors"
  | client _ => some "Failed to build TLS config"
  | channel _ => some "Failed to create transport"
  | pool hostname _ => some ("Failed to build endpoint pool for " ++ hostname)
  | lookup hostname _ => some ("Failed to resolve " ++ hostname)
  | path asked _ => some ("Invalid request path " ++ Text.quote asked)
  | exchange asked hostname _ => some ("GET " ++ asked ++ " on " ++ hostname ++ " failed")

/-- The texts of the causes, as far as they are known, the nearest first. -/
def causes : SessionError → List String
  | load error => error.messages
  | settings error => [error.message]
  | roots error | client error => error.ownMessage?.toList
  | channel error => error.ownMessage?.toList
  | pool _ error | lookup _ error => error.ownMessage?.toList
  | path _ error => [error.message]
  | exchange _ _ (.transport address error) =>
    (DispatchError.transport address error).message :: error.ownMessage?.toList
  | exchange _ _ error => [error.message]
  | noHealthyEndpoint hostname => ["No healthy endpoint for " ++ hostname]
  | noInterval => ["watch interval must be at least one second"]

/-- All texts, from what was attempted to the last cause. -/
def messages (error : SessionError) : List String :=
  error.context?.toList ++ error.causes

/-- The text that stands for the whole failure. -/
def summary (error : SessionError) : String :=
  error.messages.headD ""

/-- All texts on one line. -/
def message (error : SessionError) : String :=
  ": ".intercalate error.messages

end SessionError

end OneHost
