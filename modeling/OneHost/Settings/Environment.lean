import OneHost.Settings.Server
import OneHost.Text.Number
import OneHost.Text.Utf8

/-!
# Settings in the environment

A program's environment gives values to names. The values may be any bytes, and one that is not text
is as good as none. `Settings.ofEnvironment` reads the settings that can be given in this way; the
others have their defaults.
-/

namespace OneHost

/-- Names with their values. -/
structure Environment where
  entries : List (String × Bytes)

namespace Environment

/-- The value of a name. -/
def get? (environment : Environment) (name : String) : Option Bytes :=
  environment.entries.lookup name

/-- The value of a name, if it is text. -/
def text? (environment : Environment) (name : String) : Option String :=
  (environment.get? name).bind Text.decode?

/-- Give a value to a name. -/
def set (environment : Environment) (name value : String) : Environment :=
  ⟨(name, Text.encode value) :: environment.entries⟩

end Environment

/-- Why the environment does not say what the settings are: a name that must have a value has none
or one that is not text, or a value does not mean what it should. -/
inductive EnvironmentError where
  | notSet (name : String)
  | notText (name : String) (value : Bytes)
  | notNumber (name value : String) (error : Text.NumberError)
  | notProtocol (name value : String)
  deriving DecidableEq

namespace EnvironmentError

/-- The text of the failure, and the cause of it. -/
def messages : EnvironmentError → List String
  | notSet name => [name ++ " environment variable not set", "environment variable not found"]
  | notText name value =>
    [name ++ " environment variable not set",
      "environment variable was not valid unicode: " ++ Text.quoteName value]
  | notNumber name value error =>
    [name ++ " has an invalid value: " ++ Text.quote value, error.message]
  | notProtocol name value =>
    [name ++ " has an invalid value: " ++ Text.quote value,
      (SettingsError.invalidProtocol (Text.trim value)).message]

end EnvironmentError

namespace Environment

/-- The value of a name that must have one. -/
def need (environment : Environment) (name : String) : Except EnvironmentError String :=
  match environment.get? name with
  | none => .error (.notSet name)
  | some value =>
    match Text.decode? value with
    | none => .error (.notText name value)
    | some text => .ok text

/-- A number up to `greatest`, with white space around it, if the name has a value. -/
def number (environment : Environment) (name : String) (greatest : Nat) :
    Except EnvironmentError (Option Nat) :=
  match environment.text? name with
  | none => .ok none
  | some value =>
    match Text.readNumber greatest (Text.trim value) with
    | .ok number => .ok (some number)
    | .error error => .error (.notNumber name value error)

/-- A number of 64 bits, or a default. -/
def uint64 (environment : Environment) (name : String) (default : UInt64) :
    Except EnvironmentError UInt64 := do
  return ((← environment.number name (UInt64.size - 1)).map UInt64.ofNat).getD default

/-- A protocol with white space around it, or a default. -/
def protocol (environment : Environment) (name : String) (default : Protocol) :
    Except EnvironmentError Protocol :=
  match environment.text? name with
  | none => .ok default
  | some value =>
    match Protocol.parse? (Text.trim value) with
    | some protocol => .ok protocol
    | none => .error (.notProtocol name value)

end Environment

/-- The settings that an environment gives. -/
def Settings.ofEnvironment (environment : Environment) : Except EnvironmentError Settings := do
  let hostname ← environment.need "HOSTPOOL_HOSTNAME"
  let default : Settings := { hostname }
  let port ← environment.number "HOSTPOOL_PORT" (UInt16.size - 1)
  let protocol ← environment.protocol "HOSTPOOL_PROTOCOL" default.protocol
  let refreshPeriod ← environment.uint64 "HOSTPOOL_DNS_REFRESH_SECS" default.refreshPeriod
  let probePeriod ← environment.uint64 "HOSTPOOL_HEALTH_CHECK_SECS" default.probePeriod
  let readTimeout ← environment.uint64 "HOSTPOOL_HEALTH_READ_TIMEOUT_MS" default.readTimeout
  let connectTimeout ← environment.uint64 "HOSTPOOL_CONNECT_TIMEOUT_MS" default.connectTimeout
  return {
    hostname, protocol, refreshPeriod, probePeriod, readTimeout, connectTimeout
    port := (port.map UInt16.ofNat).getD default.port
    healthPath := (environment.text? "HOSTPOOL_HEALTH_PATH").getD default.healthPath
    trust := { default.trust with caFile := environment.text? "HOSTPOOL_CA_FILE" } }

end OneHost
