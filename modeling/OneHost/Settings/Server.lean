import OneHost.Address.Ip
import OneHost.Connection.Cache
import OneHost.Health.Prober
import OneHost.Http.Edit
import OneHost.Text.Blank

/-!
# Settings

Everything that is needed to reach one host. Only the hostname has no default. `Settings.validate`
refuses what no reader of a file or an environment can refuse by the form of a single value.
-/

namespace OneHost

/-- Why settings are refused. -/
inductive SettingsError where
  | invalidProtocol (text : String)
  | missingHostname
  | invalidValue (field reason : String)
  deriving DecidableEq

/-- The text of the refusal. -/
def SettingsError.message : SettingsError → String
  | invalidProtocol text =>
    "invalid protocol " ++ Text.quote text ++ ": expected \"http\" or \"https\""
  | missingHostname => "hostname must not be empty"
  | invalidValue field reason => "invalid value for " ++ field ++ ": " ++ reason

/-- How the hostname is turned into addresses: by the operating system, by asking name servers, or
not at all. -/
inductive ResolverSettings where
  | system
  | recursive (cacheSeconds : Option UInt64)
  | fixed (addresses : List Ip)
  deriving DecidableEq, Inhabited

/-- Whom to trust: the bundled root certificates, those of a file, or both. -/
structure TrustSettings where
  bundledRoots : Bool := true
  caFile : Option String := none
  deriving DecidableEq, Inhabited

/-- How many idle connections are kept for an address, and for how many seconds. -/
structure CacheSettings where
  maxIdlePerAddress : UInt64 := 32
  idleTimeout : UInt64 := 90
  deriving DecidableEq, Inhabited

/-- The limits of the connection cache. -/
def CacheSettings.limits (cache : CacheSettings) : Connection.Limits :=
  ⟨cache.maxIdlePerAddress.toNat, .ofSeconds cache.idleTimeout.toNat⟩

/-- The settings for one host. Periods are in seconds and timeouts in milliseconds. The threshold is
kept, but nothing asks for it. -/
structure Settings where
  hostname : String
  port : UInt16 := 443
  healthPath : String := ""
  protocol : Protocol := .https
  refreshPeriod : UInt64 := 300
  probePeriod : UInt64 := 30
  readTimeout : UInt64 := 5000
  failureThreshold : Int32 := -1
  connectTimeout : UInt64 := 10000
  resolver : ResolverSettings := .system
  trust : TrustSettings := {}
  cache : CacheSettings := {}
  edits : Option (List Http.Edit) := none
  deriving Inhabited

namespace Settings

/-- Whether a text occurs in another one. -/
def occursIn (part : List Char) : List Char → Bool
  | [] => part.isEmpty
  | c :: rest => part.isPrefixOf (c :: rest) || occursIn part rest

/-- The numbers that must not be zero, in the order in which they are looked at. -/
def positives (settings : Settings) : List (String × UInt64) :=
  [("dns_refresh_period_secs", settings.refreshPeriod),
    ("health_check_period_secs", settings.probePeriod),
    ("health_read_timeout_ms", settings.readTimeout),
    ("connect_timeout_ms", settings.connectTimeout)]

/-- Refuse settings that cannot be meant. -/
def validate (settings : Settings) : Except SettingsError Unit :=
  let hostname := settings.hostname.toList
  if (Text.trimmed hostname).isEmpty then .error .missingHostname
  else if occursIn "://".toList hostname || hostname.contains '/' then
    .error (.invalidValue "hostname" (Text.quote settings.hostname ++ " is not a bare hostname"))
  else if settings.port = 0 then .error (.invalidValue "port" "must be non-zero")
  else
    match settings.positives.find? (·.2 = 0) with
    | some (field, _) => .error (.invalidValue field "must be greater than zero")
    | none => .ok ()

/-- The host that requests are aimed at. -/
def target (settings : Settings) : Http.Target :=
  { protocol := settings.protocol, hostname := settings.hostname, port := settings.port }

/-- The change that every request goes through. -/
def transform (settings : Settings) : Http.Request → Http.Request :=
  Http.Edit.applyAll (settings.edits.getD [])

/-- How the addresses of the host are probed. -/
def prober (settings : Settings) : Health.Prober :=
  { target := settings.target
    healthPath := settings.healthPath
    readTimeout := .ofMilliseconds settings.readTimeout.toNat }

end Settings

end OneHost
