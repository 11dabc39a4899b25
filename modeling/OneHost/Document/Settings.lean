import OneHost.Document.Failures
import OneHost.Settings.Loading
import OneHost.Text.Dump

/-!
# Settings as documents

Settings are written with the names under which they are read, so that what is written can be read
again. The edits of requests are not part of a file. Dumps show the settings to people.
-/

namespace OneHost

open Document (natural object truth)
open Text (Dump)

/-- A resolver. -/
def ResolverSettings.document : ResolverSettings → Document
  | system => object [("kind", .text "system")]
  | recursive seconds =>
    object [("kind", .text "hickory"),
      ("cache_ttl_secs", Document.option (natural ·.toNat) seconds)]
  | fixed addresses =>
    object [("kind", .text "static"), ("addresses", Document.texts (addresses.map Ip.text))]

/-- Whom to trust. -/
def TrustSettings.document (trust : TrustSettings) : Document :=
  object (("webpki_roots", truth trust.bundledRoots) ::
    trust.caFile.toList.map fun path => ("ca_file", .text path))

/-- How many idle connections are kept. -/
def CacheSettings.document (cache : CacheSettings) : Document :=
  object [("max_idle_per_address", natural cache.maxIdlePerAddress.toNat),
    ("idle_timeout_secs", natural cache.idleTimeout.toNat)]

/-- All settings but the edits of requests. -/
def Settings.document (settings : Settings) : Document :=
  object [("hostname", .text settings.hostname), ("port", natural settings.port.toNat),
    ("health_path", .text settings.healthPath), ("protocol", .text settings.protocol.scheme),
    ("dns_refresh_period_secs", natural settings.refreshPeriod.toNat),
    ("health_check_period_secs", natural settings.probePeriod.toNat),
    ("health_read_timeout_ms", natural settings.readTimeout.toNat),
    ("failure_response_count_threshold", .word (toString settings.failureThreshold.toInt)),
    ("connect_timeout_ms", natural settings.connectTimeout.toNat),
    ("resolver", settings.resolver.document), ("tls", settings.trust.document),
    ("connection_cache", settings.cache.document)]

/-- The periods and timeouts, as whole seconds and nanoseconds. -/
def Settings.durations (settings : Settings) : Document :=
  let pair (duration : Duration) : Document :=
    Document.array [natural duration.seconds, natural duration.subsecond]
  object [("connect_timeout", pair (.ofMilliseconds settings.connectTimeout.toNat)),
    ("dns_refresh_period", pair (.ofSeconds settings.refreshPeriod.toNat)),
    ("health_check_period", pair (.ofSeconds settings.probePeriod.toNat)),
    ("health_read_timeout", pair settings.prober.readTimeout),
    ("idle_timeout", pair settings.cache.limits.idleTimeout)]

/-- A resolver, shown. -/
def ResolverSettings.dump : ResolverSettings → Dump
  | system => .atom "System"
  | recursive seconds =>
    .record "Hickory"
      [.field "cache_ttl_secs" (.option (fun value => .natural value.toNat) seconds)]
  | fixed addresses =>
    .record "Static" [.field "addresses" (.row (addresses.map fun ip => .atom ip.text))]

/-- All settings, shown. Of the edits it is shown only whether there are any. -/
def Settings.dump (settings : Settings) : Dump :=
  let protocol := match settings.protocol with
    | .http => "Http"
    | .https => "Https"
  .record "ServerConfig"
    [.field "hostname" (.quoted settings.hostname), .field "port" (.natural settings.port.toNat),
      .field "health_path" (.quoted settings.healthPath), .field "protocol" (.atom protocol),
      .field "dns_refresh_period_secs" (.natural settings.refreshPeriod.toNat),
      .field "health_check_period_secs" (.natural settings.probePeriod.toNat),
      .field "health_read_timeout_ms" (.natural settings.readTimeout.toNat),
      .field "failure_response_count_threshold" (.atom (toString settings.failureThreshold.toInt)),
      .field "connect_timeout_ms" (.natural settings.connectTimeout.toNat),
      .field "resolver" settings.resolver.dump,
      .field "tls" (.record "TlsConfig"
        [.field "webpki_roots" (.truth settings.trust.bundledRoots),
          .field "ca_file"
            (.option (fun path => .atom (Text.quoteName (Text.encode path)))
              settings.trust.caFile)]),
      .field "connection_cache" (.record "ConnectionCacheConfig"
        [.field "max_idle_per_address" (.natural settings.cache.maxIdlePerAddress.toNat),
          .field "idle_timeout_secs" (.natural settings.cache.idleTimeout.toNat)]),
      .field "transformer" (.truth settings.edits.isSome)]

/-- The name of the failure. -/
def LoadError.name : LoadError → String
  | unreadable _ => "Read"
  | notYaml => "Yaml"
  | environment (.notSet _) | environment (.notText ..) => "EnvMissing"
  | environment (.notNumber ..) => "EnvValue"
  | environment (.notProtocol _ value) => (SettingsError.invalidProtocol value).name
  | refused error => error.name

/-- Why settings cannot be loaded. -/
def LoadError.document (error : LoadError) : Document :=
  Document.failure error.name error.message

end OneHost
