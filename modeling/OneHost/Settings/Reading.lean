import OneHost.Settings.Server
import OneHost.Yaml.Meaning

/-!
# Settings in a tree

How the settings are read from a tree of data. Fields that are left out have their defaults, except
the hostname, which must be there. Fields that are not known are passed over, whatever they hold,
but no known field may occur twice.
-/

namespace OneHost

open Yaml (Source Value)

/-- A field of a mapping, read in some way. Without a default it must be there. -/
def Settings.field? {α : Type} (entries : List (String × Document)) (name : String)
    (read? : Document → Option α) (default : Option α) : Option α :=
  match entries.filter (·.1 = name) with
  | [] => default
  | [entry] => read? entry.2
  | _ => none

open Settings (field?)

/-- A protocol: its name, or its name as a local tag of nothing. -/
def Protocol.ofDocument? (source : Source) (document : Document) : Option Protocol := do
  match ← source.follow document with
  | .scalar tag style text =>
    match tag.map String.toList with
    | some ('!' :: name) =>
      if style = .plain && (text.isEmpty || Yaml.isNull text) then
        parse? (if name.isEmpty then "!" else String.ofList name)
      else none
    | _ => parse? text
  | _ => none

namespace ResolverSettings

/-- The value of the only field of a kind of resolver. The field may be given by its place, which is
the first one. -/
def onlyField? (name : String) (entries : List (Value × Value)) : Option (Option Value) := do
  let values ← entries.mapM fun (key, value) =>
    match key with
    | .text other => some (if other = name then [value] else [])
    | .number place => if 0 ≤ place then some (if place = 0 then [value] else []) else none
    | _ => none
  match values.flatten with
  | [] => return none
  | [value] => return some value
  | _ => none

/-- A number of seconds, or nothing. -/
def seconds? : Option Value → Option (Option UInt64)
  | none | some .nothing => some none
  | some (.number value) => if 0 ≤ value then some (some (.ofNat value.toNat)) else none
  | _ => none

/-- A list of addresses. -/
def addresses? : Option Value → Option (List Ip)
  | some (.list items) => items.mapM fun
    | .text address => Ip.parse? address
    | _ => none
  | _ => none

/-- The resolver of a kind, where `field?` looks up the only field that it can have. -/
def ofKind? (kind : String) (field? : String → Option (Option Value)) : Option ResolverSettings :=
  match kind with
  | "system" => some .system
  | "hickory" => do return .recursive (← seconds? (← field? "cache_ttl_secs"))
  | "static" => do return .fixed (← addresses? (← field? "addresses"))
  | _ => none

/-- How deep lists and mappings may lie in one another inside the settings of a resolver. -/
def maxDepth : Nat := 126

/-- A resolver: a mapping whose `kind` says what else it can hold, or a list with the kind in
front. -/
def ofDocument? (source : Source) (document : Document) : Option ResolverSettings := do
  let read : StateT Nat Option ResolverSettings := do
    match source.follow document with
    | some (.mapping tag entries) =>
      if Yaml.isLocalTag tag then failure
      else
        let (kind, others) ← entries.foldlM (fun (kind, others) (key, value) => do
          match ← source.value? maxDepth key with
          | .text "kind" =>
            if kind.isSome then failure else return (some (← source.text? value), others)
          | key => return (kind, others ++ [(key, ← source.value? maxDepth value)]))
          ((none, []) : Option String × List (Value × Value))
        ofKind? (← kind) (onlyField? · others)
    | some (.list tag (first :: rest)) =>
      if Yaml.isLocalTag tag then failure
      else
        let kind ← source.text? first
        let rest ← rest.mapM (source.value? maxDepth)
        if (if kind = "system" then 0 else 1) < rest.length then failure
        else ofKind? kind fun _ => some rest.head?
    | _ => failure
  return (← read.run (100 * source.root.size)).1

end ResolverSettings

/-- Whom to trust. -/
def TrustSettings.ofDocument? (source : Source) (document : Document) : Option TrustSettings := do
  let entries ← source.entries? document
  let default : TrustSettings := {}
  return {
    bundledRoots := ← field? entries "webpki_roots" source.bool? (some default.bundledRoots)
    caFile := ← field? entries "ca_file" source.optionalText? (some default.caFile) }

/-- A number that fits 64 bits. -/
def Yaml.Source.uint64? (source : Source) (document : Document) : Option UInt64 := do
  return .ofNat (← source.natural? UInt64.size document)

/-- How many idle connections are kept. -/
def CacheSettings.ofDocument? (source : Source) (document : Document) : Option CacheSettings := do
  let entries ← source.entries? document
  let default : CacheSettings := {}
  return {
    maxIdlePerAddress :=
      ← field? entries "max_idle_per_address" source.uint64? (some default.maxIdlePerAddress)
    idleTimeout := ← field? entries "idle_timeout_secs" source.uint64? (some default.idleTimeout) }

/-- The settings that a tree holds. -/
def Settings.ofSource? (source : Source) : Option Settings := do
  let entries ← source.entries? source.root
  let hostname ← field? entries "hostname" source.text? none
  let default : Settings := { hostname }
  return {
    hostname
    port := .ofNat (← field? entries "port" (source.natural? UInt16.size) (some default.port.toNat))
    healthPath := ← field? entries "health_path" source.text? (some default.healthPath)
    protocol := ← field? entries "protocol" (Protocol.ofDocument? source) (some default.protocol)
    refreshPeriod :=
      ← field? entries "dns_refresh_period_secs" source.uint64? (some default.refreshPeriod)
    probePeriod :=
      ← field? entries "health_check_period_secs" source.uint64? (some default.probePeriod)
    readTimeout :=
      ← field? entries "health_read_timeout_ms" source.uint64? (some default.readTimeout)
    failureThreshold :=
      ← field? entries "failure_response_count_threshold" source.int32?
        (some default.failureThreshold)
    connectTimeout :=
      ← field? entries "connect_timeout_ms" source.uint64? (some default.connectTimeout)
    resolver :=
      ← field? entries "resolver" (ResolverSettings.ofDocument? source) (some default.resolver)
    trust := ← field? entries "tls" (TrustSettings.ofDocument? source) (some default.trust)
    cache :=
      ← field? entries "connection_cache" (CacheSettings.ofDocument? source) (some default.cache) }

end OneHost
