import OneHost.Connection.Cache
import OneHost.Document.Failures
import OneHost.Pool.State

/-!
# Pools as documents

Reports, endpoints, snapshots and counts, field by field. Endpoints are listed in the order of their
addresses, since the order of a snapshot means nothing.
-/

namespace OneHost

open Document (natural truth array object)

/-- By address, then those that are down first. -/
def Health.EndpointHealth.le (left right : EndpointHealth) : Bool :=
  if left.address = right.address then !left.healthy || right.healthy
  else left.address.le right.address

/-- A report. -/
def Health.Report.fields (report : Report) : List (String × Document) :=
  [("status", .text report.status.text), ("healthy_count", natural report.healthyCount),
    ("endpoints", array ((report.endpoints.mergeSort EndpointHealth.le).map fun endpoint =>
      object [("addr", .text endpoint.address.text), ("healthy", truth endpoint.healthy),
        ("health_uri", Document.option .text endpoint.healthUri),
        ("checked", truth endpoint.sinceCheck.isSome)]))]

/-- The state of an endpoint. -/
def Pool.Endpoint.fields (endpoint : Endpoint) : List (String × Document) :=
  [("addr", .text endpoint.address.text), ("healthy", truth endpoint.isHealthy),
    ("probed", truth endpoint.health.probed), ("scheduled", truth endpoint.schedule.isLive),
    ("health_uri", Document.option .text endpoint.healthUri),
    ("checked", truth endpoint.health.lastCheck.isSome)]

/-- What a refresh did. -/
def Pool.Summary.document (summary : Summary) : Document :=
  object [("kept", natural summary.kept), ("added", natural summary.added),
    ("removed", natural summary.removed), ("unchanged", truth summary.unchanged)]

/-- What came of a refresh, once it is at its end. -/
def Pool.Summary.resultDocument : Option (Except Resolution.LookupError Summary) → Document :=
  Document.option (Document.outcome Resolution.LookupError.document Summary.document)

/-- The counts of an address. -/
def Connection.Stats.document (stats : Stats) : Document :=
  object [("created", natural stats.created), ("reused", natural stats.reused),
    ("idle", natural stats.idle), ("failed", natural stats.failed)]

namespace Pool

/-- What has been shown of a pool so far. Snapshots and endpoints are numbered in the order in which
they are first shown. -/
structure Shown where
  snapshots : List Nat := []
  endpoints : List Nat := []

/-- The number of something that is shown. -/
def numbered (seen : List Nat) (value : Nat) : Nat × List Nat :=
  if seen.contains value then (seen.idxOf value, seen) else (seen.length, seen ++ [value])

/-- The endpoints of a snapshot, by position, in the order of their addresses. -/
def snapshotMembers (pool : Pool) (snapshot : Snapshot) : List (Nat × Endpoint) :=
  (snapshot.rotation.members.filterMap fun position =>
    (pool.roster.get? position).map (position, ·)).mergeSort
      fun left right => left.2.address.le right.2.address

/-- A snapshot. -/
def snapshotFields (pool : Pool) (shown : Shown) (snapshot : Snapshot) :
    List (String × Document) × Shown :=
  let members := pool.snapshotMembers snapshot
  let (number, snapshots) := numbered shown.snapshots snapshot.number
  let (endpoints, seen) := members.foldl
    (fun (endpoints, seen) (position, endpoint) =>
      let (id, seen) := numbered seen position
      (endpoints ++ [object (("id", natural id) :: endpoint.fields)], seen))
    ([], shown.endpoints)
  ([("snapshot", natural number), ("len", natural members.length),
    ("healthy", natural (members.countP (·.2.isHealthy))), ("endpoints", array endpoints)],
    ⟨snapshots, seen⟩)

/-- The positions in the current snapshot that have an address. -/
def positionsOf (pool : Pool) (address : SocketAddress) : List Nat :=
  pool.roster.rotation.members.filter fun position =>
    (pool.roster.get? position).any (·.address == address)

end Pool

end OneHost
