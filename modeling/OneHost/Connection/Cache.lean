import OneHost.Event
import OneHost.Time.Duration

/-!
# Idle connections

A connection that has carried a whole exchange is kept for the next request to the same address. The
connection that came back last goes out first; on the way to one that can still be used, those that
have closed or have been idle for too long are thrown away.
-/

namespace OneHost.Connection

/-- How many connections are kept for an address, and for how long. -/
structure Limits where
  maxIdlePerAddress : Nat
  idleTimeout : Duration
  deriving DecidableEq, Inhabited

/-- A connection that is kept, with the number of exchanges it has carried. Times are in
nanoseconds. -/
structure Idle (α : Type) where
  connection : α
  idleSince : Nat
  useCount : Nat
  createdAt : Nat

/-- A connection that someone has in hand. -/
structure Checkout (α : Type) where
  connection : α
  useCount : Nat
  createdAt : Nat

/-- A connection that has just been made. -/
def Checkout.fresh {α : Type} (connection : α) (now : Nat) : Checkout α :=
  { connection, useCount := 0, createdAt := now }

/-- The counts of one address. -/
structure Stats where
  created : Nat
  reused : Nat
  idle : Nat
  failed : Nat
  deriving DecidableEq

/-- What is kept for one address: the connections, the last to come back first, and the counts. -/
structure Shelf (α : Type) where
  connections : List (Idle α) := []
  created : Nat := 0
  reused : Nat := 0
  failed : Nat := 0

namespace Shelf

/-- The counts of a shelf. -/
def stats {α : Type} (shelf : Shelf α) : Stats :=
  { created := shelf.created
    reused := shelf.reused
    idle := shelf.connections.length
    failed := shelf.failed }

end Shelf

/-- The idle connections of all addresses. There is a shelf for each address that has a history. -/
structure Cache (α : Type) where
  limits : Limits
  shelves : List (SocketAddress × Shelf α) := []

/-- Whether a connection that is kept may go out again. -/
def Idle.isUsable {α : Type} (idle : Idle α) (isOpen : α → Bool) (timeout : Duration) (now : Nat) :
    Bool :=
  isOpen idle.connection && now - idle.idleSince < timeout.nanoseconds

/-- The first connection that satisfies a test and those behind it, with the number of those before
it. -/
def firstUsable? {α : Type} (usable : Idle α → Bool) :
    List (Idle α) → Nat × Option (Idle α × List (Idle α))
  | [] => (0, none)
  | idle :: rest =>
    if usable idle then (0, some (idle, rest))
    else
      let (discarded, found) := firstUsable? usable rest
      (discarded + 1, found)

namespace Cache

variable {α : Type}

/-- The shelf of an address. -/
def shelf? (cache : Cache α) (address : SocketAddress) : Option (Shelf α) :=
  cache.shelves.lookup address

/-- Replace the shelf of an address. -/
def setShelf (cache : Cache α) (address : SocketAddress) (shelf : Shelf α) : Cache α :=
  { cache with shelves := (address, shelf) :: cache.shelves.filter fun entry => entry.1 ≠ address }

/-- Change the shelf of an address, which comes to be if there was none. -/
def modifyShelf (cache : Cache α) (address : SocketAddress) (change : Shelf α → Shelf α) :
    Cache α :=
  cache.setShelf address (change ((cache.shelf? address).getD {}))

/-- Take a connection to an address that can still be used. -/
def checkout (cache : Cache α) (isOpen : α → Bool) (now : Nat) (address : SocketAddress) :
    Option (Checkout α) × List Event × Cache α :=
  match cache.shelf? address with
  | none => (none, [], cache)
  | some shelf =>
    let usable (idle : Idle α) := idle.isUsable isOpen cache.limits.idleTimeout now
    let (discarded, found) := firstUsable? usable shelf.connections
    let events := List.replicate discarded (Event.connectionDiscarded address)
    match found with
    | none => (none, events, cache.setShelf address { shelf with connections := [] })
    | some (idle, rest) =>
      (some ⟨idle.connection, idle.useCount, idle.createdAt⟩,
        events ++ [.connectionReused address idle.useCount
          (Duration.seconds ⟨now - idle.createdAt⟩)],
        cache.setShelf address
          { shelf with connections := rest, reused := shelf.reused + 1 })

/-- Give a connection back after a whole exchange. One that has closed is of no use, and one too
many is not kept. -/
def checkin (cache : Cache α) (isOpen : α → Bool) (now : Nat) (address : SocketAddress)
    (checkout : Checkout α) : Cache α :=
  if isOpen checkout.connection then
    cache.modifyShelf address fun shelf =>
      if shelf.connections.length < cache.limits.maxIdlePerAddress then
        { shelf with
          connections :=
            ⟨checkout.connection, now, checkout.useCount + 1, checkout.createdAt⟩ ::
              shelf.connections }
      else shelf
  else cache

/-- Count a connection that was made. -/
def recordCreated (cache : Cache α) (address : SocketAddress) : Cache α :=
  cache.modifyShelf address fun shelf => { shelf with created := shelf.created + 1 }

/-- Count a connection that could not be made. -/
def recordFailed (cache : Cache α) (address : SocketAddress) : Cache α :=
  cache.modifyShelf address fun shelf => { shelf with failed := shelf.failed + 1 }

/-- Forget all about an address. -/
def evict (cache : Cache α) (address : SocketAddress) : List Event × Cache α :=
  match cache.shelf? address with
  | none => ([], cache)
  | some shelf =>
    ([.idleConnectionsEvicted address shelf.connections.length],
      { cache with shelves := cache.shelves.filter fun entry => entry.1 ≠ address })

/-- The counts of an address. -/
def stats (cache : Cache α) (address : SocketAddress) : Option Stats :=
  (cache.shelf? address).map Shelf.stats

/-- The connections that are kept for an address, the last to come back first. -/
def idleAt (cache : Cache α) (address : SocketAddress) : List α :=
  ((cache.shelf? address).getD {}).connections.map (·.connection)

end Cache

end OneHost.Connection
