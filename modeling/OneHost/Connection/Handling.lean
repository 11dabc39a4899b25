import OneHost.Connection.Cache

/-!
# Handling connections

A desk has a cache of idle connections, and connections in hand that were taken from it or newly
made. Only a connection that is in hand can be given back. Connections may close at any moment,
wherever they are.
-/

namespace OneHost.Connection

/-- A cache with the connections in hand, those that have closed, and the present time in
nanoseconds. -/
structure Desk (α : Type) where
  cache : Cache α
  held : List (Checkout α) := []
  closed : List α := []
  now : Nat := 0

/-- What can happen at a desk. -/
inductive Handling (α : Type) where
  | make (connection : α)
  | giveBack (connection : α) (address : SocketAddress)
  | take (address : SocketAddress)
  | close (connection : α)
  | recordCreated (address : SocketAddress)
  | recordFailed (address : SocketAddress)
  | evict (address : SocketAddress)
  | wait (nanoseconds : Nat)

/-- What comes of it for the one who does it. -/
inductive Handled (α : Type) where
  | done
  | notHeld
  | nothing
  | inHand (checkout : Checkout α)

namespace Desk

variable {α : Type} [DecidableEq α]

/-- Whether a connection is still open. -/
def isOpen (desk : Desk α) (connection : α) : Bool :=
  !desk.closed.contains connection

/-- One step at a desk. -/
def step (desk : Desk α) : Handling α → Handled α × List Event × Desk α
  | .make connection =>
    let checkout := Checkout.fresh connection desk.now
    (.inHand checkout, [], { desk with held := checkout :: desk.held })
  | .giveBack connection address =>
    match desk.held.find? (·.connection = connection) with
    | none => (.notHeld, [], desk)
    | some checkout =>
      (.done, [],
        { desk with
          held := desk.held.eraseP (·.connection = connection)
          cache := desk.cache.checkin desk.isOpen desk.now address checkout })
  | .take address =>
    match desk.cache.checkout desk.isOpen desk.now address with
    | (none, events, cache) => (.nothing, events, { desk with cache })
    | (some checkout, events, cache) =>
      (.inHand checkout, events, { desk with cache, held := checkout :: desk.held })
  | .close connection => (.done, [], { desk with closed := connection :: desk.closed })
  | .recordCreated address =>
    (.done, [], { desk with cache := desk.cache.recordCreated address })
  | .recordFailed address =>
    (.done, [], { desk with cache := desk.cache.recordFailed address })
  | .evict address =>
    let (events, cache) := desk.cache.evict address
    (.done, events, { desk with cache })
  | .wait nanoseconds => (.done, [], { desk with now := desk.now + nanoseconds })

end Desk

end OneHost.Connection
