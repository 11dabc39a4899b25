import OneHost.Proofs.Dispatch.Contacts
import OneHost.Proofs.Pool.Asking
import OneHost.Proofs.Pool.Turns

/-!
# Trying again on a shared pool

A dispatcher that has found no connection in time asks the pool for its next endpoint. The pool does
not know who asks: whether the dispatcher comes to another endpoint depends on the turns that others
have taken in the meantime, and on what has become of the snapshot and of the health of its
endpoints.
-/

namespace OneHost.Dispatcher

/-- A client that shares a pool with others. The course of things says of each of the client's calls
what comes of it, and what happens to the pool from the client's turn for this call to its next
one. -/
def sharing (course : Nat → Except TransportError Http.Response × List Pool.Input) :
    Surroundings (Pool × Nat) where
  next := fun (pool, made) =>
    (pool.roster.next.1.map (·.address), (pool.step .next).1, made)
  exchange := fun _ _ (pool, made) =>
    ((course made).1, (pool.run (course made).2).1, made + 1)

variable {course : Nat → Except TransportError Http.Response × List Pool.Input}
variable {target : Http.Target} {change : Http.Request → Http.Request} {request : Http.Request}
variable {left made : Nat} {attempted : List SocketAddress} {pool : Pool}

/-- The first call goes to whoever's turn it is. If there is another one, the first found no
connection in time, and the other one is made on what the pool has become. -/
theorem calls_sendFrom_sharing {call : Call} {calls : List Call}
    (isCalls : ((ofChange target change).sendFrom (sharing course) request left attempted
      (pool, made)).calls = call :: calls) :
    pool.roster.next.1.map (·.address) = some call.address ∧
      (calls ≠ [] → call.TimedOut ∧ ∃ fewer,
        ((ofChange target change).sendFrom (sharing course) request fewer
          (attempted ++ [call.address])
          ((pool.run (.next :: (course made).2)).1, made + 1)).calls = calls) := by
  cases left with
  | zero => simp [sendFrom] at isCalls
  | succ left =>
    cases picked : pool.roster.next.1.map (·.address) with
    | none =>
      have unserved : (ofChange target change).attempt (sharing course) request.copy attempted
          (pool, made) = (.error (.noHealthyEndpoint target.hostname attempted), [],
            (pool.step .next).1, made) := by
        simp [attempt, sharing, ofChange, picked]
      rw [sendFrom_of_failed unserved] at isCalls
      contradiction
    | some address =>
      cases aim : target.retarget address.ip (change request.copy) with
      | error error =>
        have refused : (ofChange target change).attempt (sharing course) request.copy attempted
            (pool, made) = (.error (.request error), [], (pool.step .next).1, made) := by
          simp [attempt, sharing, ofChange, picked, aim]
        rw [sendFrom_of_failed refused] at isCalls
        contradiction
      | ok aimed =>
        have called : (ofChange target change).attempt (sharing course) request.copy attempted
            (pool, made) = (.ok ⟨address, aimed, (course made).1⟩,
              [.dispatching address aimed.method aimed.uri.text],
              (pool.run (.next :: (course made).2)).1, made + 1) := by
          simp [attempt, sharing, ofChange, picked, aim, Pool.run]
        by_cases timedOut : Call.TimedOut ⟨address, aimed, (course made).1⟩
        · obtain ⟨error, outcome, timeout⟩ := timedOut
          rw [sendFrom_of_timedOut called outcome timeout] at isCalls
          obtain ⟨rfl, rest⟩ := List.cons.inj isCalls
          exact ⟨rfl, fun _ => ⟨⟨error, outcome, timeout⟩, left, rest⟩⟩
        · obtain ⟨_, _, settled⟩ := sendFrom_of_settled left called timedOut
          rw [settled] at isCalls
          obtain ⟨rfl, rfl⟩ := List.cons.inj isCalls
          exact ⟨rfl, fun more => absurd rfl more⟩

/-- An attempt after one that found no connection in time goes to whoever's turn it is then. If no
snapshot has been published in between, the same endpoints are up, and no two of them have one
address, then it goes to the same address again just when the turns from the one attempt to the
other, all clients' turns together, are a multiple of the number of endpoints. -/
theorem retry_returns_iff {first second : Call} {rest : List Call}
    (isCalls : ((ofChange target change).sendFrom (sharing course) request left attempted
      (pool, made)).calls = first :: second :: rest) :
    first.TimedOut ∧
      pool.available[pool.index]?.bind pool.addressAt = some first.address ∧
      (pool.run (.next :: (course made).2)).1.available[
        (pool.run (.next :: (course made).2)).1.index]?.bind
          (pool.run (.next :: (course made).2)).1.addressAt = some second.address ∧
      ((pool.run (.next :: (course made).2)).1.number = pool.number →
        (pool.run (.next :: (course made).2)).1.available = pool.available →
        (pool.available.map pool.addressAt).Nodup →
        pool.cursor.toNat + pool.turnsTaken (.next :: (course made).2) < 2 ^ 64 →
          (second.address = first.address ↔
            pool.available.length ∣ pool.turnsTaken (.next :: (course made).2))) := by
  obtain ⟨pickedFirst, again⟩ := calls_sendFrom_sharing isCalls
  obtain ⟨timedOut, fewer, isCallsAgain⟩ := again (List.cons_ne_nil second rest)
  obtain ⟨pickedSecond, _⟩ := calls_sendFrom_sharing isCallsAgain
  refine ⟨timedOut, ?_, ?_, ?_⟩
  · rw [← Pool.next_eq, pickedFirst]
  · rw [← Pool.next_eq, pickedSecond]
  · intro sameSnapshot sameUp apart bounded
    exact Pool.next_again_iff pickedFirst pickedSecond sameSnapshot sameUp apart bounded

/-! ## Two endpoints -/

/-- A pool with two endpoints, both of them up. -/
def twoUp : Pool :=
  ((Pool.make (Pool.probingEvery 5000)).run
    [.refresh 0 .construction, .answered 0 (.ok [.v4 ⟨10, 0, 0, 1⟩, .v4 ⟨10, 0, 0, 2⟩]),
      .firstProbed 0 0 3 (.status 200), .firstProbed 0 1 3 (.status 200), .join 0]).1

/-- The first call finds no connection in time, and the second one is answered. -/
def answeredSecond (meanwhile : List Pool.Input) (made : Nat) :
    Except TransportError Http.Response × List Pool.Input :=
  if made = 0 then (.error (.connectTimeout ⟨.v4 ⟨10, 0, 0, 1⟩, 80⟩ ⟨1000⟩), meanwhile)
  else (.ok { status := 200 }, [])

/-- The calls of a request that is sent through this pool. -/
def callsOnTwo (meanwhile : List Pool.Input) : List Call :=
  ((ofChange ⟨.http, "api", 80⟩ id).send (sharing (answeredSecond meanwhile))
    { method := "GET", uri := .origin ⟨"/", none⟩ } (twoUp, 0)).calls

/-- If no one else takes a turn, the second call goes to the other endpoint. -/
theorem retry_returns_iff_alone :
    ∃ first second, callsOnTwo [] = [first, second] ∧ second.address ≠ first.address := by
  have count : (callsOnTwo []).length = 2 := by decide +kernel
  obtain ⟨first, second, isCalls⟩ := List.length_eq_two.mp count
  obtain ⟨_, _, _, returns⟩ := retry_returns_iff isCalls
  refine ⟨first, second, isCalls, ?_⟩
  rw [Ne, returns rfl rfl (by decide) (by decide)]
  decide

/-- If someone else takes a turn in the meantime, the second call goes to the address at which the
first one found no connection, although the other endpoint is up as well. -/
theorem retry_stays_at_address :
    ∃ first second, callsOnTwo [.next] = [first, second] ∧ first.TimedOut ∧
      second.address = first.address ∧
      (twoUp.run [.next, .next]).1.available.map (twoUp.run [.next, .next]).1.addressAt =
        [some ⟨.v4 ⟨10, 0, 0, 1⟩, 80⟩, some ⟨.v4 ⟨10, 0, 0, 2⟩, 80⟩] := by
  have addresses : (callsOnTwo [.next]).map (·.address) =
      [⟨.v4 ⟨10, 0, 0, 1⟩, 80⟩, ⟨.v4 ⟨10, 0, 0, 1⟩, 80⟩] := by decide +kernel
  obtain ⟨first, second, isCalls⟩ : ∃ first second, callsOnTwo [.next] = [first, second] := by
    refine List.length_eq_two.mp ?_
    rw [← List.length_map, addresses]
    rfl
  obtain ⟨_, again⟩ := calls_sendFrom_sharing isCalls
  obtain ⟨timedOut, _⟩ := again (List.cons_ne_nil second [])
  rw [isCalls] at addresses
  obtain ⟨atFirst, others⟩ := List.cons.inj addresses
  obtain ⟨atSecond, _⟩ := List.cons.inj others
  exact ⟨first, second, isCalls, timedOut, atSecond.trans atFirst.symm, by decide⟩

end OneHost.Dispatcher
