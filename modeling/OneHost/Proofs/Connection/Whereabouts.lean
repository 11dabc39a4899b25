import OneHost.Proofs.Connection.Records

/-!
# Where a connection comes from

A connection that was made before a step and is kept after it was kept before, or has just brought a
send its whole answer. One that is held after the step was held before, by the same send, or has
just been taken from where it was kept. So once nobody keeps or holds a connection, it never turns
up again.
-/

namespace OneHost.Connection.Transport

variable {transport after : Transport} {sending : Sending} {input : Input}
variable {inputs : List Input} {effects : List Effect} {connection : Nat} {address : SocketAddress}

/-- A send that holds a connection ends with a whole answer through it. -/
structure Completes (transport : Transport) (connection : Nat) (sending : Sending) (input : Input)
    (effects : List Effect) : Prop where
  among : sending ∈ transport.sends
  holds : sending.connection? = some connection
  brings : ∃ body, input = .body connection body
  finishes : ∃ response, .finished sending.id (.ok response) ∈ effects

theorem idleAt_of_kept_eq {cache : Cache Nat}
    (same : cache.kept address = transport.cache.kept address)
    (isKept : connection ∈ cache.idleAt address) : connection ∈ transport.cache.idleAt address := by
  rw [Cache.idleAt_eq] at isKept ⊢
  exact same ▸ isKept

theorem Acquires.kept_sublist (acquires : transport.Acquires sending after effects)
    (address : SocketAddress) :
    (after.cache.kept address).Sublist (transport.cache.kept address) := by
  cases acquires with
  | reuses _ serves | dials _ serves => exact serves.kept_sublist address

/-- Where a connection comes from that is kept. -/
theorem Transition.kept_origin (transition : Transition transport input after effects)
    (isKept : connection ∈ after.cache.idleAt address) :
    connection ∈ transport.cache.idleAt address ∨
      ∃ sending, sending.address = address ∧
        transport.Completes connection sending input effects := by
  cases transition with
  | missed _ | refused _ _ | wrote _ _ | proceeded _ _ | headed _ _ _ | unclaimed _ _ | brokeOff _ _
    | broke _ | closed _ | cancelled _ | elapsed _ => exact .inl isKept
  | sent _ _ acquires | again _ _ acquires =>
    exact .inl (((acquires.kept_sublist address).map _).subset isKept)
  | failed _ fails => exact .inl (idleAt_of_kept_eq (fails.kept_eq address) isKept)
  | opened _ _ => exact .inl (idleAt_of_kept_eq (Cache.kept_recordCreated _) isKept)
  | evicted _ => exact .inl (((Cache.kept_evict_sublist _ _).map _).subset isKept)
  | @answered sending checkout head body among receiving =>
    rcases Cache.mem_idleAt_checkin isKept with before | ⟨rfl, rfl⟩
    · exact .inl before
    · have holds : sending.stage.checkout? = some checkout := congrArg Stage.checkout? receiving
      exact .inr ⟨sending, rfl, among, connection?_eq_some holds, ⟨body, rfl⟩, _, .head _⟩

/-- A connection in the hand of a send was in its hand before. -/
def HeldBefore (transport : Transport) (connection : Nat) (other : Sending) : Prop :=
  ∃ earlier ∈ transport.sends, earlier.connection? = some connection ∧ earlier.id = other.id ∧
    earlier.address = other.address

theorem HeldBefore.of_enter {stage : Stage} {other : Sending}
    (among : other ∈ (transport.enter sending stage).sends)
    (holds : other.connection? = some connection)
    (own : (stage.checkout?.map (·.connection)) = some connection →
      transport.HeldBefore connection sending) :
    transport.HeldBefore connection other := by
  cases List.mem_cons.mp among with
  | inl same =>
    subst same
    exact own holds
  | inr among => exact ⟨other, List.mem_of_mem_filter among, holds, rfl, rfl⟩

theorem Acquires.held_origin {other : Sending}
    (acquires : transport.Acquires sending after effects) (among : other ∈ after.sends)
    (holds : other.connection? = some connection) :
    transport.HeldBefore connection other ∨
      ∃ address, connection ∈ transport.cache.idleAt address := by
  cases acquires with
  | @reuses checkout cache events serves =>
    obtain ⟨idle, isKept, rfl⟩ := serves.wasKept
    by_cases own : idle.connection = connection
    · exact .inr ⟨sending.address, own ▸ List.mem_map_of_mem isKept⟩
    · exact .inl (.of_enter among holds fun same => absurd (Option.some.inj same) own)
  | dials _ _ => exact .inl (.of_enter among holds nofun)

/-- Where a connection comes from that a send holds. -/
theorem Transition.held_origin {other : Sending}
    (transition : Transition transport input after effects)
    (bound : connection < transport.lines.length) (among : other ∈ after.sends)
    (holds : other.connection? = some connection) :
    transport.HeldBefore connection other ∨
      ∃ address, connection ∈ transport.cache.idleAt address := by
  cases transition with
  | missed _ | refused _ _ | unclaimed _ _ | broke _ | closed _ | evicted _ | elapsed _ =>
    exact .inl ⟨other, among, holds, rfl, rfl⟩
  | failed _ _ | answered _ _ _ | brokeOff _ _ | cancelled _ =>
    exact .inl ⟨other, List.mem_of_mem_filter among, holds, rfl, rfl⟩
  | sent _ _ acquires | again _ _ acquires => exact acquires.held_origin among holds
  | proceeded _ proceeds =>
    refine .inl (.of_enter among holds fun own => ?_)
    cases proceeds <;> cases own
  | @wrote sending checkout amongBefore readying =>
    refine .inl (HeldBefore.of_enter among holds fun own => ⟨sending, amongBefore, ?_, rfl, rfl⟩)
    rw [Sending.connection?, readying]
    exact own
  | @headed sending checkout response amongBefore waiting =>
    refine .inl (HeldBefore.of_enter among holds fun own => ⟨sending, amongBefore, ?_, rfl, rfl⟩)
    rw [Sending.connection?, waiting]
    exact own
  | opened _ _ =>
    refine .inl (HeldBefore.of_enter among holds fun own => ?_)
    exact absurd bound (Option.some.inj own ▸ Nat.lt_irrefl _)

theorem Acquires.handed_out {id : Nat} (acquires : transport.Acquires sending after effects)
    (handedOut : .awaitReady id connection ∈ effects) :
    ∃ address, connection ∈ transport.cache.idleAt address := by
  cases acquires with
  | @reuses checkout _ events serves =>
    obtain ⟨_, own⟩ : id = sending.id ∧ connection = checkout.connection := by
      simpa using handedOut
    obtain ⟨idle, isKept, rfl⟩ := serves.wasKept
    exact ⟨sending.address, own ▸ List.mem_map_of_mem isKept⟩
  | dials _ _ => simp at handedOut

/-- Only a connection that is kept can be handed out. -/
theorem Transition.handed_out {id : Nat}
    (transition : Transition transport input after effects)
    (handedOut : .awaitReady id connection ∈ effects) :
    ∃ address, connection ∈ transport.cache.idleAt address := by
  cases transition with
  | sent _ _ acquires | again _ _ acquires => exact acquires.handed_out handedOut
  | proceeded _ proceeds => cases proceeds <;> simp at handedOut
  | missed _ | refused _ _ | wrote _ _ | failed _ _ | opened _ _ | headed _ _ _ | answered _ _ _
    | unclaimed _ _ | brokeOff _ _ | broke _ | closed _ | cancelled _ | evicted _ | elapsed _ =>
    simp [writeTo, Transport.opened] at handedOut

end OneHost.Connection.Transport
