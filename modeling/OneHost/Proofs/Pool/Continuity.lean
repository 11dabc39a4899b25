import OneHost.Proofs.Pool.Disposal

/-!
# What goes on unchanged

Most of what happens to a pool leaves its snapshot in place. Endpoints go on at their positions
with their addresses; what has been probed stays probed, and a schedule that has ended does not come
back.
-/

namespace OneHost.Pool

/-- One endpoint at two times. -/
structure Endpoint.Continues (before after : Endpoint) : Prop where
  address : after.address = before.address
  probed : before.health.probed = true → after.health.probed = true
  unscheduled : before.schedule = .none → after.schedule = .none

namespace Endpoint

variable {before middle after : Endpoint}

theorem Continues.refl (endpoint : Endpoint) : endpoint.Continues endpoint :=
  ⟨rfl, id, id⟩

theorem Continues.trans (first : before.Continues middle) (second : middle.Continues after) :
    before.Continues after where
  address := second.address.trans first.address
  probed := second.probed ∘ first.probed
  unscheduled := second.unscheduled ∘ first.unscheduled

theorem Continues.ip (continues : before.Continues after) : after.ip = before.ip :=
  congrArg SocketAddress.ip continues.address

theorem continues_unscheduled (endpoint : Endpoint) : endpoint.Continues endpoint.unscheduled :=
  ⟨rfl, id, fun _ => rfl⟩

theorem continues_setHealthy (endpoint : Endpoint) (healthy : Bool) :
    endpoint.Continues (endpoint.setHealthy healthy) :=
  ⟨rfl, id, id⟩

end Endpoint

namespace Roster

/-- The internet address of the endpoint at a position. -/
def ipAt (roster : Roster) (position : Nat) : Option Ip :=
  (roster.get? position).map Endpoint.ip

/-- One roster at two times, with no endpoint added in between. -/
structure Continues (before after : Roster) : Prop where
  length : after.endpoints.length = before.endpoints.length
  endpoints : ∀ position endpoint, before.get? position = some endpoint →
    ∃ later, after.get? position = some later ∧ endpoint.Continues later

variable {before middle after : Roster}

theorem Continues.of_same (same : after.endpoints = before.endpoints) : before.Continues after where
  length := by rw [same]
  endpoints position endpoint found :=
    ⟨endpoint, by rwa [get?, same], .refl endpoint⟩

theorem Continues.trans (first : before.Continues middle) (second : middle.Continues after) :
    before.Continues after where
  length := second.length.trans first.length
  endpoints position endpoint found := by
    rcases first.endpoints position endpoint found with ⟨next, foundNext, firstContinues⟩
    obtain ⟨last, foundLast, secondContinues⟩ := second.endpoints position next foundNext
    exact ⟨last, foundLast, firstContinues.trans secondContinues⟩

/-- Every endpoint of the later roster was there before. -/
theorem Continues.origin (continues : before.Continues after) {position : Nat} {later : Endpoint}
    (found : after.get? position = some later) :
    ∃ endpoint, before.get? position = some endpoint ∧ endpoint.Continues later := by
  have bound : position < before.endpoints.length :=
    continues.length ▸ lt_length_of_get? found
  have foundBefore : before.get? position = some before.endpoints[position] :=
    List.getElem?_eq_getElem bound
  rcases continues.endpoints position _ foundBefore with ⟨same, foundSame, goesOn⟩
  have equal : same = later := Option.some.inj (foundSame.symm.trans found)
  exact ⟨_, foundBefore, equal ▸ goesOn⟩

theorem Continues.ipAt (continues : before.Continues after) (position : Nat) :
    after.ipAt position = before.ipAt position := by
  unfold Roster.ipAt
  cases found : before.get? position with
  | some endpoint =>
    obtain ⟨later, foundLater, goesOn⟩ := continues.endpoints position endpoint found
    simp [foundLater, goesOn.ip]
  | none =>
    cases foundLater : after.get? position with
    | none => rfl
    | some later =>
      rcases continues.origin foundLater with ⟨endpoint, foundBefore, _⟩
      simp [found] at foundBefore

theorem continues_modify (roster : Roster) (position : Nat) (change : Endpoint → Endpoint)
    (goesOn : ∀ endpoint, roster.get? position = some endpoint →
      endpoint.Continues (change endpoint)) :
    roster.Continues (roster.modify position change) where
  length := length_modify ..
  endpoints other endpoint found := by
    rw [get?_modify, found]
    by_cases equal : position = other
    · subst equal
      exact ⟨change endpoint, by simp, goesOn endpoint found⟩
    · exact ⟨endpoint, by simp [equal], .refl endpoint⟩

theorem continues_disposed (roster : Roster) (gone : Nat → Bool) :
    roster.Continues (roster.disposed gone) where
  length := length_disposed ..
  endpoints position endpoint found := by
    rw [get?_disposed, found]
    cases gone position with
    | true => exact ⟨endpoint.unscheduled, rfl, endpoint.continues_unscheduled⟩
    | false => exact ⟨endpoint, rfl, .refl endpoint⟩

end Roster

/-- The positions of the endpoints in the current snapshot. -/
def members (pool : Pool) : List Nat :=
  pool.roster.rotation.members

/-- The internet addresses of the endpoints in the current snapshot. -/
def addresses (pool : Pool) : List Ip :=
  pool.members.filterMap pool.roster.ipAt

/-- A pool at two times, with the same endpoints in its snapshot. Endpoints that went out of use in
between are no longer probed. -/
structure Kept (before after : Pool) : Prop where
  settings : after.settings = before.settings
  number : after.number = before.number
  members : after.members = before.members
  roster : before.roster.Continues after.roster
  held : ∀ snapshot ∈ after.held, snapshot ∈ before.held ∨ snapshot = before.snapshot
  unused : ∀ position endpoint, after.roster.get? position = some endpoint →
    before.inUse position = true → after.inUse position = false → endpoint.schedule = .none

namespace Kept

variable {before after : Pool}

theorem addresses (kept : Kept before after) : after.addresses = before.addresses := by
  unfold Pool.addresses
  rw [kept.members]
  exact List.filterMap_congr fun position _ => kept.roster.ipAt position

/-- As long as nothing goes out of use, the endpoints need only go on. -/
theorem of_inUse (settings : after.settings = before.settings)
    (number : after.number = before.number)
    (members : after.members = before.members) (roster : before.roster.Continues after.roster)
    (held : ∀ snapshot ∈ after.held, snapshot ∈ before.held ∨ snapshot = before.snapshot)
    (inUse : ∀ position, before.inUse position = true → after.inUse position = true) :
    Kept before after where
  settings := settings
  number := number
  members := members
  roster := roster
  held := held
  unused position endpoint _ used unused := by
    rw [inUse position used] at unused
    contradiction

/-- Only the roster has changed. -/
theorem of_roster (pool : Pool) (roster : Roster) (continues : pool.roster.Continues roster)
    (same : roster.rotation.members = pool.roster.rotation.members) :
    Kept pool { pool with roster } :=
  of_inUse rfl rfl same continues (fun _ => .inl) fun position used => by
    simpa [inUse, same] using used

theorem refl (pool : Pool) : Kept pool pool :=
  of_roster pool pool.roster (.of_same rfl) rfl

end Kept

end OneHost.Pool
