import Mathlib.Data.List.Basic
import Mathlib.Data.Nat.ModEq
import OneHost.Proofs.Pool.Steps

/-!
# Whose turn it is

All clients of a pool take turns on one cursor. As long as the snapshot stays, the cursor moves by
one for each turn that someone takes, and by nothing else; who is picked depends on where it stands
and on who is up at that moment.
-/

namespace OneHost.Pool

/-! ## Rosters -/

namespace Roster

variable {roster after : Roster} {position : Nat}

/-- The positions of those that take turns and are up. -/
def available (roster : Roster) : List Nat :=
  roster.rotation.available roster.isHealthy

/-- The address of the endpoint at a position. -/
def addressAt (roster : Roster) (position : Nat) : Option SocketAddress :=
  (roster.get? position).map (·.address)

/-- The addresses of those that take turns and are up, in their order. -/
def up (roster : Roster) : List SocketAddress :=
  roster.available.filterMap roster.addressAt

theorem exists_addressAt (isUp : position ∈ roster.available) :
    ∃ address, roster.addressAt position = some address := by
  obtain ⟨_, healthy⟩ := List.mem_filter.mp isUp
  obtain ⟨endpoint, found, _⟩ := Option.any_eq_true _ _ |>.mp healthy
  exact ⟨endpoint.address, by simp [addressAt, found]⟩

theorem map_some_up (roster : Roster) :
    roster.up.map some = roster.available.map roster.addressAt := by
  have known : ∀ position ∈ roster.available, ∃ address, roster.addressAt position = some address :=
    fun position isUp => exists_addressAt isUp
  rw [up]
  generalize roster.available = positions at known
  induction positions with
  | nil => rfl
  | cons position positions ih =>
    rcases known position List.mem_cons_self with ⟨address, found⟩
    have rest := ih fun other among => known other (List.mem_cons_of_mem position among)
    simp [found, rest]

theorem length_up (roster : Roster) : roster.up.length = roster.available.length := by
  simpa using congrArg List.length roster.map_some_up

/-- The endpoint whose turn it is, by its position. -/
theorem next_eq (roster : Roster) :
    roster.next.1.map (·.address) =
      roster.available[roster.rotation.cursor.toNat % roster.available.length]?.bind
        roster.addressAt := by
  have distribute {position : Option Nat} :
      (position.bind roster.get?).map (·.address) = position.bind roster.addressAt :=
    Option.map_bind
  simp only [Roster.next, Rotation.next, Rotation.draw_fst]
  exact distribute

/-- The endpoint whose turn it is, by its place among those that are up. -/
theorem next_eq_up (roster : Roster) :
    roster.next.1.map (·.address) =
      roster.up[roster.rotation.cursor.toNat % roster.up.length]? := by
  rw [next_eq, length_up]
  generalize roster.rotation.cursor.toNat % roster.available.length = place
  have atPlace := congrArg (·[place]?) roster.map_some_up
  simp only [List.getElem?_map] at atPlace
  cases found : roster.available[place]? with
  | none => simpa [found, eq_comm] using atPlace
  | some position =>
    rw [found] at atPlace
    cases isUp : roster.up[place]? with
    | none => simp [isUp] at atPlace
    | some address => simpa [isUp, eq_comm] using atPlace

theorem up_next (roster : Roster) : roster.next.2.up = roster.up := by
  have members : roster.next.2.rotation.members = roster.rotation.members :=
    Rotation.members_next ..
  have available : roster.next.2.available = roster.available := by
    rw [Roster.available, Rotation.available, members]
    rfl
  rw [up, available]
  rfl

/-- A cursor that does not come to its end counts the turns. -/
theorem toNat_moved {cursor : UInt64} {turns : Nat} (bounded : cursor.toNat + turns < 2 ^ 64) :
    (cursor + UInt64.ofNat turns).toNat = cursor.toNat + turns := by
  rw [UInt64.toNat_add, UInt64.toNat_ofNat', Nat.add_mod_mod, Nat.mod_eq_of_lt bounded]

theorem cursor_next (nonempty : roster.up ≠ []) :
    roster.next.2.rotation.cursor = roster.rotation.cursor + 1 := by
  have someone : roster.available ≠ [] := by
    intro none
    rw [up, none] at nonempty
    contradiction
  simp only [Roster.next, Rotation.next, Rotation.cursor_draw]
  exact if_neg (mt List.isEmpty_iff.mp someone)

/-- The same endpoints take turns, at the same addresses, they are as healthy as before, and no turn
was taken. -/
structure SameTurns (roster after : Roster) : Prop where
  rotation : after.rotation = roster.rotation
  isHealthy : ∀ position ∈ roster.rotation.members,
    after.isHealthy position = roster.isHealthy position
  addressAt : ∀ position ∈ roster.rotation.members,
    after.addressAt position = roster.addressAt position

theorem SameTurns.refl (roster : Roster) : roster.SameTurns roster where
  rotation := rfl
  isHealthy _ _ := rfl
  addressAt _ _ := rfl

theorem SameTurns.up (same : SameTurns roster after) : after.up = roster.up := by
  have available : after.available = roster.available := by
    rw [Roster.available, same.rotation]
    exact List.filter_congr same.isHealthy
  rw [Roster.up, available]
  apply List.filterMap_congr
  intro position isUp
  exact same.addressAt position (List.mem_of_mem_filter isUp)

end Roster

variable {pool : Pool} {position : Nat}

/-- The positions of the endpoints in the snapshot that are up. -/
def available (pool : Pool) : List Nat :=
  pool.roster.rotation.available pool.roster.isHealthy

/-- Where the cursor of the snapshot stands. -/
def cursor (pool : Pool) : UInt64 :=
  pool.roster.rotation.cursor

/-- The address of the endpoint at a position. -/
def addressAt (pool : Pool) (position : Nat) : Option SocketAddress :=
  (pool.roster.get? position).map (·.address)

/-- Where the cursor falls among those that are up. -/
def index (pool : Pool) : Nat :=
  pool.cursor.toNat % pool.available.length

theorem next_eq (pool : Pool) :
    pool.roster.next.1.map (·.address) =
      pool.available[pool.index]?.bind pool.addressAt :=
  pool.roster.next_eq

/-! ## The cursor -/

/-- The turns that an input takes: one if it asks for an endpoint and some endpoint is up. -/
def Input.turns (pool : Pool) : Input → Nat
  | .next => if pool.available.isEmpty then 0 else 1
  | _ => 0

/-- The turns that are taken in the course of some inputs. -/
def turnsTaken (pool : Pool) : List Input → Nat
  | [] => 0
  | input :: inputs => input.turns pool + (pool.step input).1.turnsTaken inputs

theorem number_publish (pool : Pool) (id : Nat) (origin : Origin) (previous : List Nat)
    (answer : List Ip) (slots : List Slot) :
    (pool.publish id origin previous answer slots).1.number = pool.number + 1 := by
  rw [publish_fst]
  rfl

theorem rotation_finish (pool : Pool) (id : Nat) (origin : Origin)
    (result : Except Resolution.LookupError Summary) :
    (pool.finish id origin result).1.roster.rotation = pool.roster.rotation := by
  rw [finish_fst]
  rfl

theorem rotation_cancel (pool : Pool) (gone : Refresh → Bool) :
    (pool.cancel gone).1.roster.rotation = pool.roster.rotation := by
  rw [cancel_fst]
  rfl

/-- Without a new snapshot, only taking a turn moves the cursor. -/
theorem cursor_step {input : Input} (same : (pool.step input).1.number = pool.number) :
    (pool.step input).1.cursor = pool.cursor + UInt64.ofNat (input.turns pool) := by
  obtain ⟨after, effects, stepped, transition⟩ := exists_transition pool input
  have unmoved (sameRotation : after.roster.rotation = pool.roster.rotation)
      (idle : input.turns pool = 0) :
      after.cursor = pool.cursor + UInt64.ofNat (input.turns pool) := by
    rw [cursor, sameRotation, idle]
    exact (UInt64.add_zero _).symm
  rw [stepped] at same ⊢
  cases transition with
  | next =>
    have isAvailable : pool.available = pool.roster.rotation.available pool.roster.isHealthy := rfl
    simp only [Roster.next, Rotation.next, Rotation.cursor_draw, Input.turns, cursor, isAvailable]
    split
    · exact (UInt64.add_zero _).symm
    · rfl
  | @missed input misses =>
    cases input with
    | next => exact misses.elim
    | _ => exact unmoved rfl rfl
  | reused _ _ _ | joined _ _ =>
    rw [number_publish] at same
    exact absurd same (Nat.succ_ne_self _)
  | unanswered _ _ => exact unmoved (rotation_finish ..) rfl
  | unaddressed _ =>
    refine unmoved ?_ rfl
    rw [takeAnswer_nil, rotation_finish]
  | cancelled _ | stopped _ => exact unmoved (rotation_cancel ..) rfl
  | letGo =>
    refine unmoved ?_ rfl
    rw [release_fst]
    rfl
  | asked _ _ | answered _ _ | started _ _ | due _ _ | probed _ _ | setHealthy _ _ | hold
    | dispose _ | keepRefreshing | shutDown => exact unmoved rfl rfl

theorem number_le_step (pool : Pool) (input : Input) :
    pool.number ≤ (pool.step input).1.number := by
  obtain ⟨after, effects, stepped, acts⟩ := exists_acts pool input
  rw [stepped]
  cases acts with
  | aside kept _ _ => exact Nat.le_of_eq kept.number.symm
  | answered _ _ | started _ _ _ => exact Nat.le_refl _
  | reused _ _ _ | joined _ _ =>
    rw [number_publish]
    exact Nat.le_succ _

theorem number_le_run (pool : Pool) (inputs : List Input) :
    pool.number ≤ (pool.run inputs).1.number := by
  induction inputs generalizing pool with
  | nil => exact Nat.le_refl _
  | cons input inputs ih => exact Nat.le_trans (pool.number_le_step input) (ih _)

/-- As long as no one publishes a snapshot, the cursor counts the turns. -/
theorem cursor_run {inputs : List Input} (same : (pool.run inputs).1.number = pool.number) :
    (pool.run inputs).1.cursor = pool.cursor + UInt64.ofNat (pool.turnsTaken inputs) := by
  induction inputs generalizing pool with
  | nil => exact (UInt64.add_zero _).symm
  | cons input inputs ih =>
    have ends : ((pool.step input).1.run inputs).1.number = pool.number := same
    have sameFirst : (pool.step input).1.number = pool.number :=
      Nat.le_antisymm (ends ▸ number_le_run _ inputs) (number_le_step pool input)
    calc (pool.run (input :: inputs)).1.cursor
      _ = (pool.step input).1.cursor + UInt64.ofNat ((pool.step input).1.turnsTaken inputs) :=
        ih (ends.trans sameFirst.symm)
      _ = pool.cursor + UInt64.ofNat (input.turns pool) +
          UInt64.ofNat ((pool.step input).1.turnsTaken inputs) := by rw [cursor_step sameFirst]
      _ = pool.cursor + UInt64.ofNat (pool.turnsTaken (input :: inputs)) := by
        rw [UInt64.add_assoc, ← UInt64.ofNat_add]
        rfl

/-! ## Two picks -/

theorem addressAt_step {address : SocketAddress} (input : Input)
    (found : pool.addressAt position = some address) :
    (pool.step input).1.addressAt position = some address := by
  obtain ⟨endpoint, there, rfl⟩ := Option.map_eq_some_iff.mp found
  obtain ⟨later, thereLater, same⟩ := address_step input there
  simp [addressAt, thereLater, same]

theorem addressAt_run {address : SocketAddress} (inputs : List Input)
    (found : pool.addressAt position = some address) :
    (pool.run inputs).1.addressAt position = some address := by
  induction inputs generalizing pool with
  | nil => exact found
  | cons input inputs ih => exact ih (addressAt_step input found)

theorem index_eq_iff {after : Pool} {turns : Nat}
    (moved : after.cursor = pool.cursor + UInt64.ofNat turns)
    (sameUp : after.available = pool.available) (bounded : pool.cursor.toNat + turns < 2 ^ 64) :
    after.index = pool.index ↔ pool.available.length ∣ turns := by
  have stands : after.cursor.toNat = pool.cursor.toNat + turns := by
    rw [moved, Roster.toNat_moved bounded]
  have divides := Nat.modEq_iff_dvd' (n := pool.available.length)
    (Nat.le_add_right pool.cursor.toNat turns)
  rw [Nat.add_sub_cancel_left] at divides
  rw [index, index, sameUp, stands, ← divides]
  exact eq_comm

/-- Two picks on one snapshot, with the same endpoints up both times and none of them at the address
of another, fall on the same address just when the turns from the first pick to the second, the first
included, are as many as the endpoints, or a multiple of that. -/
theorem next_again_iff {meanwhile : List Input} {first second : SocketAddress}
    (pickedFirst : pool.roster.next.1.map (·.address) = some first)
    (pickedSecond :
      (pool.run (.next :: meanwhile)).1.roster.next.1.map (·.address) = some second)
    (sameSnapshot : (pool.run (.next :: meanwhile)).1.number = pool.number)
    (sameUp : (pool.run (.next :: meanwhile)).1.available = pool.available)
    (apart : (pool.available.map pool.addressAt).Nodup)
    (bounded : pool.cursor.toNat + pool.turnsTaken (.next :: meanwhile) < 2 ^ 64) :
    second = first ↔ pool.available.length ∣ pool.turnsTaken (.next :: meanwhile) := by
  have moved := cursor_run sameSnapshot
  generalize becomes : (pool.run (.next :: meanwhile)).1 = after at *
  rw [next_eq] at pickedFirst pickedSecond
  rw [sameUp] at pickedSecond
  obtain ⟨firstPosition, atFirst, addressFirst⟩ := Option.bind_eq_some_iff.mp pickedFirst
  obtain ⟨secondPosition, atSecond, addressSecond⟩ := Option.bind_eq_some_iff.mp pickedSecond
  have addressSecondBefore : pool.addressAt secondPosition = some second := by
    obtain ⟨address, found⟩ : ∃ address, pool.addressAt secondPosition = some address :=
      Roster.exists_addressAt (List.mem_of_getElem? atSecond)
    rw [found, ← addressAt_run (.next :: meanwhile) found, becomes, addressSecond]
  rw [← index_eq_iff moved sameUp bounded]
  constructor
  · rintro rfl
    have bound : after.index < (pool.available.map pool.addressAt).length := by
      rw [List.length_map]
      exact (List.getElem?_eq_some_iff.mp atSecond).1
    refine (List.getElem?_inj bound apart).mp ?_
    simp [List.getElem?_map, atFirst, atSecond, addressFirst, addressSecondBefore]
  · intro equal
    rw [equal, atFirst] at atSecond
    obtain rfl := Option.some.inj atSecond
    rw [addressFirst] at addressSecondBefore
    exact (Option.some.inj addressSecondBefore).symm

end OneHost.Pool
