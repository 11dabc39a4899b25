import Mathlib.Data.List.Count
import Mathlib.Data.List.Forall2
import OneHost.Proofs.Pool.Closing
import OneHost.Proofs.Pool.Turns

/-!
# A report and the turns agree

A report counts those who are up, the snapshot counts them too, and whoever takes a turn passes over
the others; each of them looks at the flags for itself. That they agree rests on one fact: the
addresses that a report lists as up are, in the same order, those among which turns go round. A
cursor of 64 bits starts again at its end, so that all of them may not come up before it has been
there.
-/

namespace OneHost.Pool

open Health (EndpointHealth Report Status)

namespace Roster

variable {roster : Roster} {positions : List Nat} {position : Nat}

/-- A line of a report is that of the endpoint at a position, with its flag. -/
structure Lists (roster : Roster) (position : Nat) (line : EndpointHealth) : Prop where
  address : roster.addressAt position = some line.address
  healthy : roster.isHealthy position = line.healthy

/-- Endpoints that are there have a line each, in their order. -/
theorem forall₂_lists (now : Nat)
    (present : ∀ position ∈ positions, ∃ endpoint, roster.get? position = some endpoint) :
    List.Forall₂ roster.Lists positions ((roster.endpointsAt positions).map (·.report now)) := by
  induction positions with
  | nil => exact .nil
  | cons position positions ih =>
    obtain ⟨endpoint, found⟩ := present position List.mem_cons_self
    rw [endpointsAt, List.filterMap_cons_some found, List.map_cons]
    refine .cons ⟨?_, ?_⟩ (ih fun other among => present other (List.mem_cons_of_mem _ among))
    · rw [addressAt, found]
      rfl
    · rw [isHealthy, found]
      rfl

/-- The lines have the flags of the endpoints. -/
theorem flags_eq {lines : List EndpointHealth}
    (lists : List.Forall₂ roster.Lists positions lines) :
    lines.map (·.healthy) = positions.map roster.isHealthy := by
  induction lists with
  | nil => rfl
  | cons line _ ih => rw [List.map_cons, List.map_cons, line.healthy, ih]

/-- The lines of those that are up are those of the endpoints that take turns. -/
theorem filter_healthy_report (roster : Roster) (now : Nat) :
    ((roster.report now).endpoints.filter (·.healthy)).map (·.address) = roster.up := by
  have general (positions : List Nat) :
      (((roster.endpointsAt positions).map (·.report now)).filter (·.healthy)).map (·.address) =
        (positions.filter roster.isHealthy).filterMap roster.addressAt := by
    induction positions with
    | nil => rfl
    | cons position positions ih =>
      rw [endpointsAt] at ih ⊢
      cases found : roster.get? position with
      | none =>
        have down : ¬roster.isHealthy position = true := by simp [isHealthy, found]
        rw [List.filterMap_cons_none found, ih, List.filter_cons_of_neg down]
      | some endpoint =>
        have flag : roster.isHealthy position = endpoint.isHealthy := by simp [isHealthy, found]
        have own : roster.addressAt position = some endpoint.address := by simp [addressAt, found]
        have line : (endpoint.report now).healthy = endpoint.isHealthy := rfl
        rw [List.filterMap_cons_some found, List.map_cons, List.filter_cons, List.filter_cons, flag,
          line]
        split
        · rw [List.map_cons, ih, List.filterMap_cons_some own]
          rfl
        · exact ih
  exact general roster.rotation.members

theorem up_eq_nil_iff {now : Nat} :
    roster.up = [] ↔ ∀ line ∈ (roster.report now).endpoints, line.healthy = false := by
  rw [← roster.filter_healthy_report now, List.map_eq_nil_iff, List.filter_eq_nil_iff]
  simp only [Bool.not_eq_true]

theorem map_ip_report (roster : Roster) (now : Nat) :
    ((roster.report now).endpoints.map (·.address)).map (·.ip) =
      roster.rotation.members.filterMap roster.ipAt := by
  have lines : (roster.report now).endpoints = roster.members.map (·.report now) := rfl
  rw [lines, members, endpointsAt, List.map_map, List.map_map, List.map_filterMap]
  rfl

theorem healthyCount_report (roster : Roster) (now : Nat) :
    (roster.report now).healthyCount = roster.up.length := by
  rw [← roster.filter_healthy_report now, List.length_map, ← List.countP_eq_length_filter]
  rfl

end Roster

/-! ## The status -/

section Status

variable {lines : List EndpointHealth}

theorem ofCounts_cases (healthy total : Nat) :
    (Status.ofCounts healthy total = .error ↔ healthy = 0) ∧
    (Status.ofCounts healthy total = .ok ↔ healthy ≠ 0 ∧ healthy = total) ∧
    (Status.ofCounts healthy total = .warning ↔ healthy ≠ 0 ∧ healthy ≠ total) := by
  unfold Status.ofCounts
  split
  · simp_all
  · split <;> simp_all

theorem countP_ne_zero_iff :
    lines.countP (·.healthy) ≠ 0 ↔ ∃ line ∈ lines, line.healthy = true := by
  rw [← Nat.pos_iff_ne_zero, List.countP_pos_iff]

theorem countP_ne_length_iff :
    lines.countP (·.healthy) ≠ lines.length ↔ ∃ line ∈ lines, line.healthy = false := by
  simp [List.countP_eq_length]

/-- No one is up. -/
theorem status_error_iff :
    (Report.ofEndpoints lines).status = .error ↔ ∀ line ∈ lines, line.healthy = false := by
  rw [Report.ofEndpoints, (ofCounts_cases _ _).1, List.countP_eq_zero]
  simp

/-- Someone is listed, and no one is down. -/
theorem status_ok_iff :
    (Report.ofEndpoints lines).status = .ok ↔
      lines ≠ [] ∧ ∀ line ∈ lines, line.healthy = true := by
  rw [Report.ofEndpoints, (ofCounts_cases _ _).2.1, List.countP_eq_length, and_congr_left_iff]
  intro allUp
  rw [List.countP_eq_length.mpr allUp, ne_eq, List.length_eq_zero_iff]

/-- Someone is up, and someone is down. -/
theorem status_warning_iff :
    (Report.ofEndpoints lines).status = .warning ↔
      (∃ line ∈ lines, line.healthy = true) ∧ ∃ line ∈ lines, line.healthy = false := by
  rw [Report.ofEndpoints, (ofCounts_cases _ _).2.2, countP_ne_zero_iff, countP_ne_length_iff]

end Status

/-! ## Turns in a row -/

/-- A circle is gone round in as many turns as it has places. -/
theorem exists_turn_of_nat (cursor : Nat) {place size : Nat} (within : place < size) :
    ∃ turn < size, (cursor + turn) % size = place := by
  have positive : 0 < size := Nat.zero_lt_of_lt within
  have stands : cursor % size < size := Nat.mod_lt cursor positive
  refine ⟨(place + size - cursor % size) % size, Nat.mod_lt _ positive, ?_⟩
  calc (cursor + (place + size - cursor % size) % size) % size
    _ = (cursor % size + (place + size - cursor % size)) % size := by
      rw [Nat.add_mod_mod, Nat.mod_add_mod]
    _ = (place + size) % size := by
      congr 1
      omega
    _ = place := by rw [Nat.add_mod_right, Nat.mod_eq_of_lt within]

/-- Wherever a cursor stands, it comes to every place of a circle before it has gone round twice, by
way of its own end if that is where it is going. -/
theorem exists_turn (cursor : UInt64) {place size : Nat} (within : place < size)
    (bounded : size ≤ 2 ^ 64) :
    ∃ turn < 2 * size, (cursor + UInt64.ofNat turn).toNat % size = place := by
  have starts : cursor.toNat < 2 ^ 64 := cursor.toNat_lt
  by_cases roomy : cursor.toNat + size ≤ 2 ^ 64
  · obtain ⟨turn, early, lands⟩ := exists_turn_of_nat cursor.toNat within
    refine ⟨turn, by omega, ?_⟩
    rw [Roster.toNat_moved (by omega), lands]
  · -- The cursor comes to its end first, and goes on from the first place.
    refine ⟨2 ^ 64 - cursor.toNat + place, by omega, ?_⟩
    have around : cursor.toNat + (2 ^ 64 - cursor.toNat + place) = 2 ^ 64 + place := by omega
    have small : place < 2 ^ 64 := Nat.lt_of_lt_of_le within bounded
    rw [UInt64.toNat_add, UInt64.toNat_ofNat', Nat.add_mod_mod, around, Nat.add_mod_left,
      Nat.mod_eq_of_lt small, Nat.mod_eq_of_lt within]

variable {pool : Pool} {count turn : Nat} {address : SocketAddress}

/-- Some turns in a row. -/
def inARow (count : Nat) : List Input :=
  List.replicate count .next

/-- The turns in a row hand out who is next after each number of them. -/
theorem mem_run_inARow {picked : Option Endpoint} :
    .picked picked ∈ (pool.run (inARow count)).2 ↔
      ∃ turn < count, (pool.run (inARow turn)).1.roster.next.1 = picked := by
  induction count generalizing pool with
  | zero => simp [inARow, run]
  | succ count ih =>
    have first : (pool.run (inARow (count + 1))).2 =
        .picked pool.roster.next.1 :: ((pool.step .next).1.run (inARow count)).2 := rfl
    rw [first, List.mem_cons, ih]
    constructor
    · rintro (now | ⟨turn, within, later⟩)
      · exact ⟨0, Nat.zero_lt_succ count, (Effect.picked.inj now).symm⟩
      · exact ⟨turn + 1, Nat.succ_lt_succ within, later⟩
    · rintro ⟨turn, within, isNext⟩
      cases turn with
      | zero =>
        rw [← isNext]
        exact .inl rfl
      | succ turn => exact .inr ⟨turn, Nat.lt_of_succ_lt_succ within, isNext⟩

/-- Turns change nothing about who is up. -/
theorem up_inARow (pool : Pool) (count : Nat) :
    (pool.run (inARow count)).1.roster.up = pool.roster.up := by
  induction count generalizing pool with
  | zero => rfl
  | succ count ih => exact (ih (pool.step .next).1).trans pool.roster.up_next

/-- Each turn moves the cursor by one if someone is up. -/
theorem cursor_inARow (someUp : pool.roster.up ≠ []) (count : Nat) :
    (pool.run (inARow count)).1.cursor = pool.cursor + UInt64.ofNat count := by
  induction count generalizing pool with
  | zero => exact (UInt64.add_zero _).symm
  | succ count ih =>
    have sameUp : (pool.step .next).1.roster.up = pool.roster.up := pool.roster.up_next
    have moved : (pool.step .next).1.cursor = pool.cursor + 1 := Roster.cursor_next someUp
    calc (pool.run (inARow (count + 1))).1.cursor
      _ = (pool.step .next).1.cursor + UInt64.ofNat count := ih (sameUp ▸ someUp)
      _ = pool.cursor + UInt64.ofNat (count + 1) := by
        rw [moved, UInt64.add_assoc, Nat.add_comm count, UInt64.ofNat_add]
        rfl

/-- Who is next after some turns in a row. -/
theorem next_inARow (pool : Pool) (turn : Nat) :
    (pool.run (inARow turn)).1.roster.next.1.map (·.address) =
      pool.roster.up[(pool.cursor + UInt64.ofNat turn).toNat % pool.roster.up.length]? := by
  rw [Roster.next_eq_up, up_inARow]
  by_cases noneUp : pool.roster.up = []
  · rw [noneUp]
    rfl
  · rw [← cursor_inARow noneUp]
    rfl

/-- An address is handed out in the course of some turns in a row. -/
def Picks (pool : Pool) (count : Nat) (address : SocketAddress) : Prop :=
  ∃ endpoint, .picked (some endpoint) ∈ (pool.run (inARow count)).2 ∧ endpoint.address = address

theorem picks_iff :
    pool.Picks count address ↔
      ∃ turn < count, pool.roster.up[(pool.cursor + UInt64.ofNat turn).toNat %
        pool.roster.up.length]? = some address := by
  simp only [Picks, mem_run_inARow, ← next_inARow, Option.map_eq_some_iff]
  constructor
  · rintro ⟨endpoint, ⟨turn, early, next⟩, own⟩
    exact ⟨turn, early, endpoint, next, own⟩
  · rintro ⟨turn, early, endpoint, next, own⟩
    exact ⟨endpoint, ⟨turn, early, next⟩, own⟩

/-- Only who is up is handed out. -/
theorem Picks.mem_up (picks : pool.Picks count address) : address ∈ pool.roster.up := by
  obtain ⟨_, _, atPlace⟩ := picks_iff.mp picks
  exact List.mem_of_getElem? atPlace

/-- Whoever is up is handed out before the turns have gone round twice. -/
theorem picks_of_mem_up (bounded : pool.roster.up.length ≤ 2 ^ 64)
    (enough : 2 * pool.roster.up.length ≤ count) (isUp : address ∈ pool.roster.up) :
    pool.Picks count address := by
  obtain ⟨place, within, atPlace⟩ := List.getElem_of_mem isUp
  obtain ⟨turn, early, lands⟩ := exists_turn pool.cursor within bounded
  refine picks_iff.mpr ⟨turn, by omega, ?_⟩
  rw [lands, List.getElem?_eq_getElem within, atPlace]

/-- A turn hands out no one just when no one is up. -/
theorem picked_none_iff :
    (pool.step .next).2 = [.picked none] ↔ pool.roster.up = [] := by
  have hands : (pool.step .next).2 = [.picked pool.roster.next.1] := rfl
  have next := pool.roster.next_eq_up
  rw [hands, List.cons.injEq, Effect.picked.injEq, and_iff_left rfl,
    ← Option.map_eq_none_iff (f := (·.address)), next, List.getElem?_eq_none_iff]
  constructor
  · intro beyond
    by_contra someUp
    have within := Nat.mod_lt pool.roster.rotation.cursor.toNat (List.length_pos_iff.mpr someUp)
    omega
  · intro noneUp
    simp [noneUp]

/-! ## The report of a pool -/

/-- An address is listed as up. -/
def ListsUp (report : Report) (address : SocketAddress) : Prop :=
  ∃ line ∈ report.endpoints, line.healthy = true ∧ line.address = address

theorem listsUp_iff {roster : Roster} {now : Nat} :
    ListsUp (roster.report now) address ↔ address ∈ roster.up := by
  rw [← roster.filter_healthy_report now, ListsUp]
  simp only [List.mem_map, List.mem_filter, and_assoc]

/-- A report is a true one of a pool: it has the endpoints of the snapshot, each of them once and
with its flag; its status says whether a turn would hand out someone, and whether everyone is up; it
counts as many up as the snapshot; and those that it lists as up are those among whom turns go
round. -/
structure Faithful (pool : Pool) (report : Report) : Prop where
  lists : List.Forall₂ pool.roster.Lists pool.members report.endpoints
  error_iff : report.status = .error ↔ (pool.step .next).2 = [.picked none]
  ok_iff : report.status = .ok ↔
    pool.members ≠ [] ∧ ∀ position ∈ pool.members, pool.roster.isHealthy position = true
  warning_iff : report.status = .warning ↔
    (∃ position ∈ pool.members, pool.roster.isHealthy position = true) ∧
      ∃ position ∈ pool.members, pool.roster.isHealthy position = false
  healthyCount : report.healthyCount = pool.roster.healthyCount
  picked : ∀ count address, pool.Picks count address → ListsUp report address
  goesRound : pool.roster.healthyCount ≤ 2 ^ 64 → ∀ count, 2 * pool.roster.healthyCount ≤ count →
    ∀ address, pool.Picks count address ↔ ListsUp report address

theorem WellFormed.faithful (wellFormed : WellFormed pool) (now : Nat) :
    Faithful pool (pool.roster.report now) := by
  have lists : List.Forall₂ pool.roster.Lists pool.members (pool.roster.report now).endpoints :=
    Roster.forall₂_lists now fun _ member => wellFormed.exists_endpoint (.inl member)
  have flags := Roster.flags_eq lists
  have nonempty : (pool.roster.report now).endpoints ≠ [] ↔ pool.members ≠ [] := by
    rw [← List.length_pos_iff, lists.length_eq.symm, List.length_pos_iff]
  have someFlag (flag : Bool) :
      (∃ line ∈ (pool.roster.report now).endpoints, line.healthy = flag) ↔
        ∃ position ∈ pool.members, pool.roster.isHealthy position = flag := by
    rw [← List.mem_map, ← List.mem_map, flags]
  have everyFlag (flag : Bool) :
      (∀ line ∈ (pool.roster.report now).endpoints, line.healthy = flag) ↔
        ∀ position ∈ pool.members, pool.roster.isHealthy position = flag := by
    rw [← List.forall_mem_map (P := (· = flag)), flags, List.forall_mem_map]
  have counted : pool.roster.healthyCount = pool.roster.up.length := pool.roster.length_up.symm
  refine ⟨lists, ?_, ?_, ?_, ?_, ?_, ?_⟩
  · exact status_error_iff.trans (Roster.up_eq_nil_iff.symm.trans picked_none_iff.symm)
  · exact status_ok_iff.trans (and_congr nonempty (everyFlag true))
  · exact status_warning_iff.trans (and_congr (someFlag true) (someFlag false))
  · rw [Roster.healthyCount_report, counted]
  · intro count address picks
    exact listsUp_iff.mpr picks.mem_up
  · intro bounded count enough address
    rw [counted] at bounded enough
    rw [listsUp_iff]
    exact ⟨Picks.mem_up, picks_of_mem_up bounded enough⟩

/-- The report of a pool is a true one whatever has happened to the pool; and while no answer of the
resolver has an address twice, no endpoint and no address is listed twice. -/
theorem report_is_faithful (settings : Settings) (inputs : List Input) (now : Nat) :
    let pool := ((make settings).run inputs).1
    Faithful pool (pool.roster.report now) ∧
      ((∀ input ∈ inputs, input.Distinct) →
        pool.members.Nodup ∧ ((pool.roster.report now).endpoints.map (·.address)).Nodup) := by
  intro pool
  refine ⟨((WellFormed.of_make settings).run inputs).faithful now, ?_⟩
  intro once
  have tidy : Tidy pool := (Tidy.of_make settings).run once
  refine ⟨tidy.distinct.nodup_members tidy.wellFormed, ?_⟩
  apply List.Nodup.of_map (·.ip)
  rw [Roster.map_ip_report]
  exact tidy.distinct.addresses

/-- A pool of two endpoints, one of them down, on which a turn was taken. -/
def oneOfTwoDown : List Input :=
  [.refresh 0 .construction, .answered 0 (.ok [.v4 ⟨10, 0, 0, 1⟩, .v4 ⟨10, 0, 0, 2⟩]),
    .firstProbed 0 0 3 (.status 200), .firstProbed 0 1 5 (.status 503), .join 0, .next]

/-- Its report warns, and the address that is up is the only one that turns fall on. -/
theorem report_is_faithful_oneOfTwoDown :
    let pool := ((make (probingEvery 5000)).run oneOfTwoDown).1
    (pool.roster.report 9).status = .warning ∧ (pool.roster.report 9).healthyCount = 1 ∧
      (∀ address, pool.Picks 2 address ↔ ListsUp (pool.roster.report 9) address) ∧
      ((pool.roster.report 9).endpoints.map (·.address)).Nodup := by
  intro pool
  have once : ∀ input ∈ oneOfTwoDown, input.Distinct := by
    intro input among
    simp only [oneOfTwoDown, List.mem_cons, List.not_mem_nil, or_false] at among
    rcases among with rfl | rfl | rfl | rfl | rfl | rfl
    case inr.inl => simp [Input.Distinct]
    all_goals trivial
  have oneUp : pool.roster.healthyCount = 1 := by decide +kernel
  obtain ⟨faithful, apart⟩ := report_is_faithful (probingEvery 5000) oneOfTwoDown 9
  refine ⟨?_, faithful.healthyCount.trans oneUp, ?_, (apart once).2⟩
  · exact faithful.warning_iff.mpr ⟨⟨0, by decide +kernel⟩, ⟨1, by decide +kernel⟩⟩
  · exact faithful.goesRound (by rw [oneUp]; decide) 2 (Nat.le_of_eq (by rw [oneUp]))

end OneHost.Pool
