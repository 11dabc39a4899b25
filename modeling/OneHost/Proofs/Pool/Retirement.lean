import OneHost.Proofs.Pool.Asking
import OneHost.Proofs.Pool.Tending

/-!
# Endpoints that have left

An endpoint that a refresh has removed from the snapshot is out of service and has no schedule. From
then on nothing happens to it: it is not probed, its flag stays as it was, and no snapshot has it
again. An address that comes back comes with a new endpoint, which is made of its own first probe.
-/

namespace OneHost.Pool

variable {pool : Pool} {position : Nat} {endpoint : Endpoint}

theorem Endpoint.unscheduled_eq_self (ended : endpoint.schedule = .none) :
    endpoint.unscheduled = endpoint := by
  obtain ⟨address, healthUri, health, schedule⟩ := endpoint
  cases ended
  rfl

/-! ## Where endpoints come from -/

/-- Whoever is in service after a run was in service before, or was made on the way. -/
theorem InService.of_run {inputs : List Input} (wellFormed : WellFormed pool)
    (inService : (pool.run inputs).1.InService position) :
    pool.InService position ∨ ∃ earlier input later, inputs = earlier ++ input :: later ∧
      (pool.run earlier).1.Born input position :=
  began_in_run (·.InService position) (·.Born · position)
    (fun _ _ wellFormed inService => inService.of_step wellFormed) wellFormed inService

theorem ipAt_step {ip : Ip} (input : Input) (found : pool.roster.ipAt position = some ip) :
    (pool.step input).1.roster.ipAt position = some ip := by
  obtain ⟨endpoint, there, rfl⟩ := Option.map_eq_some_iff.mp found
  obtain ⟨later, thereLater, same⟩ := address_step input there
  simp [Roster.ipAt, thereLater, Endpoint.ip, same]

theorem ipAt_run {ip : Ip} (inputs : List Input) (found : pool.roster.ipAt position = some ip) :
    (pool.run inputs).1.roster.ipAt position = some ip := by
  induction inputs generalizing pool with
  | nil => exact found
  | cons input inputs ih => exact ih (ipAt_step input found)

/-! ## Removal -/

/-- The address of an endpoint that does not come into the new snapshot is out of service. -/
theorem Distinct.address_leaves_publish {id : Nat} {origin : Origin} {rest : List Refresh}
    {previous : List Nat} {answer : List Ip} {slots : List Slot} {ip : Ip}
    (distinct : Distinct pool) (wellFormed : WellFormed pool)
    (working : pool.refreshes = ⟨id, origin, .starting previous answer slots⟩ :: rest)
    (complete : slots.all (·.endpoint?.isSome) = true) (member : position ∈ pool.members)
    (leaves : position ∉ (pool.publish id origin previous answer slots).1.members)
    (found : pool.roster.ipAt position = some ip) {other : Nat}
    (inService : (pool.publish id origin previous answer slots).1.InService other) :
    (pool.publish id origin previous answer slots).1.roster.ipAt other ≠ some ip := by
  intro foundOther
  have unanswered := distinct.notMem_answer wellFormed working complete member leaves found
  have inHand := InService.of_publish wellFormed working inService
  obtain ⟨own, answered, foundOwn, _⟩ :=
    ipAt_of_mem_endpoints (wellFormed.fits_first working).2 inHand
  rw [(pool.continues_publish ..).ipAt, foundOwn] at foundOther
  exact unanswered (Option.some.inj foundOther ▸ answered)

/-- A step that removes an endpoint from the snapshot puts its address out of service, and no
schedule takes a turn in it. -/
theorem Distinct.address_leaves {input : Input} {ip : Ip} (distinct : Distinct pool)
    (wellFormed : WellFormed pool) (once : input.Distinct) (member : position ∈ pool.members)
    (leaves : position ∉ (pool.step input).1.members)
    (found : pool.roster.ipAt position = some ip) :
    (∀ other, (pool.step input).1.InService other →
      (pool.step input).1.roster.ipAt other ≠ some ip) ∧
    ∀ endpoint, input.turn position endpoint = endpoint := by
  obtain ⟨after, effects, stepped, acts⟩ := exists_acts pool input
  rw [stepped] at leaves ⊢
  cases acts with
  | aside kept _ _ => exact absurd (kept.members.symm ▸ member) leaves
  | answered _ _ | started _ _ _ => exact absurd member leaves
  | reused working _ complete =>
    refine ⟨fun other inService => ?_, fun _ => rfl⟩
    exact (distinct.withAnswer working once).address_leaves_publish (wellFormed.withAnswer working _)
      (refreshes_withAnswer working _) complete member leaves found inService
  | joined working complete =>
    refine ⟨fun other inService => ?_, fun _ => rfl⟩
    exact distinct.address_leaves_publish wellFormed working complete member leaves found inService

/-- An endpoint that has left service with its schedule ended. -/
structure Retired (pool : Pool) (position : Nat) (endpoint : Endpoint) : Prop where
  absent : ¬pool.InService position
  found : pool.roster.get? position = some endpoint.unscheduled

namespace Retired

/-- Whoever is removed from the snapshot retires as it was, apart from its schedule. -/
theorem of_leaves {input : Input} (tended : Tended (pool.step input).1)
    (distinct : Distinct pool) (wellFormed : WellFormed pool) (once : input.Distinct)
    (member : position ∈ pool.members) (leaves : position ∉ (pool.step input).1.members)
    (found : pool.roster.get? position = some endpoint) :
    Retired (pool.step input).1 position endpoint := by
  have foundIp : pool.roster.ipAt position = some endpoint.ip := by simp [Roster.ipAt, found]
  obtain ⟨gone, idle⟩ := distinct.address_leaves wellFormed once member leaves foundIp
  have absent : ¬(pool.step input).1.InService position := fun inService =>
    gone position inService (ipAt_step input foundIp)
  refine ⟨absent, ?_⟩
  cases passes_step wellFormed input found with
  | inl turns =>
    rw [idle] at turns
    rw [Endpoint.unscheduled_eq_self (tended.others position endpoint turns absent), turns]
  | inr ends => exact ends.1

/-- Nothing happens to an endpoint that has retired. -/
theorem step {input : Input} (retired : Retired pool position endpoint)
    (wellFormed : WellFormed pool) (ordinary : input.Ordinary) :
    Retired (pool.step input).1 position endpoint ∧ .probe position ∉ (pool.step input).2 := by
  refine ⟨⟨?_, ?_⟩, ?_⟩
  · intro inService
    cases inService.of_step wellFormed with
    | inl earlier => exact retired.absent earlier
    | inr born =>
      obtain ⟨_, _, _, _, _, _, newest, _⟩ := born
      have known := Roster.lt_length_of_get? retired.found
      exact Nat.ne_of_lt known newest
  · have untouched : ∀ healthy, input ≠ .setHealthy position healthy := by
      rintro healthy rfl
      exact ordinary
    cases passes_step wellFormed input retired.found with
    | inl turns => rw [turns, Input.turn_of_unscheduled rfl untouched]
    | inr ends => exact ends.1
  · intro asked
    obtain ⟨other, found, waits⟩ := waiting_of_probe asked
    rw [retired.found] at found
    rw [← Option.some.inj found] at waits
    contradiction

theorem run {inputs : List Input} (retired : Retired pool position endpoint)
    (wellFormed : WellFormed pool) (ordinary : ∀ input ∈ inputs, input.Ordinary) :
    Retired (pool.run inputs).1 position endpoint ∧ .probe position ∉ (pool.run inputs).2 := by
  induction inputs generalizing pool with
  | nil => exact ⟨retired, List.not_mem_nil⟩
  | cons input inputs ih =>
    obtain ⟨still, unasked⟩ := retired.step wellFormed (ordinary input List.mem_cons_self)
    obtain ⟨last, unaskedLater⟩ := ih still (wellFormed.step input) fun other member =>
      ordinary other (List.mem_cons_of_mem _ member)
    refine ⟨last, fun asked => ?_⟩
    cases List.mem_append.mp asked with
    | inl first => exact unasked first
    | inr later => exact unaskedLater later

end Retired

/-! ## Probing through all refreshes -/

/-- An endpoint that has been removed, through all that follows. -/
structure StaysRemoved (after : Pool) (later : List Input) (position : Nat)
    (endpoint : Endpoint) : Prop where
  unprobed : .probe position ∉ (after.run later).2
  /-- Apart from its schedule, the endpoint stays as it was. -/
  unchanged : (after.run later).1.roster.get? position = some endpoint.unscheduled
  absent : position ∉ (after.run later).1.members
  /-- Whoever has the address later is new, and starts with the outcome of its own first probe. -/
  returns : ∀ other ∈ (after.run later).1.members,
    (after.run later).1.roster.ipAt other = some endpoint.ip →
      ∃ first id slot now outcome rest made,
        later = first ++ .firstProbed id slot now outcome :: rest ∧
        (after.run first).1.roster.get? other = none ∧
        (after.run (first ++ [.firstProbed id slot now outcome])).1.roster.get? other =
          some made ∧
        made.ip = endpoint.ip ∧
        made.health = { healthy := outcome.isHealthy, probed := true, lastCheck := some now }

theorem Undisturbed.staysRemoved {input : Input} {later : List Input}
    (undisturbed : Undisturbed pool) (ordinary : input.Ordinary)
    (ordinaryLater : ∀ other ∈ later, other.Ordinary) (member : position ∈ pool.members)
    (leaves : position ∉ (pool.step input).1.members)
    (found : pool.roster.get? position = some endpoint) :
    StaysRemoved (pool.step input).1 later position endpoint := by
  have next := undisturbed.step ordinary
  have retired := Retired.of_leaves next.tended undisturbed.distinct undisturbed.wellFormed
    ordinary.distinct member leaves found
  obtain ⟨last, unprobed⟩ := retired.run next.wellFormed ordinaryLater
  have foundIp : pool.roster.ipAt position = some endpoint.ip := by simp [Roster.ipAt, found]
  obtain ⟨gone, _⟩ := undisturbed.distinct.address_leaves undisturbed.wellFormed ordinary.distinct
    member leaves foundIp
  refine ⟨unprobed, last.found, fun member => last.absent (.inl member), ?_⟩
  intro other memberOther foundOther
  rcases InService.of_run next.wellFormed (.inl memberOther) with
    before | ⟨first, _, rest, rfl, id, slot, now, outcome, ip, rfl, newest, made⟩
  · -- Whoever was left in service does not have the address, and will not come to have it.
    obtain ⟨own, foundOwn⟩ : ∃ own, (pool.step input).1.roster.ipAt other = some own := by
      obtain ⟨there, foundThere, _⟩ := next.tended.serving other before
      exact ⟨there.ip, by simp [Roster.ipAt, foundThere]⟩
    have still := ipAt_run later foundOwn
    rw [still] at foundOther
    exact absurd (foundOwn.trans foundOther) (gone other before)
  · have born : ((pool.step input).1.run
        (first ++ [.firstProbed id slot now outcome])).1.roster.get? other =
          some (((pool.step input).1.run first).1.probedEndpoint ip now outcome) := by
      rw [run_append]
      exact made
    have foundMade : ((pool.step input).1.run
        (first ++ [.firstProbed id slot now outcome])).1.roster.ipAt other =
          some (((pool.step input).1.run first).1.probedEndpoint ip now outcome).ip := by
      simp [Roster.ipAt, born]
    have still := ipAt_run rest foundMade
    rw [← run_append, List.append_assoc, List.singleton_append, foundOther] at still
    refine ⟨first, id, slot, now, outcome, rest, _, rfl, ?_, born, (Option.some.inj still).symm, ?_⟩
    · rw [newest]
      exact List.getElem?_eq_none (Nat.le_refl _)
    · simp [probedEndpoint]

/-- In a pool that goes on probing, the schedules follow the snapshots. Whenever no refresh has an
endpoint in hand, there is one live schedule for each endpoint of the snapshot and no other. An
endpoint that a refresh removes stays removed, whatever else happens. -/
theorem schedules_follow_snapshots (settings : Settings) (inputs : List Input) {period : Nat}
    (periodic : settings.probePeriod = some period) (positive : 0 < period)
    (reachable : period < Schedule.unreachable) (ordinary : ∀ input ∈ inputs, input.Ordinary) :
    (Idle ((make settings).run inputs).1 →
      ((make settings).run inputs).1.scheduled.Perm ((make settings).run inputs).1.members) ∧
    ∀ earlier input later, inputs = earlier ++ input :: later →
      ∀ position endpoint, position ∈ ((make settings).run earlier).1.members →
        position ∉ (((make settings).run earlier).1.step input).1.members →
        ((make settings).run earlier).1.roster.get? position = some endpoint →
          StaysRemoved (((make settings).run earlier).1.step input).1 later position endpoint := by
  have begins : (Schedule.begin? settings.probePeriod).isLive = true := by
    simp [periodic, Schedule.begin?, positive, reachable, Schedule.isLive]
  constructor
  · exact ((Undisturbed.of_make begins).run ordinary).scheduled_perm_members
  · rintro earlier input later rfl position endpoint member leaves found
    have first := (Undisturbed.of_make begins).run fun other isEarlier =>
      ordinary other (List.mem_append_left _ isEarlier)
    refine first.staysRemoved (ordinary input (by simp)) ?_ member leaves found
    intro other isLater
    exact ordinary other (by simp [isLater])

/-- An address goes and comes back, while its first endpoint is about to be probed again. -/
def comingBack : List Input :=
  [.refresh 0 .construction, .answered 0 (.ok [.v4 ⟨10, 0, 0, 1⟩]),
    .firstProbed 0 0 3 (.status 200), .join 0, .due 0,
    .refresh 1 .caller, .answered 1 (.ok [.v4 ⟨10, 0, 0, 2⟩]),
    .firstProbed 1 0 5 (.status 200), .join 1, .probed 0 6 (.status 500),
    .refresh 2 .caller, .answered 2 (.ok [.v4 ⟨10, 0, 0, 1⟩]),
    .firstProbed 2 0 8 (.status 404), .join 2]

/-- The address has a new endpoint when it is back, and the old one has not been probed again. -/
theorem schedules_follow_snapshots_comingBack :
    ((make (probingEvery 5000)).run comingBack).1.scheduled.Perm [2] ∧
      .probe 0 ∉ (((make (probingEvery 5000)).run (comingBack.take 9)).1.run
        (comingBack.drop 9)).2 := by
  have ordinary : ∀ input ∈ comingBack, input.Ordinary := by
    intro input member
    simp only [comingBack, List.mem_cons, List.not_mem_nil, or_false] at member
    rcases member with rfl | rfl | rfl | rfl | rfl | rfl | rfl | rfl | rfl | rfl | rfl | rfl | rfl |
      rfl
    case inr.inl | inr.inr.inr.inr.inr.inr.inl | inr.inr.inr.inr.inr.inr.inr.inr.inr.inr.inr.inl =>
      exact List.nodup_singleton _
    all_goals trivial
  have follows := schedules_follow_snapshots (probingEvery 5000) comingBack rfl (by decide)
    (by decide) ordinary
  obtain ⟨scheduled, removed⟩ := follows
  have stays := removed (comingBack.take 8) (.join 1) (comingBack.drop 9) rfl 0 _
    (by decide) (by decide) rfl
  exact ⟨scheduled (.of_finished rfl), stays.unprobed⟩

/-- With a period of nothing the schedules end before they begin, so the snapshot has none. -/
theorem scheduled_of_no_period :
    ∃ inputs : List Input, (∀ input ∈ inputs, input.Ordinary) ∧
      ((make (probingEvery 0)).run inputs).1.refreshes = [] ∧
      ¬((make (probingEvery 0)).run inputs).1.scheduled.Perm
        ((make (probingEvery 0)).run inputs).1.members := by
  refine ⟨comingBack.take 4, ?_, rfl, by decide⟩
  intro input member
  simp only [comingBack, List.take_succ_cons, List.take_zero, List.mem_cons, List.not_mem_nil,
    or_false] at member
  rcases member with rfl | rfl | rfl | rfl
  case inr.inl => exact List.nodup_singleton _
  all_goals trivial

end OneHost.Pool
