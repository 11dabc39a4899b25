import OneHost.Proofs.Pool.Holding
import OneHost.Proofs.Pool.Publishing

/-!
# Whose schedules are live

In a pool that goes on probing, the endpoints in service are those with a live schedule, as long as
no one ends schedules by hand: a refresh starts one with each endpoint it makes, an endpoint that
stays keeps its own, and one that goes loses it. Readers may hold a snapshot for as long as they
like; it keeps no schedule alive, since all of its endpoints have been in service, and whoever has
left service has lost its schedule.
-/

namespace OneHost.Pool

variable {pool before after : Pool}

/-- The inputs of a pool that is left to itself: no schedule is ended and no flag set by hand, and
no answer gives an address twice. -/
def Input.Ordinary : Input → Prop
  | .answered _ (.ok answer) => answer.Nodup
  | .setHealthy _ _ | .dispose _ | .shutDown => False
  | _ => True

theorem Input.Ordinary.distinct {input : Input} (ordinary : input.Ordinary) : input.Distinct := by
  cases input with
  | answered id answer =>
    cases answer with
    | ok answer => exact ordinary
    | error error => trivial
  | _ => trivial

/-- Whoever is out of service has no schedule. -/
def OnlyServing (pool : Pool) : Prop :=
  ∀ position endpoint, pool.roster.get? position = some endpoint →
    ¬pool.InService position → endpoint.schedule = .none

/-- The schedules of the endpoints in service are live, and the others have none. -/
structure Tended (pool : Pool) : Prop where
  begins : (Schedule.begin? pool.settings.probePeriod).isLive = true
  serving : ∀ position, pool.InService position →
    ∃ endpoint, pool.roster.get? position = some endpoint ∧ endpoint.schedule.isLive = true
  others : OnlyServing pool

theorem settings_step (pool : Pool) (input : Input) :
    (pool.step input).1.settings = pool.settings := by
  obtain ⟨after, effects, stepped, acts⟩ := exists_acts pool input
  rw [stepped]
  cases acts with
  | aside kept _ _ => exact kept.settings
  | answered _ _ | started _ _ _ => rfl
  | reused _ _ _ | joined _ _ => rw [publish_fst]; rfl

theorem mem_members_publish {id : Nat} {origin : Origin} {previous : List Nat} {answer : List Ip}
    {slots : List Slot} {position : Nat} :
    position ∈ (pool.publish id origin previous answer slots).1.members ↔
      position ∈ slots.filterMap Slot.endpoint? := by
  rw [publish_fst, ← (pool.arranged_perm slots).mem_iff]
  rfl

/-- Whoever does not come into the new snapshot does not have an address of the answer. -/
theorem Distinct.notMem_answer {id : Nat} {origin : Origin} {rest : List Refresh}
    {previous : List Nat} {answer : List Ip} {slots : List Slot} {position : Nat} {ip : Ip}
    (distinct : Distinct pool) (wellFormed : WellFormed pool)
    (working : pool.refreshes = ⟨id, origin, .starting previous answer slots⟩ :: rest)
    (complete : slots.all (·.endpoint?.isSome) = true) (member : position ∈ pool.members)
    (leaves : position ∉ (pool.publish id origin previous answer slots).1.members)
    (found : pool.roster.ipAt position = some ip) : ip ∉ answer := by
  intro answered
  rw [mem_members_publish] at leaves
  exact leaves (distinct.mem_endpoints (wellFormed.fits_first working).2 complete member found
    answered)

/-- A schedule ends when a new snapshot is published without its endpoint. -/
theorem Distinct.schedule_eq_none {id : Nat} {origin : Origin} {rest : List Refresh}
    {previous : List Nat} {answer : List Ip} {slots : List Slot} {position : Nat}
    {endpoint : Endpoint} (distinct : Distinct pool) (wellFormed : WellFormed pool)
    (working : pool.refreshes = ⟨id, origin, .starting previous answer slots⟩ :: rest)
    (complete : slots.all (·.endpoint?.isSome) = true) (inService : pool.InService position)
    (leaves : ¬(pool.publish id origin previous answer slots).1.InService position)
    (found : (pool.publish id origin previous answer slots).1.roster.get? position =
      some endpoint) : endpoint.schedule = .none := by
  have gone : position ∉ (pool.publish id origin previous answer slots).1.members :=
    fun member => leaves (.inl member)
  have member : position ∈ pool.members := by
    refine ((wellFormed.inService_iff working).mp inService).resolve_right fun inHand => ?_
    exact gone (mem_members_publish.mpr inHand)
  obtain ⟨ip, foundIp⟩ := wellFormed.present position member
  have unanswered := distinct.notMem_answer wellFormed working complete member gone foundIp
  have missing : position ∈ pool.missing previous answer := by
    obtain ⟨rfl, _⟩ := wellFormed.fits_first working
    exact mem_missing.mpr ⟨member, ip, foundIp, unanswered⟩
  have continues := (pool.replaced previous answer slots).roster.continues_disposed
    fun position => !(pool.replaced previous answer slots).inUse position
  rw [publish_fst] at found
  obtain ⟨replaced, foundReplaced, goesOn⟩ := continues.origin found
  have disposed : (pool.roster.disposed fun position =>
      position ∈ pool.missing previous answer).get? position = some replaced := foundReplaced
  simp only [Roster.get?_disposed, missing, decide_true, if_true] at disposed
  obtain ⟨earlier, _, rfl⟩ := Option.map_eq_some_iff.mp disposed
  exact goesOn.unscheduled rfl

/-- Whoever leaves service in a step has no schedule any more. -/
theorem schedule_eq_none_of_leaves {input : Input} {position : Nat} {endpoint : Endpoint}
    (wellFormed : WellFormed pool) (distinct : Distinct pool) (unseen : Unseen pool)
    (once : input.Distinct) (inService : pool.InService position)
    (leaves : ¬(pool.step input).1.InService position)
    (found : (pool.step input).1.roster.get? position = some endpoint) :
    endpoint.schedule = .none := by
  obtain ⟨after, effects, stepped, acts⟩ := exists_acts pool input
  rw [stepped] at leaves found
  cases acts with
  | aside kept _ _ => exact kept.schedule_eq_none unseen wellFormed inService leaves found
  | @answered id origin rest answer working _ =>
    have member : position ∈ pool.members := by
      refine ((wellFormed.inService_iff working).mp inService).resolve_right ?_
      simp [Refresh.endpoints]
    exact absurd (.inl member) leaves
  | @started _ _ _ _ _ _ _ _ _ _ _ working waiting _ =>
    refine absurd ?_ leaves
    rw [(wellFormed.withEndpoint working waiting rfl).inService_iff
      (refreshes_withEndpoint working)]
    cases (wellFormed.inService_iff working).mp inService with
    | inl member => exact .inl member
    | inr inHand => exact .inr (Released.mem_endpoints_set waiting inHand)
  | @reused id origin rest answer working _ complete =>
    have member : position ∈ pool.members := by
      refine ((wellFormed.inService_iff working).mp inService).resolve_right ?_
      simp [Refresh.endpoints]
    exact (distinct.withAnswer working once).schedule_eq_none (wellFormed.withAnswer working _)
      (refreshes_withAnswer working _) complete (.inl member) leaves found
  | joined working complete =>
    exact distinct.schedule_eq_none wellFormed working complete inService leaves found

theorem mem_scheduled_iff {position : Nat} :
    position ∈ pool.scheduled ↔
      ∃ endpoint, pool.roster.get? position = some endpoint ∧ endpoint.schedule.isLive = true := by
  simp only [scheduled, List.mem_filter, List.mem_range, Option.any_eq_true]
  constructor
  · rintro ⟨_, endpoint, found, isLive⟩
    exact ⟨endpoint, found, isLive⟩
  · rintro ⟨endpoint, found, isLive⟩
    exact ⟨Roster.lt_length_of_get? found, endpoint, found, isLive⟩

theorem OnlyServing.inService {position : Nat} (onlyServing : OnlyServing pool)
    (isLive : position ∈ pool.scheduled) : pool.InService position := by
  obtain ⟨endpoint, found, isLive⟩ := mem_scheduled_iff.mp isLive
  by_contra absent
  rw [onlyServing position endpoint found absent] at isLive
  contradiction

theorem OnlyServing.step {input : Input} (onlyServing : OnlyServing pool)
    (wellFormed : WellFormed pool) (distinct : Distinct pool) (unseen : Unseen pool)
    (once : input.Distinct) : OnlyServing (pool.step input).1 := by
  intro position endpoint found leaves
  cases foundBefore : pool.roster.get? position with
  | none => exact absurd (inService_of_new wellFormed foundBefore found) leaves
  | some earlier =>
    by_cases inService : pool.InService position
    · exact schedule_eq_none_of_leaves wellFormed distinct unseen once inService leaves found
    · have unscheduled := onlyServing position earlier foundBefore inService
      rcases passes_step wellFormed input foundBefore with turns | ⟨ends, _⟩
      · obtain rfl := Option.some.inj (turns.symm.trans found)
        exact input.schedule_turn_of_unscheduled unscheduled
      · obtain rfl := Option.some.inj (ends.symm.trans found)
        rfl

/-- In a pool that is left to itself, every step keeps the schedules with the endpoints in
service. -/
theorem Tended.step {input : Input} (tended : Tended pool) (wellFormed : WellFormed pool)
    (distinct : Distinct pool) (unseen : Unseen pool) (ordinary : input.Ordinary) :
    Tended (pool.step input).1 where
  begins := by
    rw [settings_step]
    exact tended.begins
  serving position inService := by
    cases inService.of_step wellFormed with
    | inl earlier =>
      obtain ⟨endpoint, found, isLive⟩ := tended.serving position earlier
      rcases passes_step wellFormed input found with turns | ⟨_, rfl | rfl | leaves⟩
      · exact ⟨_, turns, (input.isLive_turn position endpoint).trans isLive⟩
      · exact ordinary.elim
      · exact ordinary.elim
      · exact absurd inService leaves
    | inr born =>
      obtain ⟨_, _, now, outcome, ip, _, _, found⟩ := born
      refine ⟨_, found, ?_⟩
      rw [probedEndpoint, Endpoint.record_fst]
      exact tended.begins
  others := tended.others.step wellFormed distinct unseen ordinary.distinct

/-- A pool that goes on probing and that no one has interfered with. -/
structure Undisturbed (pool : Pool) : Prop where
  wellFormed : WellFormed pool
  distinct : Distinct pool
  unseen : Unseen pool
  tended : Tended pool

namespace Undisturbed

theorem of_make {settings : Settings}
    (begins : (Schedule.begin? settings.probePeriod).isLive = true) :
    Undisturbed (make settings) where
  wellFormed := .of_make settings
  distinct := .of_make settings
  unseen := .of_make settings
  tended.begins := begins
  tended.serving _ inService := by simp [InService, make, Pool.members, Rotation.empty] at inService
  tended.others _ _ found := by simp [make, Roster.get?] at found

theorem step {input : Input} (undisturbed : Undisturbed pool) (ordinary : input.Ordinary) :
    Undisturbed (pool.step input).1 where
  wellFormed := undisturbed.wellFormed.step input
  distinct := undisturbed.distinct.step undisturbed.wellFormed ordinary.distinct
  unseen := undisturbed.unseen.step undisturbed.wellFormed input
  tended := undisturbed.tended.step undisturbed.wellFormed undisturbed.distinct undisturbed.unseen
    ordinary

theorem run {inputs : List Input} (undisturbed : Undisturbed pool)
    (ordinary : ∀ input ∈ inputs, input.Ordinary) : Undisturbed (pool.run inputs).1 :=
  run_invariant (fun _ input member undisturbed => undisturbed.step (ordinary input member))
    undisturbed

/-- The live schedules are those of the endpoints in service. -/
theorem mem_scheduled {position : Nat} (undisturbed : Undisturbed pool) :
    position ∈ pool.scheduled ↔ pool.InService position := by
  constructor
  · exact undisturbed.tended.others.inService
  · intro inService
    exact mem_scheduled_iff.mpr (undisturbed.tended.serving position inService)

/-- While no refresh has an endpoint in hand, the live schedules are those of the snapshot, one for
each of its endpoints. -/
theorem scheduled_perm_members (undisturbed : Undisturbed pool) (idle : Idle pool) :
    pool.scheduled.Perm pool.members := by
  have once : pool.scheduled.Nodup := List.nodup_range.filter _
  rw [List.perm_ext_iff_of_nodup once (undisturbed.distinct.nodup_members undisturbed.wellFormed)]
  intro position
  rw [undisturbed.mem_scheduled, idle.inService_iff]

end Undisturbed

end OneHost.Pool
