import OneHost.Proofs.Pool.Service

/-!
# What readers hold

Readers hold snapshots that have been current, and a refresh shows no one the endpoints that it has
just started. So no reader holds an endpoint that has never been in a snapshot, and whatever happens
to a refresh at work, its new endpoints are its own.
-/

namespace OneHost.Pool

variable {pool before after : Pool}

/-- The snapshots that readers hold have no endpoint that a refresh has just started. -/
structure Unseen (pool : Pool) : Prop where
  known : ∀ snapshot ∈ pool.held, ∀ position ∈ snapshot.rotation.members,
    position < pool.roster.endpoints.length
  started : ∀ refresh ∈ pool.refreshes, ∀ previous answer slots,
    refresh.phase = .starting previous answer slots → ∀ position, .started position ∈ slots →
      ∀ snapshot ∈ pool.held, position ∉ snapshot.rotation.members

theorem WellFormed.lt_length (wellFormed : WellFormed pool) {position : Nat}
    (member : position ∈ pool.members) : position < pool.roster.endpoints.length := by
  obtain ⟨ip, found⟩ := wellFormed.present position member
  obtain ⟨endpoint, there, _⟩ := Option.map_eq_some_iff.mp found
  exact Roster.lt_length_of_get? there

/-- What a refresh has started is not in the snapshot that it is to replace. -/
theorem foreign_of_started {answer : List Ip} {slots : List Slot} {position : Nat}
    (fits : List.Forall₂ pool.Fits answer slots) (started : .started position ∈ slots) :
    position ∉ pool.members := by
  obtain ⟨ip, _, fit⟩ := exists_of_mem_right fits started
  cases fit with
  | started foreign _ _ => exact foreign

namespace Unseen

theorem of_make (settings : Settings) : Unseen (make settings) where
  known _ member := by simp [make] at member
  started _ member := by simp [make] at member

theorem of_kept (unseen : Unseen before) (wellFormed : WellFormed before) (kept : Kept before after)
    (queued : Queued before.refreshes after.refreshes) : Unseen after where
  known snapshot isHeld position member := by
    rw [kept.roster.length]
    cases kept.held snapshot isHeld with
    | inl earlier => exact unseen.known snapshot earlier position member
    | inr current =>
      subst current
      exact wellFormed.lt_length member
  started refresh asked previous answer slots phase position started snapshot isHeld := by
    rcases queued.origin refresh asked with earlier | waits | looksUp
    · cases kept.held snapshot isHeld with
      | inl heldBefore =>
        exact unseen.started refresh earlier previous answer slots phase position started snapshot
          heldBefore
      | inr current =>
        subst current
        obtain ⟨_, fits⟩ := wellFormed.fits refresh earlier previous answer slots phase
        exact foreign_of_started fits started
    · rw [phase] at waits
      contradiction
    · rw [phase] at looksUp
      contradiction

/-- No one has been started if all refreshes wait. -/
theorem of_waiting {pool : Pool} (known : ∀ snapshot ∈ pool.held,
      ∀ position ∈ snapshot.rotation.members, position < pool.roster.endpoints.length)
    (waits : ∀ refresh ∈ pool.refreshes, refresh.phase = .waiting) : Unseen pool where
  known := known
  started refresh asked previous answer slots phase := by
    rw [waits refresh asked] at phase
    contradiction

theorem settled (unseen : Unseen pool) (wellFormed : WellFormed pool) : Unseen pool.settled :=
  unseen.of_kept wellFormed (kept_settled pool pool.refreshes pool.upkeep) (.of_begun _)

theorem replaced {id : Nat} {origin : Origin} {rest : List Refresh} {previous : List Nat}
    {answer : List Ip} {slots : List Slot} (unseen : Unseen pool) (wellFormed : WellFormed pool)
    (working : pool.refreshes = ⟨id, origin, .starting previous answer slots⟩ :: rest) :
    Unseen (pool.replaced previous answer slots) := by
  refine of_waiting ?_ ?_
  · intro snapshot isHeld position member
    exact (Roster.length_disposed ..).symm ▸ unseen.known snapshot isHeld position member
  · intro refresh asked
    simp only [Pool.replaced, working, List.drop_succ_cons, List.drop_zero] at asked
    exact wellFormed.waiting_of_mem working asked

theorem withAnswer {id : Nat} {origin : Origin} {phase : Phase} {rest : List Refresh}
    (unseen : Unseen pool) (wellFormed : WellFormed pool)
    (working : pool.refreshes = ⟨id, origin, phase⟩ :: rest) (answer : List Ip) :
    Unseen (pool.withAnswer answer) where
  known := unseen.known
  started refresh asked previous given slots isPhase position started := by
    rw [refreshes_withAnswer working] at asked
    cases List.mem_cons.mp asked with
    | inl isFirst =>
      subst isFirst
      obtain ⟨rfl, rfl, rfl⟩ := Phase.starting.inj isPhase
      obtain ⟨ip, _, isStarted⟩ := List.mem_map.mp started
      unfold slotFor at isStarted
      split at isStarted <;> contradiction
    | inr later =>
      rw [wellFormed.waiting_of_mem working later] at isPhase
      contradiction

theorem withEndpoint {id : Nat} {origin : Origin} {rest : List Refresh} {previous : List Nat}
    {answer : List Ip} {slots : List Slot} (slot : Nat) (endpoint : Endpoint)
    (unseen : Unseen pool) (wellFormed : WellFormed pool)
    (working : pool.refreshes = ⟨id, origin, .starting previous answer slots⟩ :: rest) :
    Unseen (pool.withEndpoint previous answer slots slot endpoint) where
  known snapshot isHeld position member := by
    simp only [Pool.withEndpoint, setPhase, Roster.push, List.length_append, List.length_singleton]
    exact Nat.lt_succ_of_lt (unseen.known snapshot isHeld position member)
  started refresh asked earlier given places isPhase position started snapshot isHeld := by
    rw [refreshes_withEndpoint working] at asked
    cases List.mem_cons.mp asked with
    | inl isFirst =>
      subst isFirst
      obtain ⟨rfl, rfl, rfl⟩ := Phase.starting.inj isPhase
      cases List.mem_or_eq_of_mem_set started with
      | inl earlier =>
        exact unseen.started _ (working ▸ List.mem_cons_self) _ _ _ rfl position earlier snapshot
          isHeld
      | inr newest =>
        obtain rfl := Slot.started.inj newest
        exact fun member => Nat.lt_irrefl _ (unseen.known snapshot isHeld _ member)
    | inr later =>
      rw [wellFormed.waiting_of_mem working later] at isPhase
      contradiction

theorem step (unseen : Unseen pool) (wellFormed : WellFormed pool) (input : Input) :
    Unseen (pool.step input).1 := by
  obtain ⟨after, effects, stepped, acts⟩ := exists_acts pool input
  rw [stepped]
  cases acts with
  | aside kept queued _ => exact unseen.of_kept wellFormed kept queued
  | answered working _ => exact unseen.withAnswer wellFormed working _
  | started working _ _ => exact unseen.withEndpoint _ _ wellFormed working
  | reused working _ _ =>
    have answered := wellFormed.withAnswer working
    have stillFirst := refreshes_withAnswer working
    rw [publish_fst]
    exact ((unseen.withAnswer wellFormed working _).replaced (answered _) (stillFirst _)).settled
      ((answered _).replaced (stillFirst _))
  | joined working _ =>
    rw [publish_fst]
    exact (unseen.replaced wellFormed working).settled (wellFormed.replaced working)

theorem run (unseen : Unseen pool) (wellFormed : WellFormed pool) (inputs : List Input) :
    Unseen (pool.run inputs).1 := by
  induction inputs generalizing pool with
  | nil => exact unseen
  | cons input inputs ih => exact ih (unseen.step wellFormed input) (wellFormed.step input)

end Unseen

/-- Readers hold no endpoint that is in service without being a member. -/
theorem Unseen.notMem_held {position : Nat} {snapshot : Snapshot} (unseen : Unseen pool)
    (wellFormed : WellFormed pool) (inService : pool.InService position)
    (foreign : position ∉ pool.members) (isHeld : snapshot ∈ pool.held) :
    position ∉ snapshot.rotation.members := by
  obtain ⟨⟨id, origin, phase⟩, asked, inHand⟩ := inService.resolve_left foreign
  cases phase with
  | waiting | lookingUp => simp [Refresh.endpoints] at inHand
  | starting previous answer slots =>
    obtain ⟨place, placed, isEndpoint⟩ := List.mem_filterMap.mp inHand
    obtain ⟨_, fits⟩ := wellFormed.fits _ asked previous answer slots rfl
    obtain ⟨ip, _, fit⟩ := exists_of_mem_right fits placed
    cases fit with
    | kept member _ => exact absurd (Option.some.inj isEndpoint ▸ member) foreign
    | starting _ => simp [Slot.endpoint?] at isEndpoint
    | started _ _ _ =>
      obtain rfl := Option.some.inj isEndpoint
      exact unseen.started _ asked previous answer slots rfl _ placed snapshot isHeld

/-- A schedule ends when its endpoint leaves the hands of a refresh that does not publish. -/
theorem Kept.schedule_eq_none {position : Nat} {endpoint : Endpoint} (kept : Kept before after)
    (unseen : Unseen before) (wellFormed : WellFormed before)
    (inService : before.InService position) (leaves : ¬after.InService position)
    (found : after.roster.get? position = some endpoint) : endpoint.schedule = .none := by
  have foreign : position ∉ before.members := fun member =>
    leaves (.inl (kept.members.symm ▸ member))
  refine kept.unused position endpoint found inService.inUse ?_
  rw [Bool.eq_false_iff]
  intro used
  simp only [inUse, Bool.or_eq_true, List.any_eq_true, List.contains_iff_mem] at used
  rcases used with (member | ⟨snapshot, isHeld, member⟩) | inHand
  · exact leaves (.inl member)
  · cases kept.held snapshot isHeld with
    | inl earlier => exact unseen.notMem_held wellFormed inService foreign earlier member
    | inr current =>
      subst current
      exact foreign member
  · exact leaves (.inr inHand)

end OneHost.Pool
