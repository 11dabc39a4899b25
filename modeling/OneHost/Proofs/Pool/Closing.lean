import OneHost.Proofs.Pool.Queueing
import OneHost.Proofs.Pool.Retirement

/-!
# What goes on after the pool is shut down

Shutting a pool down ends the schedules of its snapshot, and asks the pool's own refreshes to stop.
It does not end the refreshes that are under way: one of the pool's own may still publish before it
comes to its stop, and those of callers go on, with new endpoints in hand that are in no snapshot
yet. Others may be asked for later. Whatever has a schedule after the shutdown was brought in by
one of them.
-/

namespace OneHost.Pool

variable {pool : Pool} {position : Nat} {inputs : List Input}

/-! ## Live schedules -/

theorem WellFormed.exists_endpoint (wellFormed : WellFormed pool)
    (inService : pool.InService position) :
    ∃ endpoint, pool.roster.get? position = some endpoint := by
  cases inService with
  | inl member =>
    obtain ⟨ip, found⟩ := wellFormed.present position member
    obtain ⟨endpoint, there, _⟩ := Option.map_eq_some_iff.mp found
    exact ⟨endpoint, there⟩
  | inr inHand =>
    obtain ⟨refresh, asked, inHand⟩ := inHand
    cases phase : refresh.phase with
    | waiting => simp [endpoints_of_waiting phase] at inHand
    | lookingUp => simp [endpoints_of_lookingUp phase] at inHand
    | starting previous answer slots =>
      obtain ⟨_, fits⟩ := wellFormed.fits refresh asked previous answer slots phase
      rw [Refresh.endpoints, phase] at inHand
      obtain ⟨ip, _, found, _⟩ := ipAt_of_mem_endpoints fits inHand
      obtain ⟨endpoint, there, _⟩ := Option.map_eq_some_iff.mp found
      exact ⟨endpoint, there⟩

/-- A schedule never begins again: whoever has a live one had it before, or is new. -/
theorem scheduled_of_step {input : Input} (wellFormed : WellFormed pool)
    (isLive : position ∈ (pool.step input).1.scheduled) :
    position ∈ pool.scheduled ∨ pool.Born input position := by
  obtain ⟨endpoint, found, isLive⟩ := mem_scheduled_iff.mp isLive
  cases foundBefore : pool.roster.get? position with
  | none =>
    right
    have inService := inService_of_new wellFormed foundBefore found
    apply (inService.of_step wellFormed).resolve_left
    intro earlier
    obtain ⟨other, there⟩ := wellFormed.exists_endpoint earlier
    rw [foundBefore] at there
    contradiction
  | some earlier =>
    left
    rcases passes_step wellFormed input foundBefore with turns | ⟨ends, _⟩
    · obtain rfl := Option.some.inj (turns.symm.trans found)
      rw [Input.isLive_turn] at isLive
      exact mem_scheduled_iff.mpr ⟨earlier, foundBefore, isLive⟩
    · obtain rfl := Option.some.inj (ends.symm.trans found)
      contradiction

theorem scheduled_of_run (wellFormed : WellFormed pool)
    (isLive : position ∈ (pool.run inputs).1.scheduled) :
    position ∈ pool.scheduled ∨ ∃ earlier input later, inputs = earlier ++ input :: later ∧
      (pool.run earlier).1.Born input position :=
  began_in_run (position ∈ ·.scheduled) (·.Born · position)
    (fun _ _ wellFormed isLive => scheduled_of_step wellFormed isLive) wellFormed isLive

/-! ## Who asks for refreshes -/

/-- Whoever waits for a refresh did so before, or has just asked for it. -/
theorem mem_askers_of_step {asker : Nat × Origin} {input : Input}
    (waits : asker ∈ (pool.step input).1.askers) :
    asker ∈ pool.askers ∨ input = .refresh asker.1 asker.2 ∧
      (asker.2 = .schedule → pool.refreshing = true) := by
  obtain ⟨more, asked, sublist⟩ := askers_step_sublist pool input
  cases List.mem_append.mp (sublist.mem waits) with
  | inl before => exact .inl before
  | inr new => exact .inr (asked asker new)

/-- Only a pool that refreshes itself has refreshes of its own under way. -/
def OwnWhileRefreshing (pool : Pool) : Prop :=
  ∀ asker ∈ pool.askers, asker.2 = .schedule → pool.refreshing = true

namespace OwnWhileRefreshing

theorem of_make (settings : Settings) : OwnWhileRefreshing (make settings) := by
  intro asker waits
  simp [askers, make] at waits

theorem step (own : OwnWhileRefreshing pool) (input : Input) :
    OwnWhileRefreshing (pool.step input).1 := by
  intro asker waits scheduled
  have refreshing : pool.refreshing = true := by
    cases mem_askers_of_step waits with
    | inl before => exact own asker before scheduled
    | inr asked => exact asked.2 scheduled
  rw [refreshing_iff] at refreshing ⊢
  rw [upkeep_step]
  by_cases stops : input = .stopped
  · subst stops
    have untold : pool.upkeep ≠ .stopping := by
      intro told
      exact (mem_askers_of_stopped told waits).2 scheduled
    rwa [Input.upkeep, if_neg untold]
  · exact Input.upkeep_ne_none refreshing stops

theorem run (own : OwnWhileRefreshing pool) : OwnWhileRefreshing (pool.run inputs).1 :=
  run_invariant (fun _ input _ own => own.step input) own

end OwnWhileRefreshing

theorem mem_askers_of_run {asker : Nat × Origin} (wellFormed : WellFormed pool)
    (waits : asker ∈ (pool.run inputs).1.askers) :
    asker ∈ pool.askers ∨ .refresh asker.1 asker.2 ∈ inputs := by
  have began := began_in_run (asker ∈ ·.askers) (fun _ input => input = .refresh asker.1 asker.2)
    (fun _ _ _ waits => (mem_askers_of_step waits).imp_right And.left) wellFormed waits
  rcases began with before | ⟨_, _, _, rfl, rfl⟩
  · exact .inl before
  · right
    simp

/-- Whoever is made in a step is made for a refresh that someone waits for. -/
theorem Born.exists_asker {input : Input} (born : pool.Born input position) :
    ∃ id origin slot now outcome, input = .firstProbed id slot now outcome ∧
      position = pool.roster.endpoints.length ∧ (id, origin) ∈ pool.askers := by
  obtain ⟨id, slot, now, outcome, ip, rfl, newest, made⟩ := born
  obtain ⟨after, effects, stepped, transition⟩ :=
    exists_transition pool (.firstProbed id slot now outcome)
  rw [stepped] at made
  cases transition with
  | missed _ =>
    have known := Roster.lt_length_of_get? made
    exact absurd newest (Nat.ne_of_lt known)
  | @started _ _ _ _ origin rest previous answer slots _ working _ =>
    refine ⟨id, origin, slot, now, outcome, rfl, newest, ?_⟩
    rw [askers, working]
    exact List.mem_cons_self

/-! ## After the shutdown -/

/-- A pool in which only those in service have a schedule, with all that this rests on. -/
structure Tidy (pool : Pool) : Prop where
  wellFormed : WellFormed pool
  distinct : Distinct pool
  unseen : Unseen pool
  onlyServing : OnlyServing pool

namespace Tidy

theorem of_make (settings : Settings) : Tidy (make settings) where
  wellFormed := .of_make settings
  distinct := .of_make settings
  unseen := .of_make settings
  onlyServing _ _ found := by simp [make, Roster.get?] at found

theorem step {input : Input} (tidy : Tidy pool) (once : input.Distinct) :
    Tidy (pool.step input).1 where
  wellFormed := tidy.wellFormed.step input
  distinct := tidy.distinct.step tidy.wellFormed once
  unseen := tidy.unseen.step tidy.wellFormed input
  onlyServing := tidy.onlyServing.step tidy.wellFormed tidy.distinct tidy.unseen once

theorem run (tidy : Tidy pool) (once : ∀ input ∈ inputs, input.Distinct) :
    Tidy (pool.run inputs).1 :=
  run_invariant (fun _ input among tidy => tidy.step (once input among)) tidy

end Tidy

/-- An endpoint that a refresh has brought into a pool since some moment, and who asked for that
refresh: it had the endpoint in hand at that moment, or the endpoint was made later, for a refresh
that was in flight at that moment or has been asked for since. -/
inductive BroughtIn (start : Pool) (later : List Input) (origin : Origin) (position : Nat) : Prop
  | inHand {refresh : Refresh} (inFlight : refresh ∈ start.refreshes)
      (isOrigin : refresh.origin = origin) (inHand : position ∈ refresh.endpoints)
  | made {earlier rest : List Input} {id slot now : Nat} {outcome : Health.Outcome}
      (split : later = earlier ++ .firstProbed id slot now outcome :: rest)
      (newest : position = (start.run earlier).1.roster.endpoints.length)
      (waits : (id, origin) ∈ (start.run earlier).1.askers)
      (asked : (id, origin) ∈ start.askers ∨ .refresh id origin ∈ earlier)

/-- Whoever has a live schedule was in the snapshot before, or has been brought in. -/
theorem Tidy.broughtIn {start : Pool} {later : List Input} (tidy : Tidy start)
    (isLive : position ∈ (start.run later).1.scheduled) :
    position ∈ start.members ∨ ∃ origin, BroughtIn start later origin position := by
  rcases scheduled_of_run tidy.wellFormed isLive with
    already | ⟨earlier, input, rest, rfl, born⟩
  · apply (tidy.onlyServing.inService already).imp_right
    intro ⟨refresh, inFlight, inHand⟩
    exact ⟨refresh.origin, .inHand inFlight rfl inHand⟩
  · obtain ⟨id, origin, slot, now, outcome, rfl, newest, waits⟩ := born.exists_asker
    exact .inr ⟨origin, .made rfl newest waits (mem_askers_of_run tidy.wellFormed waits)⟩

namespace BroughtIn

variable {start : Pool} {later : List Input} {origin : Origin}

/-- Someone has to ask for the refresh. -/
theorem exists_asker (broughtIn : BroughtIn start later origin position) :
    start.refreshes ≠ [] ∨ ∃ id, .refresh id origin ∈ later := by
  cases broughtIn with
  | inHand inFlight _ _ => exact .inl (List.ne_nil_of_mem inFlight)
  | made split _ _ asked =>
    cases asked with
    | inl inFlight =>
      left
      intro none
      simp [askers, none] at inFlight
    | inr since =>
      right
      exact ⟨_, split ▸ List.mem_append_left _ since⟩

end BroughtIn

namespace Tidy

variable {start : Pool} {later : List Input}

end Tidy

end OneHost.Pool
