import OneHost.Proofs.Pool.Transitions

/-!
# The kinds of steps

A step of a pool is one of a few kinds. Most leave the snapshot in place and no refresh any further
than its lookup. A refresh takes its answer, then one first probe after the other, and publishes
when every place has its endpoint; it publishes at once when there is nothing to probe.
-/

namespace OneHost.Pool

variable (pool : Pool)

/-- What one step can come to. -/
inductive Acts (pool : Pool) : Input → Pool → List Effect → Prop
  /-- The snapshot stays, and no refresh gets beyond its lookup. -/
  | aside {input : Input} {after : Pool} {effects : List Effect} (kept : Kept pool after)
      (queued : Queued pool.refreshes after.refreshes) (hidden : shown effects = []) :
      Acts pool input after effects
  /-- The first refresh takes an answer, and has endpoints to start. -/
  | answered {id : Nat} {origin : Origin} {rest : List Refresh} {answer : List Ip}
      (working : pool.refreshes = ⟨id, origin, .lookingUp⟩ :: rest) (nonempty : answer ≠ []) :
      Acts pool (.answered id (.ok answer)) (pool.withAnswer answer)
        (starts id (answer.map pool.slotFor))
  /-- The first refresh takes a first probe. -/
  | started {id slot now : Nat} {outcome : Health.Outcome} {origin : Origin} {rest : List Refresh}
      {previous : List Nat} {answer : List Ip} {slots : List Slot} {ip : Ip} {effects : List Effect}
      (working : pool.refreshes = ⟨id, origin, .starting previous answer slots⟩ :: rest)
      (waiting : slots[slot]? = some (.starting ip)) (hidden : shown effects = []) :
      Acts pool (.firstProbed id slot now outcome)
        (pool.withEndpoint previous answer slots slot (pool.probedEndpoint ip now outcome)) effects
  /-- The first refresh takes an answer with no new address, and publishes. -/
  | reused {id : Nat} {origin : Origin} {rest : List Refresh} {answer : List Ip}
      (working : pool.refreshes = ⟨id, origin, .lookingUp⟩ :: rest) (nonempty : answer ≠ [])
      (complete : (answer.map pool.slotFor).all (·.endpoint?.isSome) = true) :
      Acts pool (.answered id (.ok answer))
        ((pool.withAnswer answer).publish id origin pool.members answer
          (answer.map pool.slotFor)).1
        ((pool.withAnswer answer).publish id origin pool.members answer
          (answer.map pool.slotFor)).2
  /-- The first refresh has all of its endpoints, and publishes. -/
  | joined {id : Nat} {origin : Origin} {rest : List Refresh} {previous : List Nat}
      {answer : List Ip} {slots : List Slot}
      (working : pool.refreshes = ⟨id, origin, .starting previous answer slots⟩ :: rest)
      (complete : slots.all (·.endpoint?.isSome) = true) :
      Acts pool (.join id) (pool.publish id origin previous answer slots).1
        (pool.publish id origin previous answer slots).2

namespace Acts

variable {pool : Pool} {input : Input} {effects : List Effect}

theorem nothing : Acts pool input pool [] :=
  .aside (.refl pool) (.refl _) rfl

/-- Only the endpoints go on. -/
theorem of_roster {roster : Roster} (continues : pool.roster.Continues roster)
    (same : roster.rotation.members = pool.roster.rotation.members)
    (hidden : shown effects = []) : Acts pool input { pool with roster } effects :=
  .aside (.of_roster pool roster continues same) (.refl _) hidden

theorem of_modify {position : Nat} {change : Endpoint → Endpoint}
    (goesOn : ∀ endpoint, pool.roster.get? position = some endpoint →
      endpoint.Continues (change endpoint))
    (hidden : shown effects = []) :
    Acts pool input { pool with roster := pool.roster.modify position change } effects :=
  of_roster (pool.roster.continues_modify position change goesOn) rfl hidden

theorem of_cancel (upkeep : Upkeep) (gone : Refresh → Bool) :
    Acts pool input (cancel { pool with upkeep } gone).1 (cancel { pool with upkeep } gone).2 := by
  rw [cancel_fst]
  exact .aside (kept_settled pool _ _) ((Queued.of_filter _ _).trans (.of_begun _))
    (shown_cancel ..)

theorem of_finish {result : Except Resolution.LookupError Summary} (id : Nat) (origin : Origin)
    (hidden : shown effects = []) :
    Acts pool input (pool.finish id origin result).1 effects := by
  rw [finish_fst]
  exact .aside (kept_settled pool _ _) ((Queued.of_drop _).trans (.of_begun _)) hidden

end Acts

theorem step_acts (input : Input) : Acts pool input (pool.step input).1 (pool.step input).2 := by
  obtain ⟨after, effects, stepped, transition⟩ := exists_transition pool input
  rw [stepped]
  cases transition with
  | missed _ => exact .nothing
  | asked id origin =>
    refine .aside (.of_inUse rfl rfl rfl (.of_same rfl) (fun _ => .inl) fun position used => ?_)
      ((Queued.of_asked _ id origin).trans (.of_begun _)) (shown_beginNext _)
    rw [inUse_begun]
    simp only [inUse, Bool.or_eq_true, List.any_append] at used ⊢
    tauto
  | @unanswered id origin _ _ _ => exact .of_finish id origin (shown_finish ..)
  | @unaddressed id origin _ _ =>
    simp only [takeAnswer_nil]
    exact .of_finish id origin (shown_finish ..)
  | answered lookingUp nonempty => exact .answered lookingUp nonempty
  | reused lookingUp nonempty complete => exact .reused lookingUp nonempty complete
  | started working waiting =>
    refine .started working waiting ?_
    simp only [takeFirstProbe, waiting]
    split <;> rfl
  | joined working complete => exact .joined working complete
  | cancelled _ => exact .of_cancel pool.upkeep _
  | stopped _ => exact .of_cancel .none _
  | due found waits =>
    refine .of_modify (fun same foundSame => ⟨rfl, id, fun ended => ?_⟩) rfl
    rw [found] at foundSame
    rw [← Option.some.inj foundSame, waits] at ended
    contradiction
  | probed found probing =>
    refine .of_modify (fun same foundSame => ?_) rfl
    rw [found] at foundSame
    rw [← Option.some.inj foundSame, Endpoint.record_fst]
    exact ⟨rfl, fun _ => rfl, fun ended => by rw [probing] at ended; contradiction⟩
  | setHealthy position healthy =>
    exact .of_modify (fun endpoint _ => endpoint.continues_setHealthy healthy) rfl
  | next => exact .of_roster (.of_same rfl) (Rotation.members_next ..) rfl
  | hold =>
    refine .aside (.of_inUse rfl rfl rfl (.of_same rfl) (fun snapshot member => ?_)
      fun position used => ?_) (.refl _) rfl
    · rcases List.mem_cons.mp member with newest | earlier
      · exact .inr newest
      · exact .inl earlier
    · simp only [inUse, Bool.or_eq_true, List.any_cons] at used ⊢
      tauto
  | letGo =>
    rw [release_fst]
    refine .aside (.of_disposed rfl rfl rfl (fun snapshot member => ?_) fun position unused => ?_)
      (.refl _) (quiet_release _).shown_eq_nil
    · simp at member
    · simpa [inUse] using unused
  | dispose position =>
    exact .of_roster (Roster.continues_disposed ..) rfl (quiet_disposal pool position).shown_eq_nil
  | keepRefreshing =>
    exact .aside (.of_inUse rfl rfl rfl (.of_same rfl) (fun _ => .inl) fun _ => id) (.refl _) rfl
  | shutDown =>
    have goesOn : pool.roster.Continues pool.dismissed.roster := Roster.continues_disposed ..
    refine .aside (.of_inUse rfl rfl rfl goesOn (fun _ => .inl) fun _ => id) (.refl _) ?_
    simp only [shown_append, (quiet_disposeAll _ _).shown_eq_nil]
    split <;> rfl

/-- A step with its kind. -/
theorem exists_acts (input : Input) :
    ∃ after effects, pool.step input = (after, effects) ∧ Acts pool input after effects :=
  ⟨_, _, rfl, step_acts pool input⟩

/-! ## Addresses -/

/-- Endpoints go on when a snapshot is published. -/
theorem continues_publish (id : Nat) (origin : Origin) (previous : List Nat) (answer : List Ip)
    (slots : List Slot) :
    pool.roster.Continues (pool.publish id origin previous answer slots).1.roster := by
  have disposed := pool.roster.continues_disposed
    fun position => position ∈ pool.missing previous answer
  have settled := (pool.replaced previous answer slots).roster.continues_disposed
    fun position => !(pool.replaced previous answer slots).inUse position
  have swapped : Roster.Continues
      (pool.roster.disposed fun position => position ∈ pool.missing previous answer)
      (pool.replaced previous answer slots).roster := .of_same rfl
  rw [publish_fst]
  exact (disposed.trans swapped).trans settled

variable {pool} in
/-- An endpoint never changes its address. -/
theorem address_step {position : Nat} {endpoint : Endpoint} (input : Input)
    (found : pool.roster.get? position = some endpoint) :
    ∃ later, (pool.step input).1.roster.get? position = some later ∧
      later.address = endpoint.address := by
  obtain ⟨after, effects, stepped, acts⟩ := exists_acts pool input
  rw [stepped]
  have goesOn (continues : pool.roster.Continues after.roster) :
      ∃ later, after.roster.get? position = some later ∧ later.address = endpoint.address := by
    obtain ⟨later, foundLater, same⟩ := continues.endpoints position endpoint found
    exact ⟨later, foundLater, same.address⟩
  cases acts with
  | aside kept _ _ => exact goesOn kept.roster
  | answered _ _ => exact ⟨endpoint, found, rfl⟩
  | started _ _ _ =>
    have taken : position ≠ pool.roster.endpoints.length :=
      Nat.ne_of_lt (Roster.lt_length_of_get? found)
    refine ⟨endpoint, ?_, rfl⟩
    simp [withEndpoint, setPhase, Roster.get?_push, taken, found]
  | @reused _ _ _ answer _ _ _ => exact goesOn ((pool.withAnswer answer).continues_publish ..)
  | joined _ _ => exact goesOn (pool.continues_publish ..)

end OneHost.Pool
