import OneHost.Proofs.Pool.Publishing

/-!
# A refresh at work

A refresh is followed from the resolver's answer to the step that publishes, through whatever else
happens to the pool in between and in whatever order the first probes come in. Until it publishes it
only adds endpoints.
-/

namespace OneHost.Pool

variable {start pool after : Pool} {id : Nat} {origin : Origin} {answer : List Ip}
variable {slots : List Slot}

/-- The inputs by which a refresh gets on. -/
def Input.IsOf (id : Nat) : Input → Prop
  | .answered other _ | .firstProbed other _ _ _ | .join other => other = id
  | _ => False

/-- The inputs that do not give a refresh up. -/
def Input.Spares (id : Nat) (origin : Origin) : Input → Prop
  | .cancel other => other ≠ id
  | .stopped => origin ≠ .schedule
  | _ => True

/-- A step of a refresh that leaves the snapshot and every endpoint as they are, and starts none but
new addresses. -/
structure Prepares (start : Pool) (id : Nat) (before after : Pool) (effects : List Effect) :
    Prop where
  snapshot : after.snapshot = before.snapshot
  endpoints : ∀ position endpoint, before.roster.get? position = some endpoint →
    after.roster.get? position = some endpoint
  asked : ∀ effect ∈ effects,
    (∃ event, effect = .log event) ∨
      (∃ slot ip, effect = .start id slot ip ∧ ip ∉ start.addresses) ∨
      ∃ position, effect = .await position true ∧ before.roster.endpoints.length ≤ position

/-! ## A refresh at work -/

/-- A refresh that has taken an answer and has not published yet. -/
structure Working (start : Pool) (id : Nat) (origin : Origin) (answer : List Ip)
    (slots : List Slot) (pool : Pool) : Prop where
  first : ∃ rest, pool.refreshes = ⟨id, origin, .starting pool.members answer slots⟩ :: rest
  members : pool.members = start.members
  addresses : pool.addresses = start.addresses
  ipAt : ∀ position ip, start.roster.ipAt position = some ip →
    pool.roster.ipAt position = some ip
  grown : start.roster.endpoints.length ≤ pool.roster.endpoints.length
  fresh : ∀ position, .started position ∈ slots → start.roster.endpoints.length ≤ position
  wellFormed : WellFormed pool
  released : Released pool
  distinct : Distinct pool

namespace Working

theorem fits (working : Working start id origin answer slots pool) :
    List.Forall₂ pool.Fits answer slots := by
  rcases working.first with ⟨rest, first⟩
  exact (working.wellFormed.fits_first first).2

theorem answered {rest : List Refresh} (wellFormed : WellFormed start)
    (released : Released start) (distinct : Distinct start)
    (lookingUp : start.refreshes = ⟨id, origin, .lookingUp⟩ :: rest) (once : answer.Nodup) :
    Working start id origin answer (answer.map start.slotFor) (start.withAnswer answer) where
  first := ⟨rest, refreshes_withAnswer lookingUp answer⟩
  members := rfl
  addresses := rfl
  ipAt _ _ found := found
  grown := Nat.le_refl _
  fresh position member := by
    obtain ⟨ip, _, isStarted⟩ := List.mem_map.mp member
    unfold slotFor at isStarted
    split at isStarted <;> contradiction
  wellFormed := wellFormed.withAnswer lookingUp answer
  released := released.withAnswer lookingUp answer
  distinct := distinct.withAnswer lookingUp once

/-- Nothing has happened to the refresh. -/
theorem of_kept {rest : List Refresh} (working : Working start id origin answer slots pool)
    (kept : Kept pool after)
    (first : after.refreshes = ⟨id, origin, .starting pool.members answer slots⟩ :: rest)
    (wellFormed : WellFormed after) (distinct : Distinct after) :
    Working start id origin answer slots after where
  first := ⟨rest, kept.members.symm ▸ first⟩
  members := kept.members.trans working.members
  addresses := kept.addresses.trans working.addresses
  ipAt position ip found := (kept.roster.ipAt position).trans (working.ipAt position ip found)
  grown := kept.roster.length ▸ working.grown
  fresh := working.fresh
  wellFormed := wellFormed
  released := working.released.of_kept kept
  distinct := distinct

theorem filled {slot : Nat} {endpoint : Endpoint}
    (working : Working start id origin answer slots pool)
    (waiting : slots[slot]? = some (.starting endpoint.ip))
    (probed : endpoint.health.probed = true) :
    Working start id origin answer (slots.set slot (.started pool.roster.endpoints.length))
      (pool.withEndpoint pool.members answer slots slot endpoint) := by
  rcases working.first with ⟨rest, first⟩
  constructor
  case first => exact ⟨rest, by simp [withEndpoint, setPhase, first, Pool.members]⟩
  case members => exact working.members
  case addresses =>
    exact (working.wellFormed.addresses_push endpoint).trans working.addresses
  case ipAt =>
    intro position ip found
    exact ipAt_push endpoint (working.ipAt position ip found)
  case grown =>
    simp only [withEndpoint, setPhase, Roster.push, List.length_append, List.length_singleton]
    exact Nat.le_succ_of_le working.grown
  case fresh =>
    intro position member
    rcases List.mem_or_eq_of_mem_set member with earlier | newest
    · exact working.fresh position earlier
    · rw [Slot.started.inj newest]
      exact working.grown
  case wellFormed => exact working.wellFormed.withEndpoint first waiting probed
  case released => exact working.released.withEndpoint endpoint first waiting
  case distinct => exact working.distinct.withEndpoint slot endpoint working.wellFormed first

end Working

/-! ## One step while a refresh is at work -/

/-- What happens elsewhere does not take the first refresh from its work. -/
theorem first_stays {previous : List Nat} {rest : List Refresh} {input : Input}
    (first : pool.refreshes = ⟨id, origin, .starting previous answer slots⟩ :: rest)
    (spares : input.Spares id origin) (elsewhere : ∀ other, ¬ input.IsOf other) :
    ∃ rest, (pool.step input).1.refreshes =
      ⟨id, origin, .starting previous answer slots⟩ :: rest := by
  obtain ⟨after, effects, stepped, transition⟩ := exists_transition pool input
  rw [stepped]
  cases transition with
  | asked other asker => simp [first, begun]
  | answered _ _ | unanswered _ _ | unaddressed _ | reused _ _ _ | started _ _ | joined _ _ =>
    exact absurd rfl (elsewhere _)
  | cancelled other =>
    have different : id ≠ other := Ne.symm spares
    simp [cancel_fst, settled, first, different, begun]
  | missed _ | due _ _ | probed _ _ | setHealthy _ _ | next | hold | dispose _ | keepRefreshing
  | shutDown => exact ⟨rest, first⟩
  | letGo => exact ⟨rest, by simp [release_fst, first]⟩
  | stopped _ =>
    have different : origin ≠ .schedule := spares
    simp [halted, cancel_fst, settled, first, different, begun]

namespace Prepares

theorem answered : Prepares start id start (start.withAnswer answer)
    (starts id (answer.map start.slotFor)) where
  snapshot := rfl
  endpoints _ _ found := found
  asked effect asked := by
    rcases mem_starts.mp asked with ⟨slot, ip, rfl, placed⟩
    rw [List.getElem?_map] at placed
    rcases Option.map_eq_some_iff.mp placed with ⟨other, _, isStarting⟩
    obtain ⟨rfl, fresh⟩ := slotFor_eq_starting.mp isStarting
    exact .inr (.inl ⟨slot, _, rfl, fresh⟩)

theorem nothing : Prepares start id pool pool [] :=
  ⟨rfl, fun _ _ found => found, by simp⟩

theorem filled {previous : List Nat} {slot now : Nat} {ip : Ip} {outcome : Health.Outcome}
    (waiting : slots[slot]? = some (.starting ip)) :
    Prepares start id pool (pool.takeFirstProbe previous answer slots slot now outcome).1
      (pool.takeFirstProbe previous answer slots slot now outcome).2 where
  snapshot := by rw [takeFirstProbe_fst pool now outcome waiting]; rfl
  endpoints position endpoint found := by
    have taken : position ≠ pool.roster.endpoints.length :=
      Nat.ne_of_lt (Roster.lt_length_of_get? found)
    simp [takeFirstProbe_fst pool now outcome waiting, withEndpoint, setPhase, Roster.get?_push,
      taken, found]
  asked effect asked := by
    simp only [takeFirstProbe, waiting, List.mem_cons] at asked
    rcases asked with rfl | awaited
    · exact .inl ⟨_, rfl⟩
    · split at awaited
      · exact .inr (.inr ⟨_, List.mem_singleton.mp awaited, Nat.le_refl _⟩)
      · simp at awaited

end Prepares

namespace Working

/-- Through a step, a refresh at work stays at work, fills the place that the step is about, and
leaves everything else as it is. -/
def Advances (start : Pool) (id : Nat) (origin : Origin) (answer : List Ip) (slots : List Slot)
    (pool : Pool) (input : Input) : Prop :=
  ∃ places, Working start id origin answer places (pool.step input).1 ∧
    (∀ slot ip, places[slot]? = some (.starting ip) →
      slots[slot]? = some (.starting ip) ∧
        ∀ now outcome, input ≠ .firstProbed id slot now outcome) ∧
    (input.IsOf id → Prepares start id pool (pool.step input).1 (pool.step input).2)

theorem advances_of_idle {input : Input} (working : Working start id origin answer slots pool)
    (idle : pool.step input = (pool, []))
    (missed : ∀ slot ip, slots[slot]? = some (.starting ip) →
      ∀ now outcome, input ≠ .firstProbed id slot now outcome) :
    Advances start id origin answer slots pool input := by
  refine ⟨slots, ?_, fun slot ip waiting => ⟨waiting, missed slot ip waiting⟩, fun _ => ?_⟩
  · rwa [idle]
  · rw [idle]
    exact .nothing

theorem advances_elsewhere {input : Input} (working : Working start id origin answer slots pool)
    (spares : input.Spares id origin) (elsewhere : ∀ other, ¬ input.IsOf other) :
    Advances start id origin answer slots pool input := by
  obtain ⟨rest, first⟩ := working.first
  rcases first_stays first spares elsewhere with ⟨later, stays⟩
  have wellFormed := working.wellFormed.step input
  refine ⟨slots, ?_, fun slot ip waiting => ⟨waiting, ?_⟩, fun own => absurd own (elsewhere id)⟩
  · obtain ⟨after, effects, stepped, acts⟩ := exists_acts pool input
    rw [stepped] at stays wellFormed ⊢
    cases acts with
    | aside kept queued _ =>
      exact working.of_kept kept stays wellFormed (working.distinct.of_kept kept queued)
    | answered _ _ | started _ _ _ | reused _ _ _ | joined _ _ => exact absurd rfl (elsewhere _)
  · rintro now outcome rfl
    exact elsewhere id rfl

theorem advances_firstProbed {other slot now : Nat} {outcome : Health.Outcome}
    (working : Working start id origin answer slots pool) :
    Advances start id origin answer slots pool (.firstProbed other slot now outcome) := by
  obtain ⟨rest, first⟩ := working.first
  by_cases own : id = other
  · subst own
    have same : pool.step (.firstProbed id slot now outcome) =
        pool.takeFirstProbe pool.members answer slots slot now outcome := by
      simp [Pool.step, first]
    cases place : slots[slot]? with
    | some waiting =>
      cases waiting with
      | starting ip =>
        refine ⟨slots.set slot (.started pool.roster.endpoints.length), ?_,
          fun index other waiting => ?_, fun _ => ?_⟩
        · rw [same, takeFirstProbe_fst pool now outcome place]
          exact working.filled place rfl
        · rw [List.getElem?_set] at waiting
          split at waiting
          · simp at waiting
          · rename_i different
            refine ⟨waiting, fun now' outcome' equal => different ?_⟩
            exact (Input.firstProbed.inj equal).2.1
        · rw [same]
          exact .filled place
      | kept position | started position =>
        refine working.advances_of_idle (by simp [same, takeFirstProbe, place]) ?_
        rintro index ip waiting now' outcome' ⟨⟩
        simp [place] at waiting
    | none =>
      refine working.advances_of_idle (by simp [same, takeFirstProbe, place]) ?_
      rintro index ip waiting now' outcome' ⟨⟩
      simp [place] at waiting
  · refine working.advances_of_idle (by simp [Pool.step, first, own]) ?_
    rintro index ip waiting now' outcome' ⟨⟩
    exact own rfl

/-- Unless it publishes, a refresh at work stays at work through every step. -/
theorem advances {input : Input} (working : Working start id origin answer slots pool)
    (spares : input.Spares id origin)
    (unpublished : input = .join id → slots.all (·.endpoint?.isSome) = false) :
    Advances start id origin answer slots pool input := by
  rcases working.first with ⟨rest, first⟩
  by_cases elsewhere : ∀ other, ¬ input.IsOf other
  · exact working.advances_elsewhere spares elsewhere
  cases input with
  | firstProbed other slot now outcome => exact working.advances_firstProbed
  | answered other given =>
    exact working.advances_of_idle (by simp [Pool.step, first]) (by simp)
  | join other =>
    refine working.advances_of_idle ?_ (by simp)
    by_cases own : id = other
    · subst own
      simp [Pool.step, first, publishIfComplete, unpublished rfl]
    · simp [Pool.step, first, own]
  | refresh _ _ | cancel _ | due _ | probed _ _ _ | setHealthy _ _ | next | hold | letGo
  | dispose _ | keepRefreshing | shutDown | stopped => exact absurd (fun _ own => own) elsewhere

/-- Once all first probes are in, a refresh at work publishes. -/
theorem completes {inputs : List Input} (working : Working start id origin answer slots pool)
    (spares : ∀ input ∈ inputs, input.Spares id origin)
    (probed : ∀ slot ip, slots[slot]? = some (.starting ip) →
      ∃ now outcome, .firstProbed id slot now outcome ∈ inputs) :
    ∃ earlier later places, inputs ++ [.join id] = earlier ++ .join id :: later ∧
      Working start id origin answer places (pool.run earlier).1 ∧
      places.all (·.endpoint?.isSome) = true ∧
      ∀ before own after, earlier = before ++ own :: after → own.IsOf id →
        Prepares start id (pool.run before).1 ((pool.run before).1.step own).1
          ((pool.run before).1.step own).2 := by
  -- By induction on the inputs: the places that wait are those whose first probes are yet to come.
  induction inputs generalizing pool slots with
  | nil =>
    refine ⟨[], [], slots, rfl, working, List.all_eq_true.mpr fun place member => ?_, ?_⟩
    · obtain ⟨index, atIndex⟩ := List.mem_iff_getElem?.mp member
      cases place with
      | starting ip =>
        rcases probed index ip atIndex with ⟨_, _, never⟩
        simp at never
      | kept position | started position => rfl
    · simp
  | cons input rest ih =>
    by_cases publishes : input = .join id ∧ slots.all (·.endpoint?.isSome) = true
    · obtain ⟨rfl, complete⟩ := publishes
      exact ⟨[], rest ++ [.join id], slots, rfl, working, complete, by simp⟩
    · obtain ⟨places, stays, filled, prepares⟩ := working.advances
        (spares input List.mem_cons_self) fun join => by simpa [join] using publishes
      obtain ⟨earlier, later, last, split, atWork, complete, all⟩ := ih stays
        (fun other member => spares other (List.mem_cons_of_mem _ member)) fun slot ip waiting => by
          rcases filled slot ip waiting with ⟨waitingBefore, missed⟩
          obtain ⟨now, outcome, member⟩ := probed slot ip waitingBefore
          rcases List.mem_cons.mp member with equal | later
          · exact absurd equal.symm (missed now outcome)
          · exact ⟨now, outcome, later⟩
      refine ⟨input :: earlier, later, last, by rw [List.cons_append, split]; rfl, atWork, complete,
        fun before own after inOrder isOwn => ?_⟩
      rcases List.cons_eq_append_iff.mp inOrder with ⟨rfl, head⟩ | ⟨before, rfl, tail⟩
      · rcases List.cons.inj head with ⟨rfl, rfl⟩
        exact prepares isOwn
      · exact all before own after tail isOwn

theorem step_join (working : Working start id origin answer slots pool)
    (complete : slots.all (·.endpoint?.isSome) = true) :
    pool.step (.join id) = pool.publish id origin pool.members answer slots := by
  obtain ⟨rest, first⟩ := working.first
  simp [Pool.step, first, publishIfComplete, complete]

end Working

end OneHost.Pool
