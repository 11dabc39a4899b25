import OneHost.Proofs.Pool.WellFormed

/-!
# Endpoints in service

An endpoint is in service while it is in the current snapshot or in the hands of a refresh. A step
does very little to an endpoint: its schedule takes a turn, its flag is set by hand, or its schedule
ends, and that only by hand, with the pool, or when the endpoint is out of service. Whoever is out
of service never comes back: a snapshot is made of endpoints of the one before and of new ones.
-/

namespace OneHost.Pool

variable {pool : Pool} {position : Nat} {endpoint : Endpoint}

/-- The endpoint at a position is in the current snapshot or in the hands of a refresh. -/
def InService (pool : Pool) (position : Nat) : Prop :=
  position ∈ pool.members ∨ ∃ refresh ∈ pool.refreshes, position ∈ refresh.endpoints

/-- No refresh has an endpoint in hand. -/
def Idle (pool : Pool) : Prop :=
  ∀ refresh ∈ pool.refreshes, refresh.endpoints = []

theorem InService.inUse (inService : pool.InService position) : pool.inUse position = true := by
  simp only [Pool.inUse, Bool.or_eq_true, List.any_eq_true, List.contains_iff_mem]
  cases inService with
  | inl member => exact .inl (.inl member)
  | inr inHand => exact .inr inHand

theorem not_inService_of_unused (unused : pool.inUse position = false) :
    ¬pool.InService position := by
  intro inService
  rw [inService.inUse] at unused
  contradiction

theorem Idle.of_finished (finished : pool.refreshes = []) : Idle pool := by
  intro refresh asked
  simp [finished] at asked

theorem Idle.inService_iff (idle : Idle pool) :
    pool.InService position ↔ position ∈ pool.members := by
  constructor
  · intro inService
    cases inService with
    | inl member => exact member
    | inr inHand =>
      obtain ⟨refresh, asked, inHand⟩ := inHand
      simp [idle refresh asked] at inHand
  · exact .inl

theorem endpoints_of_waiting {refresh : Refresh} (waits : refresh.phase = .waiting) :
    refresh.endpoints = [] := by
  simp [Refresh.endpoints, waits]

theorem endpoints_of_lookingUp {refresh : Refresh} (looksUp : refresh.phase = .lookingUp) :
    refresh.endpoints = [] := by
  simp [Refresh.endpoints, looksUp]

/-- Of the refreshes, only the first can have endpoints in hand. -/
theorem WellFormed.inService_iff {first : Refresh} {rest : List Refresh}
    (wellFormed : WellFormed pool) (working : pool.refreshes = first :: rest) :
    pool.InService position ↔ position ∈ pool.members ∨ position ∈ first.endpoints := by
  apply or_congr_right
  rw [working]
  constructor
  · rintro ⟨refresh, asked, inHand⟩
    cases List.mem_cons.mp asked with
    | inl isFirst => exact isFirst ▸ inHand
    | inr later =>
      have waits := wellFormed.waiting_of_mem working later
      simp [endpoints_of_waiting waits] at inHand
  · intro inHand
    exact ⟨first, List.mem_cons_self, inHand⟩

theorem endpoints_begun (refreshes : List Refresh) :
    (begun refreshes).map Refresh.endpoints = refreshes.map Refresh.endpoints := by
  unfold begun
  split <;> rfl

theorem inService_begun (refreshes : List Refresh) :
    InService { pool with refreshes := begun refreshes } position ↔
      InService { pool with refreshes } position := by
  have same (refreshes : List Refresh) :
      (∃ refresh ∈ refreshes, position ∈ refresh.endpoints) ↔
        ∃ inHand ∈ refreshes.map Refresh.endpoints, position ∈ inHand := by simp
  apply or_congr_right
  rw [same, same, endpoints_begun]

theorem inService_settled : pool.settled.InService position ↔ pool.InService position :=
  inService_begun pool.refreshes

/-! ## What a step does to an endpoint -/

/-- What becomes of an endpoint when its schedule takes a turn or its flag is set by hand. -/
def Input.turn (input : Input) (position : Nat) (endpoint : Endpoint) : Endpoint :=
  match input with
  | .due other =>
    if other = position ∧ endpoint.schedule = .waiting then
      { endpoint with schedule := .probing }
    else endpoint
  | .probed other now outcome =>
    if other = position ∧ endpoint.schedule = .probing then
      { (endpoint.record now outcome).1 with schedule := .waiting }
    else endpoint
  | .setHealthy other healthy =>
    if other = position then endpoint.setHealthy healthy else endpoint
  | _ => endpoint

@[simp] theorem Input.isLive_turn (input : Input) (position : Nat) (endpoint : Endpoint) :
    (input.turn position endpoint).schedule.isLive = endpoint.schedule.isLive := by
  cases input with
  | due other =>
    simp only [Input.turn]
    split
    · rename_i due
      simp [due.2, Schedule.isLive]
    · rfl
  | probed other now outcome =>
    simp only [Input.turn]
    split
    · rename_i probing
      simp [probing.2, Schedule.isLive]
    · rfl
  | setHealthy other healthy =>
    simp only [Input.turn]
    split <;> rfl
  | _ => rfl

/-- Without a schedule nothing happens to an endpoint, unless by hand. -/
theorem Input.turn_of_unscheduled {input : Input} (unscheduled : endpoint.schedule = .none)
    (untouched : ∀ healthy, input ≠ .setHealthy position healthy) :
    input.turn position endpoint = endpoint := by
  cases input with
  | due other | probed other now outcome => simp [Input.turn, unscheduled]
  | setHealthy other healthy =>
    have elsewhere : other ≠ position := by
      rintro rfl
      exact untouched healthy rfl
    simp [Input.turn, elsewhere]
  | _ => rfl

/-- A schedule that has ended does not take a turn. -/
theorem Input.schedule_turn_of_unscheduled {input : Input}
    (unscheduled : endpoint.schedule = .none) :
    (input.turn position endpoint).schedule = .none := by
  cases input with
  | due other | probed other now outcome => simp [Input.turn, unscheduled]
  | setHealthy other healthy =>
    simp only [Input.turn]
    split <;> exact unscheduled
  | _ => exact unscheduled

/-- What can become of an endpoint in a step. -/
def Passes (after : Pool) (input : Input) (position : Nat) (endpoint : Endpoint) : Prop :=
  after.roster.get? position = some (input.turn position endpoint) ∨
    after.roster.get? position = some endpoint.unscheduled ∧
      (input = .dispose position ∨ input = .shutDown ∨ ¬after.InService position)

theorem Passes.of_disposed {after : Pool} {input : Input} {gone : Nat → Bool}
    (same : input.turn position endpoint = endpoint)
    (found : pool.roster.get? position = some endpoint)
    (roster : after.roster.get? position = (pool.roster.disposed gone).get? position)
    (reason : gone position = true →
      input = .dispose position ∨ input = .shutDown ∨ ¬after.InService position) :
    Passes after input position endpoint := by
  rw [Roster.get?_disposed, found] at roster
  cases ends : gone position with
  | true => exact .inr ⟨by simp [roster, ends], reason ends⟩
  | false => exact .inl (by simp [roster, ends, same])

theorem Passes.of_settled {input : Input} (same : input.turn position endpoint = endpoint)
    (found : pool.roster.get? position = some endpoint) :
    Passes pool.settled input position endpoint := by
  refine .of_disposed same found rfl fun unused => .inr (.inr ?_)
  rw [inService_settled]
  exact not_inService_of_unused (by simpa using unused)

theorem idle_replaced {id : Nat} {origin : Origin} {rest : List Refresh} {previous : List Nat}
    {answer : List Ip} {slots : List Slot} (wellFormed : WellFormed pool)
    (working : pool.refreshes = ⟨id, origin, .starting previous answer slots⟩ :: rest) :
    Idle (pool.replaced previous answer slots) := by
  intro refresh asked
  simp only [replaced, working, List.drop_succ_cons, List.drop_zero] at asked
  exact endpoints_of_waiting (wellFormed.waiting_of_mem working asked)

/-- Whose address is not in the answer is not in the snapshot that is made of it. -/
theorem not_inService_of_missing {id : Nat} {origin : Origin} {rest : List Refresh}
    {previous : List Nat} {answer : List Ip} {slots : List Slot} (wellFormed : WellFormed pool)
    (working : pool.refreshes = ⟨id, origin, .starting previous answer slots⟩ :: rest)
    (missing : position ∈ pool.missing previous answer) :
    ¬(pool.replaced previous answer slots).InService position := by
  rw [(idle_replaced wellFormed working).inService_iff]
  intro member
  obtain ⟨rfl, fits⟩ := wellFormed.fits_first working
  obtain ⟨_, ip, found, unanswered⟩ :
      position ∈ pool.members ∧ ∃ ip, pool.roster.ipAt position = some ip ∧ ip ∉ answer := by
    simpa [Pool.missing, Roster.ipAt, Option.any_eq_true] using missing
  have inHand := (pool.arranged_perm slots).mem_iff.mp member
  obtain ⟨other, answered, foundOther, _⟩ := ipAt_of_mem_endpoints fits inHand
  obtain rfl : ip = other := Option.some.inj (found.symm.trans foundOther)
  exact unanswered answered

theorem Passes.of_publish {input : Input} {id : Nat} {origin : Origin} {rest : List Refresh}
    {previous : List Nat} {answer : List Ip} {slots : List Slot} (wellFormed : WellFormed pool)
    (working : pool.refreshes = ⟨id, origin, .starting previous answer slots⟩ :: rest)
    (same : ∀ endpoint, input.turn position endpoint = endpoint)
    (found : pool.roster.get? position = some endpoint) :
    Passes (pool.publish id origin previous answer slots).1 input position endpoint := by
  rw [publish_fst]
  by_cases missing : position ∈ pool.missing previous answer
  · have gone : ¬(pool.replaced previous answer slots).settled.InService position := by
      rw [inService_settled]
      exact not_inService_of_missing wellFormed working missing
    have unscheduled : (pool.replaced previous answer slots).roster.get? position =
        some endpoint.unscheduled :=
      (Roster.get?_disposed ..).trans (by simp [found, missing])
    refine .inr ⟨?_, .inr (.inr gone)⟩
    cases of_settled (same _) unscheduled with
    | inl stays => exact stays.trans (congrArg some (same _))
    | inr ends => exact ends.1
  · have stays : (pool.replaced previous answer slots).roster.get? position = some endpoint :=
      (Roster.get?_disposed ..).trans (by simp [found, missing])
    exact of_settled (same _) stays

/-- An input that does not fit gives no endpoint a turn. -/
theorem Input.Misses.turn {input : Input} (misses : input.Misses pool)
    (found : pool.roster.get? position = some endpoint) :
    input.turn position endpoint = endpoint := by
  cases input with
  | due other | probed other now outcome =>
    refine if_neg fun fits => ?_
    exact misses endpoint (fits.1 ▸ found) fits.2
  | setHealthy _ _ => exact misses.elim
  | _ => rfl

/-- A step lets the schedule of an endpoint go on, or ends it, by hand, with the pool, or for an
endpoint out of service. -/
theorem passes_step (wellFormed : WellFormed pool) (input : Input)
    (found : pool.roster.get? position = some endpoint) :
    Passes (pool.step input).1 input position endpoint := by
  obtain ⟨after, effects, stepped, transition⟩ := exists_transition pool input
  rw [stepped]
  cases transition with
  | missed misses => exact .inl (found.trans (congrArg some (misses.turn found).symm))
  | asked _ _ | answered _ _ | next | hold | keepRefreshing => exact .inl found
  | unanswered error _ =>
    rw [finish_fst]
    exact .of_settled rfl found
  | unaddressed _ =>
    rw [takeAnswer_nil, finish_fst]
    exact .of_settled rfl found
  | reused lookingUp _ _ =>
    exact .of_publish (wellFormed.withAnswer lookingUp _) (refreshes_withAnswer lookingUp _)
      (fun _ => rfl) found
  | started _ _ =>
    have taken : position ≠ pool.roster.endpoints.length :=
      Nat.ne_of_lt (Roster.lt_length_of_get? found)
    exact .inl (by simp [withEndpoint, setPhase, Roster.get?_push, taken, found, Input.turn])
  | joined working _ => exact .of_publish wellFormed working (fun _ => rfl) found
  | cancelled id =>
    rw [cancel_fst]
    exact .of_settled rfl found
  | @due other there foundThere turn | @probed other _ _ there foundThere turn =>
    by_cases own : other = position
    · subst own
      obtain rfl : there = endpoint := Option.some.inj (foundThere.symm.trans found)
      exact .inl (by simp [Roster.get?_modify, found, Input.turn, turn])
    · exact .inl (by simp [Roster.get?_modify, found, Input.turn, own])
  | setHealthy other healthy =>
    refine .inl ?_
    simp only [Roster.setHealthy, Roster.get?_modify, found, Input.turn]
    split <;> simp
  | letGo =>
    have gone (unused : inUse { pool with held := [] } position = false) :
        ¬InService { pool with held := [] } position := not_inService_of_unused unused
    rw [release_fst]
    exact .of_disposed rfl found rfl fun unused => .inr (.inr (gone (by simpa using unused)))
  | dispose other =>
    refine .of_disposed rfl found rfl fun equal => .inl ?_
    rw [beq_iff_eq.mp equal]
  | shutDown => exact .of_disposed rfl found rfl fun _ => .inr (.inl rfl)
  | stopped _ =>
    rw [halted, cancel_fst]
    exact .of_settled rfl found

/-! ## No one returns -/

theorem mem_members_of_slotFor {answer : List Ip}
    (inHand : position ∈ (answer.map pool.slotFor).filterMap Slot.endpoint?) :
    position ∈ pool.members := by
  simp only [List.mem_filterMap, List.mem_map, exists_exists_and_eq_and] at inHand
  obtain ⟨ip, _, isEndpoint⟩ := inHand
  have fits := fits_slotFor pool ip
  unfold slotFor at fits isEndpoint
  cases existing : pool.existing? ip with
  | none => simp [existing, Slot.endpoint?] at isEndpoint
  | some other =>
    rw [existing] at fits isEndpoint
    cases fits with
    | kept member _ => exact Option.some.inj isEndpoint ▸ member

theorem mem_endpoints_of_set {slots : List Slot} {slot newest : Nat}
    (inHand : position ∈ (slots.set slot (.started newest)).filterMap Slot.endpoint?) :
    position = newest ∨ position ∈ slots.filterMap Slot.endpoint? := by
  obtain ⟨place, member, isEndpoint⟩ := List.mem_filterMap.mp inHand
  cases List.mem_or_eq_of_mem_set member with
  | inl earlier => exact .inr (List.mem_filterMap.mpr ⟨place, earlier, isEndpoint⟩)
  | inr filled =>
    subst filled
    exact .inl (Option.some.inj isEndpoint).symm

/-- Whoever is in the new snapshot was in the hands of the refresh that published it. -/
theorem InService.of_publish {id : Nat} {origin : Origin} {rest : List Refresh}
    {previous : List Nat} {answer : List Ip} {slots : List Slot} (wellFormed : WellFormed pool)
    (working : pool.refreshes = ⟨id, origin, .starting previous answer slots⟩ :: rest)
    (inService : (pool.publish id origin previous answer slots).1.InService position) :
    position ∈ slots.filterMap Slot.endpoint? := by
  rw [publish_fst, inService_settled, (idle_replaced wellFormed working).inService_iff] at inService
  exact (pool.arranged_perm slots).mem_iff.mp inService

/-- In a step, the endpoint at a position is made of the outcome of its first probe. -/
def Born (pool : Pool) (input : Input) (position : Nat) : Prop :=
  ∃ id slot now outcome ip, input = .firstProbed id slot now outcome ∧
    position = pool.roster.endpoints.length ∧
    (pool.step input).1.roster.get? position = some (pool.probedEndpoint ip now outcome)

/-- Whoever is in service after a step was in service before, or is new. -/
theorem InService.of_step {input : Input} (wellFormed : WellFormed pool)
    (inService : (pool.step input).1.InService position) :
    pool.InService position ∨ pool.Born input position := by
  unfold Born
  obtain ⟨after, effects, stepped, acts⟩ := exists_acts pool input
  rw [stepped] at inService ⊢
  cases acts with
  | aside kept queued _ =>
    cases inService with
    | inl member => exact .inl (.inl (kept.members ▸ member))
    | inr inHand =>
      obtain ⟨refresh, asked, inHand⟩ := inHand
      rcases queued.origin refresh asked with earlier | waits | looksUp
      · exact .inl (.inr ⟨refresh, earlier, inHand⟩)
      · simp [endpoints_of_waiting waits] at inHand
      · simp [endpoints_of_lookingUp looksUp] at inHand
  | answered working _ =>
    rw [(wellFormed.withAnswer working _).inService_iff (refreshes_withAnswer working _)]
      at inService
    cases inService with
    | inl member => exact .inl (.inl member)
    | inr inHand => exact .inl (.inl (mem_members_of_slotFor inHand))
  | @started id slot now outcome _ _ _ _ _ ip _ working waiting _ =>
    rw [(wellFormed.withEndpoint working waiting rfl).inService_iff
      (refreshes_withEndpoint working)] at inService
    cases inService with
    | inl member => exact .inl (.inl member)
    | inr inHand =>
      cases mem_endpoints_of_set inHand with
      | inl newest =>
        refine .inr ⟨id, slot, now, outcome, ip, rfl, newest, ?_⟩
        simp [withEndpoint, setPhase, Roster.get?_push, newest]
      | inr earlier => exact .inl ((wellFormed.inService_iff working).mpr (.inr earlier))
  | reused working _ _ =>
    exact .inl (.inl (mem_members_of_slotFor
      (inService.of_publish (wellFormed.withAnswer working _) (refreshes_withAnswer working _))))
  | joined working _ =>
    exact .inl ((wellFormed.inService_iff working).mpr (.inr (inService.of_publish wellFormed working)))

/-- A new endpoint is in the hands of the refresh that made it. -/
theorem inService_of_new {input : Input} {position : Nat} {endpoint : Endpoint}
    (wellFormed : WellFormed pool) (absent : pool.roster.get? position = none)
    (found : (pool.step input).1.roster.get? position = some endpoint) :
    (pool.step input).1.InService position := by
  obtain ⟨after, effects, stepped, acts⟩ := exists_acts pool input
  rw [stepped] at found ⊢
  have notContinued (continues : pool.roster.Continues after.roster) : False := by
    obtain ⟨_, foundBefore, _⟩ := continues.origin found
    rw [absent] at foundBefore
    contradiction
  cases acts with
  | aside kept _ _ => exact (notContinued kept.roster).elim
  | answered _ _ => exact (notContinued (.of_same rfl)).elim
  | @started _ slot _ _ _ _ _ _ slots _ _ working waiting _ =>
    have newest : position = pool.roster.endpoints.length := by
      by_contra different
      simp [withEndpoint, setPhase, Roster.get?_push, different, absent] at found
    have placed : Slot.started position ∈ slots.set slot (.started pool.roster.endpoints.length) :=
      newest ▸ List.mem_set (List.getElem?_eq_some_iff.mp waiting).1 _
    rw [(wellFormed.withEndpoint working waiting rfl).inService_iff
      (refreshes_withEndpoint working)]
    exact .inr (List.mem_filterMap.mpr ⟨.started position, placed, rfl⟩)
  | @reused _ _ _ answer _ _ _ =>
    exact (notContinued ((pool.withAnswer answer).continues_publish ..)).elim
  | joined _ _ => exact (notContinued (pool.continues_publish ..)).elim

end OneHost.Pool
