import OneHost.Proofs.Pool.Continuity

/-!
# The parts of a step

A step is made of few parts: a refresh begins, takes an answer or a first probe, publishes, or
finishes, and the schedules that are of no use any more end. For each part, this is what becomes of
the pool and what readers come to see.
-/

namespace OneHost.Pool

variable (pool : Pool)

/-- The snapshots that readers come to see through some effects. -/
def shown (effects : List Effect) : List Snapshot :=
  effects.filterMap fun
    | .published snapshot => some snapshot
    | _ => none

@[simp] theorem shown_append (first second : List Effect) :
    shown (first ++ second) = shown first ++ shown second :=
  List.filterMap_append

theorem Quiet.shown_eq_nil {effects : List Effect} (quiet : Quiet effects) :
    shown effects = [] := by
  apply List.filterMap_eq_nil_iff.mpr
  intro effect reported
  rcases quiet effect reported with ⟨event, rfl⟩
  rfl

theorem quiet_logs (events : List Event) : Quiet (events.map .log) := by
  intro effect reported
  obtain ⟨event, _, rfl⟩ := List.mem_map.mp reported
  exact ⟨event, rfl⟩

/-! ## The refreshes that wait -/

/-- The refreshes once the first of them has begun. -/
def begun : List Refresh → List Refresh
  | ⟨id, origin, .waiting⟩ :: rest => ⟨id, origin, .lookingUp⟩ :: rest
  | refreshes => refreshes

/-- No refresh gets beyond its lookup, and only the first is not waiting. -/
structure Queued (before after : List Refresh) : Prop where
  origin : ∀ refresh ∈ after,
    refresh ∈ before ∨ refresh.phase = .waiting ∨ refresh.phase = .lookingUp
  patient : (∀ refresh ∈ before.tail, refresh.phase = .waiting) →
    ∀ refresh ∈ after.tail, refresh.phase = .waiting

namespace Queued

variable {before middle after : List Refresh}

theorem refl (refreshes : List Refresh) : Queued refreshes refreshes :=
  ⟨fun _ => .inl, id⟩

theorem trans (first : Queued before middle) (second : Queued middle after) :
    Queued before after where
  origin refresh member := by
    rcases second.origin refresh member with earlier | idle
    · exact first.origin refresh earlier
    · exact .inr idle
  patient waiting := second.patient (first.patient waiting)

theorem of_begun (refreshes : List Refresh) : Queued refreshes (begun refreshes) := by
  unfold begun
  split
  · refine ⟨fun refresh member => ?_, id⟩
    rcases List.mem_cons.mp member with rfl | later
    · exact .inr (.inr rfl)
    · exact .inl (List.mem_cons_of_mem _ later)
  · exact refl _

theorem of_asked (refreshes : List Refresh) (id : Nat) (origin : Origin) :
    Queued refreshes (refreshes ++ [⟨id, origin, .waiting⟩]) where
  origin refresh member := by
    rcases List.mem_append.mp member with earlier | last
    · exact .inl earlier
    · rw [List.mem_singleton.mp last]
      exact .inr (.inl rfl)
  patient waiting refresh member := by
    cases refreshes with
    | nil => simp at member
    | cons first rest =>
      simp only [List.cons_append, List.tail_cons, List.mem_append, List.mem_singleton] at member
      rcases member with earlier | rfl
      · exact waiting refresh earlier
      · rfl

theorem of_drop (refreshes : List Refresh) : Queued refreshes (refreshes.drop 1) where
  origin refresh member := .inl (List.mem_of_mem_drop member)
  patient waiting refresh member := by
    rw [List.drop_one] at member
    exact waiting refresh (List.mem_of_mem_tail member)

theorem of_filter (refreshes : List Refresh) (stays : Refresh → Bool) :
    Queued refreshes (refreshes.filter stays) where
  origin refresh member := .inl (List.mem_of_mem_filter member)
  patient waiting refresh member := by
    cases refreshes with
    | nil => simp at member
    | cons first rest =>
      have later : refresh ∈ rest := by
        rw [List.filter_cons] at member
        split at member
        · exact List.mem_of_mem_filter member
        · exact List.mem_of_mem_filter (List.mem_of_mem_tail member)
      exact waiting refresh later

end Queued

/-! ## What becomes of the pool -/

/-- The pool once the endpoints that are no longer in use have lost their schedules and the first
refresh has begun. -/
def settled : Pool :=
  { pool with
    roster := pool.roster.disposed fun position => !pool.inUse position
    refreshes := begun pool.refreshes }

theorem beginNext_fst : pool.beginNext.1 = { pool with refreshes := begun pool.refreshes } := by
  rcases pool with ⟨settings, roster, number, held, refreshes, upkeep⟩
  cases refreshes with
  | nil => rfl
  | cons first rest =>
    obtain ⟨id, origin, phase⟩ := first
    cases phase <;> rfl

theorem shown_beginNext : shown pool.beginNext.2 = [] := by
  simp only [beginNext]
  split <;> rfl

theorem finish_fst (id : Nat) (origin : Origin) (result : Except Resolution.LookupError Summary) :
    (pool.finish id origin result).1 =
      settled { pool with refreshes := pool.refreshes.drop 1 } := by
  simp [finish, settled, release_fst, beginNext_fst]

theorem shown_finish (id : Nat) (origin : Origin)
    (result : Except Resolution.LookupError Summary) :
    shown (pool.finish id origin result).2 = [] := by
  have finished (effects : List Effect) : shown (.finished id result :: effects) = shown effects :=
    rfl
  simp [finish, (quiet_release _).shown_eq_nil, finished, (quiet_logs _).shown_eq_nil,
    shown_beginNext]

theorem cancel_fst (gone : Refresh → Bool) :
    (pool.cancel gone).1 =
      settled { pool with refreshes := pool.refreshes.filter fun refresh => !gone refresh } := by
  simp [cancel, settled, release_fst, beginNext_fst]

theorem shown_cancel (gone : Refresh → Bool) : shown (pool.cancel gone).2 = [] := by
  simp [cancel, (quiet_release _).shown_eq_nil, shown_beginNext]

theorem inUse_begun (refreshes : List Refresh) (position : Nat) :
    inUse { pool with refreshes := begun refreshes } position =
      inUse { pool with refreshes } position := by
  unfold begun
  split <;> rfl

/-- What is not in use once the pool has settled was not in use before. -/
theorem inUse_settled (position : Nat) : pool.settled.inUse position = pool.inUse position :=
  inUse_begun pool pool.refreshes position

theorem Kept.of_disposed {before after : Pool} {gone : Nat → Bool}
    (settings : after.settings = before.settings) (number : after.number = before.number)
    (roster : after.roster = before.roster.disposed gone)
    (held : ∀ snapshot ∈ after.held, snapshot ∈ before.held ∨ snapshot = before.snapshot)
    (ended : ∀ position, after.inUse position = false → gone position = true) :
    Kept before after where
  settings := settings
  number := number
  members := by simp [Pool.members, roster]
  roster := roster ▸ before.roster.continues_disposed gone
  held := held
  unused position endpoint found _ unused := by
    rw [roster, Roster.get?_disposed, ended position unused] at found
    rcases Option.map_eq_some_iff.mp found with ⟨earlier, _, rfl⟩
    rfl

theorem kept_settled (refreshes : List Refresh) (upkeep : Upkeep) :
    Kept pool (settled { pool with refreshes, upkeep }) := by
  refine .of_disposed rfl rfl rfl (fun _ => .inl) fun position unused => ?_
  rw [inUse_settled] at unused
  simp [unused]

/-- The pool once its first refresh has taken an answer. -/
def withAnswer (answer : List Ip) : Pool :=
  pool.setPhase (.starting pool.members answer (answer.map pool.slotFor))

variable {pool} in
theorem refreshes_withAnswer {id : Nat} {origin : Origin} {phase : Phase} {rest : List Refresh}
    (working : pool.refreshes = ⟨id, origin, phase⟩ :: rest) (answer : List Ip) :
    (pool.withAnswer answer).refreshes =
      ⟨id, origin, .starting pool.members answer (answer.map pool.slotFor)⟩ :: rest := by
  simp [withAnswer, setPhase, working]

/-- The endpoint for an address whose first probe is done. -/
def probedEndpoint (ip : Ip) (now : Nat) (outcome : Health.Outcome) : Endpoint :=
  (Endpoint.record
    { address := pool.settings.prober.target.socketAddress ip
      healthUri := some (pool.settings.prober.healthUri ip)
      schedule := .begin? pool.settings.probePeriod } now outcome).1

/-- The pool once the endpoint for one place of its first refresh is there. -/
def withEndpoint (previous : List Nat) (answer : List Ip) (slots : List Slot) (slot : Nat)
    (endpoint : Endpoint) : Pool :=
  setPhase { pool with roster := pool.roster.push endpoint }
    (.starting previous answer (slots.set slot (.started pool.roster.endpoints.length)))

variable {pool} in
theorem refreshes_withEndpoint {id : Nat} {origin : Origin} {phase : Phase} {rest : List Refresh}
    {previous : List Nat} {answer : List Ip} {slots : List Slot} {slot : Nat} {endpoint : Endpoint}
    (working : pool.refreshes = ⟨id, origin, phase⟩ :: rest) :
    (pool.withEndpoint previous answer slots slot endpoint).refreshes =
      ⟨id, origin,
        .starting previous answer (slots.set slot (.started pool.roster.endpoints.length))⟩ ::
        rest := by
  simp [withEndpoint, setPhase, working]

theorem takeFirstProbe_fst {previous : List Nat} {answer : List Ip} {slots : List Slot}
    {slot : Nat} {ip : Ip} (now : Nat) (outcome : Health.Outcome)
    (waiting : slots[slot]? = some (.starting ip)) :
    (pool.takeFirstProbe previous answer slots slot now outcome).1 =
      pool.withEndpoint previous answer slots slot (pool.probedEndpoint ip now outcome) := by
  simp only [takeFirstProbe, waiting]
  rfl

/-- What a refresh counts. -/
def summaryOf (gone : List Nat) (slots : List Slot) : Summary where
  kept := slots.countP Slot.isKept
  added := slots.countP Slot.isStarted
  removed := gone.length

/-- The members of the snapshot that a refresh makes of its endpoints. -/
def arranged (slots : List Slot) : List Nat :=
  pool.settings.arrange pool.number (slots.filterMap Slot.endpoint?)

theorem arranged_perm (slots : List Slot) :
    (pool.arranged slots).Perm (slots.filterMap Slot.endpoint?) :=
  pool.settings.arrange_perm ..

/-- The pool once the endpoints of a refresh take turns. -/
def swapped (slots : List Slot) : Pool :=
  { pool with
    roster := { pool.roster with rotation := { members := pool.arranged slots } }
    number := pool.number + 1 }

theorem publish_eq (id : Nat) (origin : Origin) (previous : List Nat) (answer : List Ip)
    (slots : List Slot) :
    pool.publish id origin previous answer slots =
      let removed := (pool.swapped slots).removeAll (pool.missing previous answer)
      let finished := removed.1.finish id origin
        (.ok (summaryOf (pool.missing previous answer) slots))
      (finished.1, .published (pool.swapped slots).snapshot :: removed.2 ++ finished.2) := rfl

/-- The pool once its first refresh has put its endpoints in the place of the snapshot. -/
def replaced (previous : List Nat) (answer : List Ip) (slots : List Slot) : Pool :=
  { pool with
    roster :=
      { pool.roster.disposed fun position => position ∈ pool.missing previous answer with
        rotation := { members := pool.arranged slots } }
    number := pool.number + 1
    refreshes := pool.refreshes.drop 1 }

theorem publish_fst (id : Nat) (origin : Origin) (previous : List Nat) (answer : List Ip)
    (slots : List Slot) :
    (pool.publish id origin previous answer slots).1 =
      settled (pool.replaced previous answer slots) := by
  simp only [publish_eq, removeAll_fst, finish_fst]
  rfl

theorem shown_removeAll (positions : List Nat) : shown (pool.removeAll positions).2 = [] := by
  induction positions generalizing pool with
  | nil => rfl
  | cons position rest ih =>
    unfold removeAll
    split
    · exact ih pool
    · rename_i endpoint _
      simp only [disposeAt_eq, shown_append, ih, (quiet_disposal _ _).shown_eq_nil]
      rfl

theorem shown_publish (id : Nat) (origin : Origin) (previous : List Nat) (answer : List Ip)
    (slots : List Slot) :
    shown (pool.publish id origin previous answer slots).2 =
      [⟨pool.number + 1, { members := pool.arranged slots }⟩] := by
  have published (snapshot : Snapshot) (effects : List Effect) :
      shown (.published snapshot :: effects) = snapshot :: shown effects := rfl
  simp only [publish_eq, published, shown_append, shown_removeAll, shown_finish, List.append_nil]
  rfl

theorem start?_eq_some_iff {id slot : Nat} {place : Slot} {effect : Effect} :
    start? id slot place = some effect ↔
      ∃ ip, place = .starting ip ∧ effect = .start id slot ip := by
  cases place <;> simp [start?, eq_comm]

/-- First probes are for the places that wait for their endpoints. -/
theorem mem_starts {id : Nat} {slots : List Slot} {effect : Effect} :
    effect ∈ starts id slots ↔
      ∃ slot ip, effect = .start id slot ip ∧ slots[slot]? = some (.starting ip) := by
  simp only [starts, List.mem_filterMap, Prod.exists, List.mk_mem_zipIdx_iff_getElem?,
    start?_eq_some_iff]
  constructor
  · intro started
    rcases started with ⟨place, slot, placed, ip, rfl, isStart⟩
    exact ⟨slot, ip, isStart, placed⟩
  · intro started
    rcases started with ⟨slot, ip, isStart, placed⟩
    exact ⟨_, slot, placed, ip, rfl, isStart⟩

/-- There is nothing to start when every place has its endpoint already. -/
theorem starts_eq_nil_iff (id : Nat) (slots : List Slot) :
    starts id slots = [] ↔ slots.all (·.endpoint?.isSome) = true := by
  rw [List.eq_nil_iff_forall_not_mem, List.all_eq_true]
  constructor
  · intro none place member
    rcases List.mem_iff_getElem?.mp member with ⟨slot, placed⟩
    cases place with
    | starting ip => exact absurd (mem_starts.mpr ⟨slot, ip, rfl, placed⟩) (none _)
    | kept _ | started _ => rfl
  · intro complete effect started
    rcases mem_starts.mp started with ⟨slot, ip, _, placed⟩
    have filled := complete _ (List.mem_of_getElem? placed)
    simp [Slot.endpoint?] at filled

theorem shown_starts (id : Nat) (slots : List Slot) : shown (starts id slots) = [] := by
  apply List.filterMap_eq_nil_iff.mpr
  intro effect started
  rcases mem_starts.mp started with ⟨slot, ip, rfl, _⟩
  rfl

theorem takeAnswer_nil (id : Nat) (origin : Origin) :
    pool.takeAnswer id origin (.ok []) =
      let count := pool.members.length
      let finished := pool.finish id origin (.ok { kept := count, unchanged := true })
      (finished.1, .log (.noAddresses pool.settings.hostname count) :: finished.2) := by
  simp only [takeAnswer, finish_fst]
  rfl

theorem takeAnswer_of_ne_nil {answer : List Ip} (id : Nat) (origin : Origin)
    (nonempty : answer ≠ []) :
    pool.takeAnswer id origin (.ok answer) =
      if (answer.map pool.slotFor).all (·.endpoint?.isSome) then
        (pool.withAnswer answer).publish id origin pool.members answer (answer.map pool.slotFor)
      else (pool.withAnswer answer, starts id (answer.map pool.slotFor)) := by
  rcases List.exists_cons_of_ne_nil nonempty with ⟨first, answer, rfl⟩
  simp only [takeAnswer]
  split
  · rename_i none
    rw [if_pos ((starts_eq_nil_iff id _).mp none)]
    rfl
  · rename_i some
    rw [if_neg fun complete => some ((starts_eq_nil_iff id _).mpr complete)]
    rfl

end OneHost.Pool
