import OneHost.Proofs.Pool.Working

/-!
# What a refresh does to the snapshot

A refresh puts exactly the addresses of its answer in the place of the snapshot. Whoever is in both
stays as it is; whoever is gone is given up after readers see the new snapshot, and no one else is.
-/

namespace OneHost.Pool

variable {start pool : Pool} {id : Nat} {origin : Origin} {answer : List Ip}
variable {slots : List Slot}

/-- The step of a refresh that puts the addresses of an answer in the place of the snapshot that
there was at the start. The endpoints at the positions `gone` are removed. -/
structure Replaces (start : Pool) (id : Nat) (answer : List Ip) (gone : List Nat)
    (before after : Pool) (effects : List Effect) : Prop where
  addresses : after.addresses.Perm answer
  /-- Whoever has an address of the answer stays in the snapshot. -/
  kept : ∀ position ∈ start.members, ∀ ip ∈ answer, start.roster.ipAt position = some ip →
    position ∈ after.members
  /-- All others in the snapshot are new, and have been probed before. -/
  added : ∀ position ∈ after.members, position ∉ start.members →
    start.roster.endpoints.length ≤ position ∧
      ∃ endpoint, before.roster.get? position = some endpoint ∧
        endpoint.health.probed = true ∧ endpoint.ip ∉ start.addresses
  once : gone.Nodup
  goes : ∀ position, position ∈ gone ↔
    position ∈ start.members ∧ ∃ ip, start.roster.ipAt position = some ip ∧ ip ∉ answer
  /-- Only the schedules of those that are gone end. -/
  endpoints : ∀ position, after.roster.get? position =
    if position ∈ gone then (before.roster.get? position).map Endpoint.unscheduled
    else before.roster.get? position
  /-- The snapshot is published before anything is given up. -/
  asked : ∃ rest, OnlyLooksUp rest ∧
    effects = .published after.snapshot :: gone.flatMap before.removal ++
      .finished id (.ok
        { kept := (start.addresses.toFinset ∩ answer.toFinset).card
          added := (answer.toFinset \ start.addresses.toFinset).card
          removed := (start.addresses.toFinset \ answer.toFinset).card
          unchanged := false }) :: rest

/-- A refresh with all its endpoints puts the addresses of its answer in the place of the
snapshot. -/
theorem Working.replaces (working : Working start id origin answer slots pool)
    (complete : slots.all (·.endpoint?.isSome) = true) (once : answer.Nodup)
    (wellFormed : WellFormed start) :
    Replaces start id answer (pool.missing pool.members answer) pool
      (pool.publish id origin pool.members answer slots).1
      (pool.publish id origin pool.members answer slots).2 := by
  obtain ⟨rest, first⟩ := working.first
  have fits := working.fits
  have released := working.released.replaced working.wellFormed working.distinct first complete
  have arranged := pool.arranged_perm slots
  have onceMissing := (working.distinct.nodup_members working.wellFormed).filter
    fun position => (pool.roster.get? position).any fun endpoint => !answer.contains endpoint.ip
  rcases publish_snd id origin onceMissing released with ⟨rest, asked, only⟩
  have sameIp : ∀ position ∈ start.members, ∀ ip,
      pool.roster.ipAt position = some ip ↔ start.roster.ipAt position = some ip := by
    intro position member ip
    obtain ⟨there, found⟩ := wellFormed.present position member
    rw [working.ipAt position there found, found]
  rw [publish_fst, settled_of_released released]
  constructor
  case addresses => exact addresses_replaced pool.members fits complete
  case kept =>
    intro position member ip answered found
    exact arranged.mem_iff.mpr (working.distinct.mem_endpoints fits complete
      (working.members ▸ member) (working.ipAt position ip found) answered)
  case added =>
    intro position member foreign
    rcases List.mem_filterMap.mp (arranged.mem_iff.mp member) with ⟨slot, placed, isEndpoint⟩
    obtain ⟨ip, _, fit⟩ := exists_of_mem_right fits placed
    cases fit with
    | starting fresh => simp [Slot.endpoint?] at isEndpoint
    | kept known found =>
      obtain rfl := Option.some.inj isEndpoint
      exact absurd (working.members ▸ known) foreign
    | started _ fresh found =>
      obtain rfl := Option.some.inj isEndpoint
      rcases Option.map_eq_some_iff.mp found with ⟨endpoint, there, rfl⟩
      exact ⟨working.fresh _ placed, endpoint, there, working.wellFormed.probed _ _ there,
        working.addresses ▸ fresh⟩
  case once => exact onceMissing
  case goes =>
    intro position
    rw [mem_missing, working.members]
    exact and_congr_right fun member => exists_congr fun ip => by rw [sameIp position member ip]
  case endpoints =>
    intro position
    refine (Roster.get?_disposed ..).trans ?_
    by_cases gone : position ∈ pool.missing pool.members answer <;> simp [gone]
  case asked =>
    refine ⟨rest, only, ?_⟩
    rw [asked, summaryOf_eq working.distinct once fits complete, working.addresses]
    rfl

/-! ## From the answer to the new snapshot -/

theorem start_notMem_of_onlyLooksUp {effects : List Effect} (only : OnlyLooksUp effects)
    {slot : Nat} {ip : Ip} : .start id slot ip ∉ effects := by
  intro asked
  rcases only _ asked with ⟨_, equal⟩ | ⟨_, equal⟩ <;> contradiction

theorem Replaces.start_notMem {before after : Pool} {gone : List Nat} {effects : List Effect}
    (replaces : Replaces start id answer gone before after effects) {slot : Nat} {ip : Ip} :
    .start id slot ip ∉ effects := by
  rcases replaces.asked with ⟨rest, only, asked⟩
  have removal (position : Nat) : .start id slot ip ∉ before.removal position := by
    unfold removal
    split <;> simp
  simp [asked, removal, start_notMem_of_onlyLooksUp only]

theorem step_answered {rest : List Refresh} (nonempty : answer ≠ [])
    (lookingUp : start.refreshes = ⟨id, origin, .lookingUp⟩ :: rest) :
    start.step (.answered id (.ok answer)) =
      if (answer.map start.slotFor).all (·.endpoint?.isSome) then
        (start.withAnswer answer).publish id origin start.members answer
          (answer.map start.slotFor)
      else (start.withAnswer answer, starts id (answer.map start.slotFor)) := by
  rw [← takeAnswer_of_ne_nil start id origin nonempty]
  simp [step, lookingUp]

/-- The pools that come of resolvers that give no address twice. -/
def Reached (pool : Pool) : Prop :=
  ∃ settings inputs, (∀ input ∈ inputs, Input.Distinct input) ∧
    pool = ((make settings).run inputs).1

theorem Reached.invariants (reached : Reached pool) :
    WellFormed pool ∧ Released pool ∧ Distinct pool := by
  obtain ⟨settings, inputs, once, rfl⟩ := reached
  have kept (pool : Pool) (input : Input) (member : input ∈ inputs) :
      WellFormed pool ∧ Released pool ∧ Distinct pool →
        WellFormed (pool.step input).1 ∧ Released (pool.step input).1 ∧
          Distinct (pool.step input).1 := by
    rintro ⟨wellFormed, released, distinct⟩
    exact ⟨wellFormed.step input, released.step input,
      distinct.step wellFormed (once input member)⟩
  exact run_invariant kept ⟨.of_make settings, .of_make settings, .of_make settings⟩

/-- A refresh publishes exactly the addresses of its answer. Whatever else happens in the meantime,
and in whatever order the first probes come in, all its steps before that leave the snapshot and
every endpoint alone, and it probes the new addresses and no others. -/
theorem refresh_replaces {waiting : List Refresh} {during : List Input} (reached : Reached start)
    (lookingUp : start.refreshes = ⟨id, origin, .lookingUp⟩ :: waiting)
    (nonempty : answer ≠ []) (once : answer.Nodup)
    (spared : ∀ input ∈ during, input.Spares id origin)
    (probed : ∀ slot ip, answer[slot]? = some ip → ip ∉ start.addresses →
      ∃ now outcome, .firstProbed id slot now outcome ∈ during) :
    (∀ slot ip, .start id slot ip ∈ (start.step (.answered id (.ok answer))).2 ↔
      answer[slot]? = some ip ∧ ip ∉ start.addresses) ∧
    ∃ earlier last later gone,
      .answered id (.ok answer) :: during ++ [.join id] = earlier ++ last :: later ∧
      last.IsOf id ∧
      (∀ before own after, earlier = before ++ own :: after → own.IsOf id →
        Prepares start id (start.run before).1 ((start.run before).1.step own).1
          ((start.run before).1.step own).2) ∧
      Replaces start id answer gone (start.run earlier).1 ((start.run earlier).1.step last).1
        ((start.run earlier).1.step last).2 := by
  rcases reached.invariants with ⟨wellFormed, released, distinct⟩
  have working := Working.answered wellFormed released distinct lookingUp once
  have atPlace (slot : Nat) (ip : Ip) :
      (answer.map start.slotFor)[slot]? = some (.starting ip) ↔
        answer[slot]? = some ip ∧ ip ∉ start.addresses := by
    simp only [List.getElem?_map, Option.map_eq_some_iff, slotFor_eq_starting]
    grind
  have stepped := step_answered nonempty lookingUp
  by_cases complete : (answer.map start.slotFor).all (·.endpoint?.isSome) = true
  · rw [if_pos complete] at stepped
    have replaces := working.replaces complete once wellFormed
    refine ⟨fun slot ip => ?_, [], .answered id (.ok answer), during ++ [.join id],
      start.missing start.members answer, rfl, rfl, by simp, ?_⟩
    · rw [stepped, ← atPlace]
      apply iff_of_false replaces.start_notMem
      intro placed
      have absent := List.all_eq_true.mp complete _ (List.mem_of_getElem? placed)
      simp [Slot.endpoint?] at absent
    · show Replaces _ _ _ _ start (start.step (.answered id (.ok answer))).1
        (start.step (.answered id (.ok answer))).2
      rw [stepped]
      exact { replaces with }
  · rw [if_neg complete] at stepped
    obtain ⟨earlier, later, places, split, atWork, filled, prepares⟩ :=
      working.completes spared fun slot ip waiting =>
        probed slot ip ((atPlace slot ip).mp waiting).1 ((atPlace slot ip).mp waiting).2
    have running (inputs : List Input) : (start.run (.answered id (.ok answer) :: inputs)).1 =
        ((start.withAnswer answer).run inputs).1 := by
      rw [run, stepped]
    have joined := atWork.step_join filled
    have replaces := atWork.replaces filled once wellFormed
    generalize Pool.missing _ _ _ = gone at replaces
    refine ⟨fun slot ip => ?_, .answered id (.ok answer) :: earlier, .join id, later, gone,
      congrArg _ split, rfl, fun before own after inOrder isOwn => ?_, ?_⟩
    · rw [stepped, mem_starts, ← atPlace]
      simp
    · rcases List.cons_eq_append_iff.mp inOrder with ⟨rfl, head⟩ | ⟨before, rfl, tail⟩
      · obtain ⟨rfl, rfl⟩ := List.cons.inj head
        show Prepares start id start (start.step _).1 (start.step _).2
        rw [stepped]
        exact .answered
      · rw [running]
        exact prepares before own after tail isOwn
    · rwa [running, joined]

/-- A pool with two addresses in its snapshot that looks up its host again. -/
def twoAddresses : Pool :=
  ((make
    { hostname := "api"
      prober := { target := ⟨.http, "api", 80⟩, healthPath := "/health", readTimeout := ⟨1⟩ }
      probePeriod := some 5000 }).run
    [.refresh 0 .construction, .answered 0 (.ok [.v4 ⟨10, 0, 0, 1⟩, .v4 ⟨10, 0, 0, 2⟩]),
      .firstProbed 0 1 3 (.status 200), .firstProbed 0 0 4 (.status 200), .join 0,
      .refresh 1 .caller]).1

theorem reached_twoAddresses : Reached twoAddresses := by
  refine ⟨_, _, fun input member => ?_, rfl⟩
  simp only [List.mem_cons, List.not_mem_nil, or_false] at member
  rcases member with rfl | rfl | rfl | rfl | rfl | rfl
  case inr.inl => show List.Nodup _; decide
  all_goals trivial

/-- One of two addresses is replaced by another. -/
theorem refresh_replaces_one_of_two :
    ∃ earlier last later gone,
      [.answered 1 (.ok [.v4 ⟨10, 0, 0, 2⟩, .v4 ⟨10, 0, 0, 3⟩]),
        .firstProbed 1 1 9 (.status 200), .join 1] = earlier ++ last :: later ∧
      Replaces twoAddresses 1 [.v4 ⟨10, 0, 0, 2⟩, .v4 ⟨10, 0, 0, 3⟩] gone
        (twoAddresses.run earlier).1 ((twoAddresses.run earlier).1.step last).1
        ((twoAddresses.run earlier).1.step last).2 := by
  have lookingUp : twoAddresses.refreshes = [⟨1, .caller, .lookingUp⟩] := rfl
  have known : twoAddresses.addresses = [.v4 ⟨10, 0, 0, 1⟩, .v4 ⟨10, 0, 0, 2⟩] := rfl
  have once : [Ip.v4 ⟨10, 0, 0, 2⟩, .v4 ⟨10, 0, 0, 3⟩].Nodup := by decide
  have spared : ∀ input ∈ [Input.firstProbed 1 1 9 (.status 200)], input.Spares 1 .caller :=
    fun input member => List.mem_singleton.mp member ▸ trivial
  have probed : ∀ slot ip, [Ip.v4 ⟨10, 0, 0, 2⟩, .v4 ⟨10, 0, 0, 3⟩][slot]? = some ip →
      ip ∉ twoAddresses.addresses → ∃ now outcome,
        .firstProbed 1 slot now outcome ∈ [Input.firstProbed 1 1 9 (.status 200)] := by
    intro slot ip found fresh
    rw [known] at fresh
    match slot with
    | 0 =>
      obtain rfl := Option.some.inj found
      exact absurd (by decide) fresh
    | 1 => exact ⟨9, .status 200, List.mem_singleton.mpr rfl⟩
    | _ + 2 => simp at found
  obtain ⟨_, earlier, last, later, gone, split, _, _, replaces⟩ :=
    refresh_replaces reached_twoAddresses lookingUp (List.cons_ne_nil _ _) once spared probed
  exact ⟨earlier, last, later, gone, split, replaces⟩

end OneHost.Pool
