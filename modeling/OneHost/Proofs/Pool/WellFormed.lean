import Mathlib.Data.List.Forall2
import Mathlib.Data.List.Perm.Basic
import Mathlib.Data.List.Nodup
import OneHost.Proofs.Pool.Steps

/-!
# What holds of a pool at all times

A refresh that has its answer knows the snapshot it is to replace, and each of its places fits the
address at the same place of the answer. Since the other refreshes wait, no one else can replace
that snapshot, so the places go on fitting until the refresh publishes.
-/

namespace OneHost.Pool

variable {pool before after : Pool}

/-! ## Runs -/

/-- What every step keeps holds after every run. -/
theorem run_invariant {invariant : Pool → Prop} {inputs : List Input}
    (kept : ∀ pool, ∀ input ∈ inputs, invariant pool → invariant (pool.step input).1)
    (initially : invariant pool) : invariant (pool.run inputs).1 := by
  induction inputs generalizing pool with
  | nil => exact initially
  | cons input rest ih =>
    exact ih (fun pool other member => kept pool other (List.mem_cons_of_mem _ member))
      (kept pool input List.mem_cons_self initially)

theorem run_append (pool : Pool) (earlier later : List Input) :
    (pool.run (earlier ++ later)).1 = ((pool.run earlier).1.run later).1 := by
  induction earlier generalizing pool with
  | nil => rfl
  | cons input earlier ih => exact ih (pool.step input).1

/-! ## Addresses -/

theorem mem_addresses {ip : Ip} :
    ip ∈ pool.addresses ↔ ∃ position ∈ pool.members, pool.roster.ipAt position = some ip :=
  List.mem_filterMap

theorem any_ip_iff {roster : Roster} {position : Nat} {ip : Ip} :
    (roster.get? position).any (·.ip == ip) = true ↔ roster.ipAt position = some ip := by
  simp [Roster.ipAt, Option.any_eq_true]

@[simp] theorem ipAt_disposed (roster : Roster) (gone : Nat → Bool) (position : Nat) :
    (roster.disposed gone).ipAt position = roster.ipAt position :=
  (roster.continues_disposed gone).ipAt position

/-- A new endpoint does not change who is at the positions that are taken. -/
theorem ipAt_push {roster : Roster} {position : Nat} {ip : Ip} (endpoint : Endpoint)
    (found : roster.ipAt position = some ip) :
    (roster.push endpoint).ipAt position = some ip := by
  obtain ⟨old, foundOld, oldIp⟩ := Option.map_eq_some_iff.mp found
  have taken : position ≠ roster.endpoints.length :=
    Nat.ne_of_lt (Roster.lt_length_of_get? foundOld)
  simp [Roster.ipAt, Roster.get?_push, taken, foundOld, oldIp]

/-! ## Places -/

/-- A place fits an address: it has the endpoint of the snapshot for it, or there is none and a new
one is, or is to be, in its place. -/
inductive Fits (pool : Pool) (ip : Ip) : Slot → Prop
  | kept {position : Nat} (member : position ∈ pool.members)
      (found : pool.roster.ipAt position = some ip) : Fits pool ip (.kept position)
  | starting (fresh : ip ∉ pool.addresses) : Fits pool ip (.starting ip)
  | started {position : Nat} (foreign : position ∉ pool.members) (fresh : ip ∉ pool.addresses)
      (found : pool.roster.ipAt position = some ip) : Fits pool ip (.started position)

theorem Fits.mono {ip : Ip} {slot : Slot} (fits : before.Fits ip slot)
    (members : after.members = before.members) (addresses : after.addresses = before.addresses)
    (ipAt : ∀ position ip, before.roster.ipAt position = some ip →
      after.roster.ipAt position = some ip) : after.Fits ip slot := by
  cases fits with
  | kept member found => exact .kept (members ▸ member) (ipAt _ _ found)
  | starting fresh => exact .starting (addresses ▸ fresh)
  | started foreign fresh found =>
    exact .started (members ▸ foreign) (addresses ▸ fresh) (ipAt _ _ found)

theorem Kept.fits (kept : Kept before after) {answer : List Ip} {slots : List Slot}
    (fits : List.Forall₂ before.Fits answer slots) : List.Forall₂ after.Fits answer slots :=
  fits.imp fun _ _ fit =>
    fit.mono kept.members kept.addresses fun position _ found =>
      (kept.roster.ipAt position).trans found

/-- The place of an address fits it. -/
theorem fits_slotFor (pool : Pool) (ip : Ip) : pool.Fits ip (pool.slotFor ip) := by
  unfold slotFor existing?
  cases found : pool.roster.rotation.members.reverse.find? _ with
  | none =>
    refine .starting fun known => ?_
    rcases mem_addresses.mp known with ⟨position, member, ipEqual⟩
    have passedOver := List.find?_eq_none.mp found position (List.mem_reverse.mpr member)
    exact passedOver (any_ip_iff.mpr ipEqual)
  | some position =>
    have member := List.mem_reverse.mp (List.mem_of_find?_eq_some found)
    have matching := List.find?_some (p := fun position =>
      (pool.roster.get? position).any (·.ip == ip)) found
    exact .kept member (any_ip_iff.mp matching)

/-- An address gets a new endpoint if the snapshot does not have it. -/
theorem slotFor_eq_starting {ip other : Ip} :
    pool.slotFor ip = .starting other ↔ ip = other ∧ ip ∉ pool.addresses := by
  have fits := fits_slotFor pool ip
  unfold slotFor at fits ⊢
  cases existing : pool.existing? ip with
  | none =>
    rw [existing] at fits
    cases fits with
    | starting fresh => simp [fresh]
  | some position =>
    rw [existing] at fits
    cases fits with
    | kept member found => simp [mem_addresses.mpr ⟨_, member, found⟩]

/-- The endpoints of a refresh with all its places filled have the addresses of its answer. -/
theorem filterMap_ipAt_endpoints {answer : List Ip} {slots : List Slot}
    (fits : List.Forall₂ pool.Fits answer slots)
    (complete : slots.all (·.endpoint?.isSome) = true) :
    (slots.filterMap Slot.endpoint?).filterMap pool.roster.ipAt = answer := by
  induction fits with
  | nil => rfl
  | cons fitsFirst _ ih =>
    rw [List.all_cons, Bool.and_eq_true] at complete
    cases fitsFirst with
    | kept member found => simp [Slot.endpoint?, found, ih complete.2]
    | starting fresh => simp [Slot.endpoint?] at complete
    | started foreign fresh found => simp [Slot.endpoint?, found, ih complete.2]

theorem exists_of_mem_right {α β : Type} {related : α → β → Prop} {left : List α}
    {right : List β} (all : List.Forall₂ related left right) {second : β}
    (member : second ∈ right) : ∃ first ∈ left, related first second := by
  induction all with
  | nil => simp at member
  | cons head _ ih =>
    rcases List.mem_cons.mp member with rfl | later
    · exact ⟨_, List.mem_cons_self, head⟩
    · obtain ⟨first, memberFirst, holds⟩ := ih later
      exact ⟨first, List.mem_cons_of_mem _ memberFirst, holds⟩

/-- An endpoint in hand has an address of the answer, and is in the snapshot if that address is. -/
theorem ipAt_of_mem_endpoints {answer : List Ip} {slots : List Slot} {position : Nat}
    (fits : List.Forall₂ pool.Fits answer slots)
    (inHand : position ∈ slots.filterMap Slot.endpoint?) :
    ∃ ip ∈ answer, pool.roster.ipAt position = some ip ∧
      (position ∈ pool.members ↔ ip ∈ pool.addresses) := by
  rcases List.mem_filterMap.mp inHand with ⟨slot, placed, isEndpoint⟩
  obtain ⟨ip, answered, fit⟩ := exists_of_mem_right fits placed
  refine ⟨ip, answered, ?_⟩
  cases fit with
  | starting fresh => simp [Slot.endpoint?] at isEndpoint
  | kept member found =>
    obtain rfl := Option.some.inj isEndpoint
    exact ⟨found, iff_of_true member (mem_addresses.mpr ⟨_, member, found⟩)⟩
  | started foreign fresh found =>
    obtain rfl := Option.some.inj isEndpoint
    exact ⟨found, iff_of_false foreign fresh⟩

/-- The addresses of a new snapshot are those of the answer. -/
theorem addresses_replaced {answer : List Ip} {slots : List Slot} (previous : List Nat)
    (fits : List.Forall₂ pool.Fits answer slots)
    (complete : slots.all (·.endpoint?.isSome) = true) :
    (pool.replaced previous answer slots).addresses.Perm answer := by
  have arranged := (pool.arranged_perm slots).filterMap pool.roster.ipAt
  rw [filterMap_ipAt_endpoints fits complete] at arranged
  have same : (pool.replaced previous answer slots).roster.ipAt = pool.roster.ipAt :=
    funext fun position => ipAt_disposed pool.roster _ position
  rw [addresses, same]
  exact arranged

/-! ## Well-formed pools -/

/-- The invariant of all pools. -/
structure WellFormed (pool : Pool) : Prop where
  probed : ∀ position endpoint, pool.roster.get? position = some endpoint →
    endpoint.health.probed = true
  present : ∀ position ∈ pool.members, ∃ ip, pool.roster.ipAt position = some ip
  patient : ∀ refresh ∈ pool.refreshes.tail, refresh.phase = .waiting
  fits : ∀ refresh ∈ pool.refreshes, ∀ previous answer slots,
    refresh.phase = .starting previous answer slots →
      previous = pool.members ∧ List.Forall₂ pool.Fits answer slots

namespace WellFormed

theorem of_make (settings : Settings) : WellFormed (make settings) where
  probed _ _ found := by simp [make, Roster.get?] at found
  present _ member := by simp [make, Pool.members, Rotation.empty] at member
  patient _ member := by simp [make] at member
  fits _ member := by simp [make] at member

theorem of_kept (wellFormed : WellFormed before) (kept : Kept before after)
    (queued : Queued before.refreshes after.refreshes) : WellFormed after where
  probed position endpoint found := by
    rcases kept.roster.origin found with ⟨earlier, foundEarlier, goesOn⟩
    exact goesOn.probed (wellFormed.probed position earlier foundEarlier)
  present position member := by
    rw [kept.roster.ipAt]
    exact wellFormed.present position (kept.members ▸ member)
  patient := queued.patient wellFormed.patient
  fits refresh member previous answer slots phase := by
    rcases queued.origin refresh member with earlier | waiting | lookingUp
    · obtain ⟨same, fits⟩ := wellFormed.fits refresh earlier previous answer slots phase
      exact ⟨same.trans kept.members.symm, kept.fits fits⟩
    · rw [phase] at waiting
      contradiction
    · rw [phase] at lookingUp
      contradiction

theorem settled (wellFormed : WellFormed pool) : WellFormed pool.settled :=
  wellFormed.of_kept (kept_settled pool pool.refreshes pool.upkeep) (.of_begun _)

/-- While the first refresh works, none of the others has an answer. -/
theorem waiting_of_mem {first refresh : Refresh} {rest : List Refresh}
    (wellFormed : WellFormed pool) (working : pool.refreshes = first :: rest)
    (member : refresh ∈ rest) : refresh.phase = .waiting :=
  wellFormed.patient refresh (by rwa [working])

theorem withAnswer {id : Nat} {origin : Origin} {phase : Phase} {rest : List Refresh}
    (wellFormed : WellFormed pool) (working : pool.refreshes = ⟨id, origin, phase⟩ :: rest)
    (answer : List Ip) : WellFormed (pool.withAnswer answer) where
  probed := wellFormed.probed
  present := wellFormed.present
  patient := by
    simp only [Pool.withAnswer, setPhase, working]
    exact fun refresh => wellFormed.waiting_of_mem working
  fits refresh member previous given slots isPhase := by
    simp only [Pool.withAnswer, setPhase, working, List.mem_cons] at member
    rcases member with rfl | later
    · simp only [Phase.starting.injEq] at isPhase
      rcases isPhase with ⟨rfl, rfl, rfl⟩
      refine ⟨rfl, ?_⟩
      rw [List.forall₂_map_right_iff, List.forall₂_same]
      intro ip _
      exact (fits_slotFor pool ip).mono rfl rfl fun _ _ found => found
    · rw [wellFormed.waiting_of_mem working later] at isPhase
      contradiction

/-- A new endpoint leaves the snapshot as it is. -/
theorem addresses_push (wellFormed : WellFormed pool) (endpoint : Endpoint) :
    addresses { pool with roster := pool.roster.push endpoint } = pool.addresses := by
  apply List.filterMap_congr
  intro position member
  obtain ⟨ip, found⟩ := wellFormed.present position member
  rw [found]
  exact ipAt_push endpoint found

end WellFormed

theorem forall₂_set {α β : Type} {related : α → β → Prop} {left : List α} {right : List β}
    (all : List.Forall₂ related left right) (index : Nat) {first : β} {second : β}
    (atIndex : right[index]? = some first)
    (replaced : ∀ value, related value first → related value second) :
    List.Forall₂ related left (right.set index second) := by
  induction all generalizing index with
  | nil => exact .nil
  | cons head tail ih =>
    cases index with
    | zero =>
      simp only [List.getElem?_cons_zero, Option.some.injEq] at atIndex
      subst atIndex
      exact .cons (replaced _ head) tail
    | succ index => exact .cons head (ih index atIndex)

namespace WellFormed

theorem withEndpoint {id : Nat} {origin : Origin} {rest : List Refresh} {previous : List Nat}
    {answer : List Ip} {slots : List Slot} {slot : Nat} {endpoint : Endpoint}
    (wellFormed : WellFormed pool)
    (working : pool.refreshes = ⟨id, origin, .starting previous answer slots⟩ :: rest)
    (waiting : slots[slot]? = some (.starting endpoint.ip))
    (probed : endpoint.health.probed = true) :
    WellFormed (pool.withEndpoint previous answer slots slot endpoint) where
  probed position other found := by
    simp only [Pool.withEndpoint, setPhase, Roster.get?_push] at found
    split at found
    · rwa [← Option.some.inj found]
    · exact wellFormed.probed position other found
  present position member := by
    rcases wellFormed.present position member with ⟨ip, found⟩
    exact ⟨ip, ipAt_push endpoint found⟩
  patient := by
    simp only [Pool.withEndpoint, setPhase, working]
    exact fun refresh => wellFormed.waiting_of_mem working
  fits refresh member earlier given places isPhase := by
    simp only [Pool.withEndpoint, setPhase, working, List.mem_cons] at member
    rcases member with rfl | later
    · simp only [Phase.starting.injEq] at isPhase
      obtain ⟨rfl, rfl, rfl⟩ := isPhase
      obtain ⟨same, fits⟩ := wellFormed.fits ⟨id, origin, .starting previous answer slots⟩
        (working ▸ List.mem_cons_self) previous answer slots rfl
      refine ⟨same, forall₂_set (fits.imp fun ip place fit => ?_) slot waiting
        fun ip fit => ?_⟩
      · exact fit.mono rfl (wellFormed.addresses_push endpoint) fun _ _ => ipAt_push endpoint
      · cases fit with
        | starting fresh =>
          -- The new position lies behind all that are known.
          refine .started (fun known => ?_) fresh ?_
          · rcases wellFormed.present _ known with ⟨ip, found⟩
            obtain ⟨old, foundOld, _⟩ := Option.map_eq_some_iff.mp found
            exact Nat.lt_irrefl _ (Roster.lt_length_of_get? foundOld)
          · simp [Pool.withEndpoint, setPhase, Roster.ipAt, Roster.get?_push]
    · rw [wellFormed.waiting_of_mem working later] at isPhase
      contradiction

theorem fits_first {id : Nat} {origin : Origin} {rest : List Refresh} {previous : List Nat}
    {answer : List Ip} {slots : List Slot} (wellFormed : WellFormed pool)
    (working : pool.refreshes = ⟨id, origin, .starting previous answer slots⟩ :: rest) :
    previous = pool.members ∧ List.Forall₂ pool.Fits answer slots :=
  wellFormed.fits ⟨id, origin, .starting previous answer slots⟩ (working ▸ List.mem_cons_self)
    previous answer slots rfl

theorem replaced {id : Nat} {origin : Origin} {rest : List Refresh} {previous : List Nat}
    {answer : List Ip} {slots : List Slot} (wellFormed : WellFormed pool)
    (working : pool.refreshes = ⟨id, origin, .starting previous answer slots⟩ :: rest) :
    WellFormed (pool.replaced previous answer slots) where
  probed position endpoint found := by
    have continues := pool.roster.continues_disposed
      fun position => position ∈ pool.missing previous answer
    rcases continues.origin found with ⟨earlier, foundEarlier, goesOn⟩
    exact goesOn.probed (wellFormed.probed position earlier foundEarlier)
  present position member := by
    have inHand := (pool.arranged_perm slots).mem_iff.mp member
    obtain ⟨ip, _, found, _⟩ := ipAt_of_mem_endpoints (wellFormed.fits_first working).2 inHand
    exact ⟨ip, (ipAt_disposed ..).trans found⟩
  patient refresh member := by
    have later : refresh ∈ rest := by
      simp only [Pool.replaced, working, List.drop_succ_cons, List.drop_zero] at member
      exact List.mem_of_mem_tail member
    exact wellFormed.waiting_of_mem working later
  fits refresh member previous answer slots isPhase := by
    have later : refresh ∈ rest := by
      simpa only [Pool.replaced, working, List.drop_succ_cons, List.drop_zero] using member
    rw [wellFormed.waiting_of_mem working later] at isPhase
    contradiction

/-- Every step keeps the invariant. -/
theorem step (wellFormed : WellFormed pool) (input : Input) : WellFormed (pool.step input).1 := by
  obtain ⟨after, effects, stepped, acts⟩ := exists_acts pool input
  rw [stepped]
  cases acts with
  | aside kept queued _ => exact wellFormed.of_kept kept queued
  | answered working _ => exact wellFormed.withAnswer working _
  | started working waiting _ => exact wellFormed.withEndpoint working waiting rfl
  | reused working _ _ =>
    rw [publish_fst]
    have answered := wellFormed.withAnswer working
    exact (answered _).replaced (refreshes_withAnswer working _) |>.settled
  | joined working complete =>
    rw [publish_fst]
    exact (wellFormed.replaced working).settled

theorem run (wellFormed : WellFormed pool) (inputs : List Input) :
    WellFormed (pool.run inputs).1 :=
  run_invariant (fun _ input _ wellFormed => wellFormed.step input) wellFormed

end WellFormed

/-- What holds after a run held before it, or began in one of its steps. -/
theorem began_in_run (holds : Pool → Prop) (begins : Pool → Input → Prop) {inputs : List Input}
    (of_step : ∀ pool input, WellFormed pool → holds (pool.step input).1 →
      holds pool ∨ begins pool input)
    (wellFormed : WellFormed pool) (holdsLater : holds (pool.run inputs).1) :
    holds pool ∨ ∃ earlier input later, inputs = earlier ++ input :: later ∧
      begins (pool.run earlier).1 input := by
  induction inputs generalizing pool with
  | nil => exact .inl holdsLater
  | cons input inputs ih =>
    rcases ih (wellFormed.step input) holdsLater with
      afterFirst | ⟨earlier, own, later, rfl, begun⟩
    · cases of_step pool input wellFormed afterFirst with
      | inl before => exact .inl before
      | inr begun => exact .inr ⟨[], input, inputs, rfl, begun⟩
    · exact .inr ⟨input :: earlier, own, later, rfl, begun⟩

end OneHost.Pool
