import Mathlib.Data.Finset.Card
import Mathlib.Data.List.Pairwise
import OneHost.Proofs.Pool.WellFormed

/-!
# Putting a new snapshot in the place of the old one

When a refresh publishes, the endpoints whose addresses are gone lose their schedules and are
evicted, and nothing else does. That nothing else goes out of use rests on two more invariants: what
is out of use is not probed any more, and no address comes twice.
-/

namespace OneHost.Pool

variable {pool before after : Pool}

/-! ## Out of use -/

/-- Endpoints out of use are no longer probed. -/
def Released (pool : Pool) : Prop :=
  ∀ position endpoint, pool.roster.get? position = some endpoint →
    pool.inUse position = false → endpoint.schedule = .none

namespace Released

theorem of_make (settings : Settings) : Released (make settings) :=
  fun _ _ found => by simp [make, Roster.get?] at found

theorem of_kept (released : Released before) (kept : Kept before after) : Released after := by
  intro position endpoint found unused
  cases used : before.inUse position with
  | true => exact kept.unused position endpoint found used unused
  | false =>
    obtain ⟨earlier, foundEarlier, goesOn⟩ := kept.roster.origin found
    exact goesOn.unscheduled (released position earlier foundEarlier used)

theorem of_settled (pool : Pool) : Released pool.settled := by
  intro position endpoint found unused
  rw [inUse_settled] at unused
  simp only [settled, Roster.get?_disposed, unused, Bool.not_false, if_true] at found
  rcases Option.map_eq_some_iff.mp found with ⟨earlier, _, rfl⟩
  rfl

theorem withAnswer {id : Nat} {origin : Origin} {rest : List Refresh}
    (released : Released pool) (working : pool.refreshes = ⟨id, origin, .lookingUp⟩ :: rest)
    (answer : List Ip) : Released (pool.withAnswer answer) := by
  intro position endpoint found unused
  refine released position endpoint found ?_
  simp only [inUse, refreshes_withAnswer working, List.any_cons, Bool.or_eq_false_iff] at unused
  simp only [inUse, working, List.any_cons, Bool.or_eq_false_iff]
  exact ⟨unused.1, by simp [Refresh.endpoints], unused.2.2⟩

/-- Filling a place leaves the endpoints in the other places in hand. -/
theorem mem_endpoints_set {slots : List Slot} {slot position : Nat} {ip : Ip} {place : Slot}
    (waiting : slots[slot]? = some (.starting ip))
    (inHand : position ∈ slots.filterMap Slot.endpoint?) :
    position ∈ (slots.set slot place).filterMap Slot.endpoint? := by
  obtain ⟨other, member, isEndpoint⟩ := List.mem_filterMap.mp inHand
  rcases List.mem_iff_getElem?.mp member with ⟨index, atIndex⟩
  have different : slot ≠ index := by
    rintro rfl
    rw [waiting] at atIndex
    obtain rfl := Option.some.inj atIndex
    simp [Slot.endpoint?] at isEndpoint
  refine List.mem_filterMap.mpr ⟨other, List.mem_iff_getElem?.mpr ⟨index, ?_⟩, isEndpoint⟩
  rw [List.getElem?_set_ne different, atIndex]

theorem withEndpoint {id : Nat} {origin : Origin} {rest : List Refresh} {previous : List Nat}
    {answer : List Ip} {slots : List Slot} {slot : Nat} {ip : Ip} (endpoint : Endpoint)
    (released : Released pool)
    (working : pool.refreshes = ⟨id, origin, .starting previous answer slots⟩ :: rest)
    (waiting : slots[slot]? = some (.starting ip)) :
    Released (pool.withEndpoint previous answer slots slot endpoint) := by
  intro position other found unused
  simp only [inUse, Pool.withEndpoint, setPhase, working, Refresh.endpoints, Roster.rotation_push,
    List.any_cons, Bool.or_eq_false_iff, List.contains_eq_mem, decide_eq_false_iff_not] at unused
  obtain ⟨⟨notMember, notHeld⟩, notInHand, notAwaited⟩ := unused
  simp only [Pool.withEndpoint, setPhase, Roster.get?_push] at found
  split at found
  · rename_i newest
    refine absurd ?_ notInHand
    have placed : Slot.started position ∈ slots.set slot (.started pool.roster.endpoints.length) :=
      newest ▸ List.mem_set (List.getElem?_eq_some_iff.mp waiting).1 _
    exact List.mem_filterMap.mpr ⟨_, placed, rfl⟩
  · refine released position other found ?_
    simp only [inUse, working, Refresh.endpoints, List.any_cons, Bool.or_eq_false_iff,
      List.contains_eq_mem, decide_eq_false_iff_not]
    exact ⟨⟨notMember, notHeld⟩, fun inHand => notInHand (mem_endpoints_set waiting inHand),
      notAwaited⟩

theorem step (released : Released pool) (input : Input) : Released (pool.step input).1 := by
  obtain ⟨after, effects, stepped, acts⟩ := exists_acts pool input
  rw [stepped]
  cases acts with
  | aside kept _ _ => exact released.of_kept kept
  | answered working _ => exact released.withAnswer working _
  | started working waiting _ => exact released.withEndpoint _ working waiting
  | reused _ _ _ | joined _ _ =>
    rw [publish_fst]
    exact of_settled _

end Released

/-! ## Distinct addresses -/

/-- An answer gives no address twice. -/
def Input.Distinct : Input → Prop
  | .answered _ (.ok answer) => answer.Nodup
  | _ => True

/-- No address is in the snapshot twice, nor in the answer that a refresh has in hand. -/
structure Distinct (pool : Pool) : Prop where
  addresses : pool.addresses.Nodup
  answers : ∀ refresh ∈ pool.refreshes, ∀ previous answer slots,
    refresh.phase = .starting previous answer slots → answer.Nodup

namespace Distinct

theorem of_make (settings : Settings) : Distinct (make settings) where
  addresses := List.nodup_nil
  answers _ member := by simp [make] at member

theorem of_kept (distinct : Distinct before) (kept : Kept before after)
    (queued : Queued before.refreshes after.refreshes) : Distinct after where
  addresses := kept.addresses ▸ distinct.addresses
  answers refresh member previous answer slots phase := by
    rcases queued.origin refresh member with earlier | waiting | lookingUp
    · exact distinct.answers refresh earlier previous answer slots phase
    · rw [phase] at waiting
      contradiction
    · rw [phase] at lookingUp
      contradiction

theorem withAnswer {id : Nat} {origin : Origin} {phase : Phase} {rest : List Refresh}
    {answer : List Ip} (distinct : Distinct pool)
    (working : pool.refreshes = ⟨id, origin, phase⟩ :: rest) (once : answer.Nodup) :
    Distinct (pool.withAnswer answer) where
  addresses := distinct.addresses
  answers refresh member previous given slots isPhase := by
    rw [refreshes_withAnswer working] at member
    rcases List.mem_cons.mp member with rfl | later
    · simp only [Phase.starting.injEq] at isPhase
      exact isPhase.2.1 ▸ once
    · exact distinct.answers refresh (working ▸ List.mem_cons_of_mem _ later) previous given slots
        isPhase

theorem withEndpoint {id : Nat} {origin : Origin} {rest : List Refresh} {previous : List Nat}
    {answer : List Ip} {slots : List Slot} (slot : Nat) (endpoint : Endpoint)
    (distinct : Distinct pool) (wellFormed : WellFormed pool)
    (working : pool.refreshes = ⟨id, origin, .starting previous answer slots⟩ :: rest) :
    Distinct (pool.withEndpoint previous answer slots slot endpoint) where
  addresses := (wellFormed.addresses_push endpoint).symm ▸ distinct.addresses
  answers refresh member earlier given places isPhase := by
    simp only [Pool.withEndpoint, setPhase, working, List.mem_cons] at member
    rcases member with rfl | later
    · simp only [Phase.starting.injEq] at isPhase
      rcases isPhase with ⟨rfl, rfl, rfl⟩
      exact distinct.answers _ (working ▸ List.mem_cons_self) _ _ _ rfl
    · exact distinct.answers refresh (working ▸ List.mem_cons_of_mem _ later) earlier given places
        isPhase

theorem published {id : Nat} {origin : Origin} {rest : List Refresh} {previous : List Nat}
    {answer : List Ip} {slots : List Slot} (distinct : Distinct pool) (wellFormed : WellFormed pool)
    (working : pool.refreshes = ⟨id, origin, .starting previous answer slots⟩ :: rest)
    (complete : slots.all (·.endpoint?.isSome) = true) :
    Distinct (pool.publish id origin previous answer slots).1 := by
  rw [publish_fst]
  refine of_kept ⟨?_, ?_⟩ (kept_settled _ _ pool.upkeep) (.of_begun _)
  · have arranged := addresses_replaced previous (wellFormed.fits_first working).2 complete
    exact arranged.nodup_iff.mpr (distinct.answers _ (working ▸ List.mem_cons_self) _ _ _ rfl)
  · intro refresh member previous answer slots phase
    exact distinct.answers refresh (List.mem_of_mem_drop member) previous answer slots phase

theorem step {input : Input} (distinct : Distinct pool) (wellFormed : WellFormed pool)
    (once : input.Distinct) : Distinct (pool.step input).1 := by
  obtain ⟨after, effects, stepped, acts⟩ := exists_acts pool input
  rw [stepped]
  cases acts with
  | aside kept queued _ => exact distinct.of_kept kept queued
  | answered working _ => exact distinct.withAnswer working once
  | started working _ _ => exact distinct.withEndpoint _ _ wellFormed working
  | reused working _ complete =>
    exact (distinct.withAnswer working once).published (wellFormed.withAnswer working _)
      (refreshes_withAnswer working _) complete
  | joined working complete => exact distinct.published wellFormed working complete

end Distinct

/-! ## Who goes -/

theorem Distinct.apart (distinct : Distinct pool) :
    pool.members.Pairwise fun first second =>
      ∀ ip, pool.roster.ipAt first = some ip → pool.roster.ipAt second ≠ some ip := by
  have apart := List.pairwise_filterMap.mp distinct.addresses
  exact apart.imp fun differ ip foundFirst foundSecond =>
    differ ip foundFirst ip foundSecond rfl

/-- Endpoints of the snapshot are told apart by their addresses. -/
theorem Distinct.eq_of_ipAt (distinct : Distinct pool) {first second : Nat} {ip : Ip}
    (memberFirst : first ∈ pool.members) (memberSecond : second ∈ pool.members)
    (foundFirst : pool.roster.ipAt first = some ip)
    (foundSecond : pool.roster.ipAt second = some ip) : first = second := by
  by_contra different
  have symmetric : Std.Symm fun first second =>
      ∀ ip, pool.roster.ipAt first = some ip → pool.roster.ipAt second ≠ some ip :=
    ⟨fun _ _ apart ip foundSecond foundFirst => apart ip foundFirst foundSecond⟩
  exact distinct.apart.forall memberFirst memberSecond different ip foundFirst foundSecond

theorem Distinct.nodup_members (distinct : Distinct pool) (wellFormed : WellFormed pool) :
    pool.members.Nodup := by
  refine distinct.apart.imp_of_mem fun memberFirst _ apart equal => ?_
  obtain ⟨ip, found⟩ := wellFormed.present _ memberFirst
  exact apart ip found (equal ▸ found)

theorem mem_missing {answer : List Ip} {position : Nat} :
    position ∈ pool.missing pool.members answer ↔
      position ∈ pool.members ∧ ∃ ip, pool.roster.ipAt position = some ip ∧ ip ∉ answer := by
  simp [missing, Roster.ipAt, Option.any_eq_true]

/-- Whoever in the snapshot has an address of the answer is in hand, once all places are filled. -/
theorem Distinct.mem_endpoints {answer : List Ip} {slots : List Slot} {position : Nat} {ip : Ip}
    (distinct : Distinct pool) (fits : List.Forall₂ pool.Fits answer slots)
    (complete : slots.all (·.endpoint?.isSome) = true) (member : position ∈ pool.members)
    (found : pool.roster.ipAt position = some ip) (answered : ip ∈ answer) :
    position ∈ slots.filterMap Slot.endpoint? := by
  rw [← filterMap_ipAt_endpoints fits complete] at answered
  rcases List.mem_filterMap.mp answered with ⟨other, inHand, foundOther⟩
  obtain ⟨same, _, foundSame, known⟩ := ipAt_of_mem_endpoints fits inHand
  obtain rfl : ip = same := Option.some.inj (foundOther.symm.trans foundSame)
  have memberOther := known.mpr (mem_addresses.mpr ⟨position, member, found⟩)
  exact distinct.eq_of_ipAt member memberOther found foundSame ▸ inHand

/-- Every endpoint that goes out of use with the old snapshot is one of those that are removed. -/
theorem Released.replaced {id : Nat} {origin : Origin} {rest : List Refresh} {answer : List Ip}
    {slots : List Slot} (released : Released pool) (wellFormed : WellFormed pool)
    (distinct : Distinct pool)
    (working : pool.refreshes = ⟨id, origin, .starting pool.members answer slots⟩ :: rest)
    (complete : slots.all (·.endpoint?.isSome) = true) :
    Released (pool.replaced pool.members answer slots) := by
  intro position endpoint found unused
  have fits := (wellFormed.fits_first working).2
  have arranged := pool.arranged_perm slots
  have foundDisposed : (pool.roster.disposed fun position =>
      position ∈ pool.missing pool.members answer).get? position = some endpoint := found
  rw [Roster.get?_disposed] at foundDisposed
  rcases Option.map_eq_some_iff.mp foundDisposed with ⟨earlier, foundEarlier, rfl⟩
  by_cases gone : position ∈ pool.missing pool.members answer
  · simp [gone]
  simp only [gone, decide_false, Bool.false_eq_true, if_false]
  simp only [inUse, Pool.replaced, working, List.drop_succ_cons, List.drop_zero,
    Bool.or_eq_false_iff, List.contains_eq_mem, decide_eq_false_iff_not, arranged.mem_iff]
    at unused
  obtain ⟨⟨notInHand, notHeld⟩, notAwaited⟩ := unused
  refine released position earlier foundEarlier ?_
  simp only [inUse, working, Refresh.endpoints, List.any_cons, Bool.or_eq_false_iff,
    List.contains_eq_mem, decide_eq_false_iff_not]
  refine ⟨⟨fun member => ?_, notHeld⟩, notInHand, notAwaited⟩
  -- A member whose address is in the answer has its own place, so it is in hand after all.
  rcases wellFormed.present position member with ⟨ip, ipFound⟩
  have answered : ip ∈ answer := by
    by_contra missing
    exact gone (mem_missing.mpr ⟨member, ip, ipFound, missing⟩)
  exact notInHand (distinct.mem_endpoints fits complete member ipFound answered)

theorem settled_of_released (released : Released pool) :
    pool.settled = { pool with refreshes := begun pool.refreshes } := by
  have same : (pool.roster.disposed fun position => !pool.inUse position) = pool.roster :=
    Roster.disposed_eq_self fun position endpoint found unused =>
      released position endpoint found (by simpa using unused)
  simp [settled, same]

/-! ## What publishing asks -/

/-- Nothing is asked but what is logged and the lookup of the next refresh. -/
def OnlyLooksUp (effects : List Effect) : Prop :=
  ∀ effect ∈ effects, (∃ event, effect = .log event) ∨ ∃ id, effect = .lookUp id

theorem onlyLooksUp_beginNext (pool : Pool) : OnlyLooksUp pool.beginNext.2 := by
  intro effect asked
  simp only [beginNext] at asked
  split at asked
  · exact .inr ⟨_, List.mem_singleton.mp asked⟩
  · simp at asked

theorem finish_snd (pool : Pool) (id : Nat) (origin : Origin)
    (result : Except Resolution.LookupError Summary)
    (released : Released { pool with refreshes := pool.refreshes.drop 1 }) :
    ∃ rest, (pool.finish id origin result).2 = .finished id result :: rest ∧ OnlyLooksUp rest := by
  have unchanged := release_of_unscheduled _ released
  refine ⟨(pool.resultEvents origin result).map .log ++
    (beginNext { pool with refreshes := pool.refreshes.drop 1 }).2, ?_, fun effect asked => ?_⟩
  · simp only [finish, unchanged, List.nil_append, List.cons_append]
  · rcases List.mem_append.mp asked with logged | lookedUp
    · exact .inl (quiet_logs _ effect logged)
    · exact onlyLooksUp_beginNext _ effect lookedUp

/-- Readers see the new snapshot before anything that is gone is given up, and the refresh is
finished after that. -/
theorem publish_snd (id : Nat) (origin : Origin) {previous : List Nat} {answer : List Ip}
    {slots : List Slot} (once : (pool.missing previous answer).Nodup)
    (released : Released (pool.replaced previous answer slots)) :
    ∃ rest, (pool.publish id origin previous answer slots).2 =
        .published (pool.replaced previous answer slots).snapshot ::
          (pool.missing previous answer).flatMap pool.removal ++
          .finished id (.ok (summaryOf (pool.missing previous answer) slots)) :: rest ∧
      OnlyLooksUp rest := by
  have removed := removeAll_snd (pool.swapped slots) (pool.missing previous answer) once
  have left : Released
      { ((pool.swapped slots).removeAll (pool.missing previous answer)).1 with
        refreshes := ((pool.swapped slots).removeAll
          (pool.missing previous answer)).1.refreshes.drop 1 } := by
    rw [removeAll_fst]
    exact released
  obtain ⟨rest, asked, only⟩ := finish_snd _ id origin
    (.ok (summaryOf (pool.missing previous answer) slots)) left
  refine ⟨rest, ?_, only⟩
  rw [publish_eq]
  simp only [removed, asked]
  rfl

/-! ## What a refresh counts -/

theorem countP_isKept {answer : List Ip} {slots : List Slot}
    (fits : List.Forall₂ pool.Fits answer slots) :
    slots.countP Slot.isKept = answer.countP (· ∈ pool.addresses) := by
  induction fits with
  | nil => rfl
  | cons fit _ ih =>
    rw [List.countP_cons, List.countP_cons, ih]
    cases fit with
    | kept member found => simp [Slot.isKept, mem_addresses.mpr ⟨_, member, found⟩]
    | starting fresh | started foreign fresh found => simp [Slot.isKept, fresh]

theorem countP_isStarted {answer : List Ip} {slots : List Slot}
    (fits : List.Forall₂ pool.Fits answer slots)
    (complete : slots.all (·.endpoint?.isSome) = true) :
    slots.countP Slot.isStarted = answer.countP (· ∉ pool.addresses) := by
  induction fits with
  | nil => rfl
  | cons fit _ ih =>
    rw [List.all_cons, Bool.and_eq_true] at complete
    rw [List.countP_cons, List.countP_cons, ih complete.2]
    cases fit with
    | kept member found => simp [Slot.isStarted, mem_addresses.mpr ⟨_, member, found⟩]
    | starting fresh => simp [Slot.endpoint?] at complete
    | started foreign fresh found => simp [Slot.isStarted, fresh]

theorem length_missing (pool : Pool) (answer : List Ip) :
    (pool.missing pool.members answer).length = pool.addresses.countP (· ∉ answer) := by
  rw [missing, ← List.countP_eq_length_filter, addresses, List.countP_filterMap]
  apply List.countP_congr
  intro position _
  cases found : pool.roster.get? position <;> simp [Roster.ipAt, found]

theorem countP_mem_eq_card {first second : List Ip} (once : first.Nodup) :
    first.countP (· ∈ second) = (first.toFinset ∩ second.toFinset).card := by
  rw [List.countP_eq_length_filter, ← List.toFinset_card_of_nodup (once.filter _)]
  congr 1
  ext ip
  simp

theorem countP_notMem_eq_card {first second : List Ip} (once : first.Nodup) :
    first.countP (· ∉ second) = (first.toFinset \ second.toFinset).card := by
  rw [List.countP_eq_length_filter, ← List.toFinset_card_of_nodup (once.filter _)]
  congr 1
  ext ip
  simp

/-- The summary counts what the old snapshot and the answer have in common, and what only one of
them has. -/
theorem summaryOf_eq {answer : List Ip} {slots : List Slot} (distinct : Distinct pool)
    (once : answer.Nodup) (fits : List.Forall₂ pool.Fits answer slots)
    (complete : slots.all (·.endpoint?.isSome) = true) :
    summaryOf (pool.missing pool.members answer) slots =
      { kept := (pool.addresses.toFinset ∩ answer.toFinset).card
        added := (answer.toFinset \ pool.addresses.toFinset).card
        removed := (pool.addresses.toFinset \ answer.toFinset).card } := by
  simp only [summaryOf, countP_isKept fits, countP_isStarted fits complete,
    length_missing, countP_mem_eq_card once, countP_notMem_eq_card once,
    countP_notMem_eq_card distinct.addresses, Finset.inter_comm]

end OneHost.Pool
