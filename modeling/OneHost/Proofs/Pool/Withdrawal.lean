import OneHost.Proofs.Pool.Asking
import OneHost.Proofs.Pool.Holding
import OneHost.Proofs.Pool.Queueing
import OneHost.Proofs.Pool.Working
import OneHost.Proofs.Timeline.Construction

/-!
# Refreshes that come to nothing

A refresh may find no answer, or an empty one, or be given up while it waits, looks up its host or
probes. Then it has left the snapshot and its endpoints alone all the time; it is out of the queue,
and the endpoints that it has started so far lose their schedules with it.
-/

namespace OneHost.Pool

variable {pool before after : Pool} {id : Nat}

/-! ## Leaving the snapshot alone -/

/-- A step that leaves the snapshot and its endpoints as they are. Nothing is evicted, and nothing is
asked of the endpoints of the snapshot. -/
structure LeavesAlone (before after : Pool) (effects : List Effect) : Prop where
  snapshot : after.snapshot = before.snapshot
  endpoints : ∀ position ∈ before.members,
    after.roster.get? position = before.roster.get? position
  asked : ∀ effect ∈ effects, effect.IsCalm ∨
    (∃ id slot ip, effect = .start id slot ip ∧ ip ∉ before.addresses) ∨
    ∃ position first, effect = .await position first ∧ position ∉ before.members

namespace LeavesAlone

theorem nothing (pool : Pool) : LeavesAlone pool pool [] :=
  ⟨rfl, fun _ _ => rfl, List.forall_mem_nil _⟩

theorem of_calm {effects : List Effect} (snapshot : after.snapshot = before.snapshot)
    (endpoints : ∀ position ∈ before.members,
      after.roster.get? position = before.roster.get? position)
    (calm : Calm effects) : LeavesAlone before after effects :=
  ⟨snapshot, endpoints, fun effect asked => .inl (calm effect asked)⟩

/-- Schedules that end because no one uses their endpoints are not those of the snapshot. -/
theorem of_settled {refreshes : List Refresh} {effects : List Effect} (calm : Calm effects) :
    LeavesAlone pool (settled { pool with refreshes }) effects := by
  refine of_calm rfl (fun position member => ?_) calm
  have used : inUse { pool with refreshes } position = true := InService.inUse (.inl member)
  refine (Roster.get?_disposed ..).trans ?_
  simp [used]

theorem of_prepares {effects : List Effect} (wellFormed : WellFormed before)
    (prepares : Prepares before id before after effects) : LeavesAlone before after effects where
  snapshot := prepares.snapshot
  endpoints position member := by
    obtain ⟨ip, found⟩ := wellFormed.present position member
    obtain ⟨endpoint, there, _⟩ := Option.map_eq_some_iff.mp found
    rw [there, prepares.endpoints position endpoint there]
  asked effect asked := by
    rcases prepares.asked effect asked with ⟨event, rfl⟩ | ⟨slot, ip, rfl, fresh⟩ |
      ⟨position, rfl, newer⟩
    · exact .inl trivial
    · exact .inr (.inl ⟨id, slot, ip, rfl, fresh⟩)
    · refine .inr (.inr ⟨position, true, rfl, fun member => ?_⟩)
      exact Nat.not_lt_of_le newer (wellFormed.lt_length member)

theorem finish (pool : Pool) (id : Nat) (origin : Origin)
    (result : Except Resolution.LookupError Summary) :
    LeavesAlone pool (pool.finish id origin result).1 (pool.finish id origin result).2 := by
  rw [finish_fst]
  exact of_settled (.finish pool id origin result)

theorem cancel (pool : Pool) (gone : Refresh → Bool) :
    LeavesAlone pool (pool.cancel gone).1 (pool.cancel gone).2 := by
  rw [cancel_fst]
  exact of_settled (.cancel pool gone)

theorem takeAnswer_nil (pool : Pool) (id : Nat) (origin : Origin) :
    LeavesAlone pool (pool.takeAnswer id origin (.ok [])).1
      (pool.takeAnswer id origin (.ok [])).2 := by
  have finished := finish pool id origin (.ok { kept := pool.members.length, unchanged := true })
  have same := congrArg Prod.fst (Pool.takeAnswer_nil pool id origin)
  refine of_calm ?_ ?_ (.takeAnswer_nil pool id origin)
  · rw [same]
    exact finished.snapshot
  · rw [same]
    exact finished.endpoints

end LeavesAlone

/-! ## The steps of one refresh -/

/-- The steps of a refresh itself, from the one in which it is asked for to the one in which it is
given up. -/
def Input.IsBy (id : Nat) : Input → Prop
  | .refresh other _ | .answered other _ | .firstProbed other _ _ _ | .join other
  | .cancel other => other = id
  | _ => False

theorem head?_pending {refresh : Refresh} {rest : List Refresh}
    (working : pool.refreshes = refresh :: rest) : pool.pending.head? = some refresh.id := by
  simp [pending, working]

/-- Until it is finished, a refresh leaves the snapshot alone. -/
theorem Once.leavesAlone {input : Input} (once : Once pool id) (wellFormed : WellFormed pool)
    (own : input.IsBy id) (unfinished : id ∈ (pool.step input).1.pending) :
    LeavesAlone pool (pool.step input).1 (pool.step input).2 := by
  obtain ⟨after, effects, stepped, transition⟩ := exists_transition pool input
  rw [stepped] at unfinished ⊢
  cases transition with
  | missed _ => exact .nothing pool
  | asked _ _ => exact .of_calm rfl (fun _ _ => rfl) (.beginNext _)
  | unanswered error _ => exact .finish pool _ _ _
  | unaddressed _ => exact .takeAnswer_nil pool _ _
  | answered _ _ => exact .of_prepares wellFormed .answered
  | @started _ slot now outcome _ _ previous answer slots _ _ waiting =>
    rw [← takeFirstProbe_fst pool now outcome waiting]
    have prepares : Prepares pool id pool
        (pool.takeFirstProbe previous answer slots slot now outcome).1
        (pool.takeFirstProbe previous answer slots slot now outcome).2 := .filled waiting
    exact .of_prepares wellFormed prepares
  | reused lookingUp _ _ =>
    rw [pending_publish, withAnswer, pending_setPhase] at unfinished
    exact absurd unfinished (once.notMem_tail (own ▸ head?_pending lookingUp))
  | joined working _ =>
    rw [pending_publish] at unfinished
    exact absurd unfinished (once.notMem_tail (own ▸ head?_pending working))
  | cancelled _ => exact .cancel pool _
  | _ => exact own.elim

/-! ## Giving up -/

theorem notMem_pending_cancel (pool : Pool) (id : Nat) :
    id ∉ (pool.step (.cancel id)).1.pending := by
  simp [step, pending_cancel]

/-- When the pool's own refreshes have come to their stop, they are given up. -/
theorem Once.notMem_pending_stopped {refresh : Refresh} (once : Once pool id)
    (told : pool.upkeep = .stopping) (asked : refresh ∈ pool.refreshes) (isOwn : refresh.id = id)
    (scheduled : refresh.origin = .schedule) : id ∉ (pool.step .stopped).1.pending := by
  intro unfinished
  rw [pending_eq] at unfinished
  obtain ⟨asker, waits, isAsker⟩ := List.mem_map.mp unfinished
  obtain ⟨before, foreign⟩ := mem_askers_of_stopped told waits
  obtain ⟨other, askedOther, rfl⟩ := List.mem_map.mp before
  obtain rfl := eq_of_count_le_one once asked askedOther isOwn isAsker
  exact foreign scheduled

/-- A step after which a refresh is still there has spared it, unless nothing happened at all. -/
theorem Once.spares_or_unmoved {input : Input} {origin : Origin} {phase : Phase}
    {rest : List Refresh} (once : Once pool id)
    (working : pool.refreshes = ⟨id, origin, phase⟩ :: rest)
    (unfinished : id ∈ (pool.step input).1.pending) :
    input.Spares id origin ∨ pool.step input = (pool, []) := by
  cases input with
  | cancel other =>
    left
    rintro rfl
    exact notMem_pending_cancel pool other unfinished
  | stopped =>
    by_cases told : pool.upkeep = .stopping
    · left
      rintro rfl
      exact once.notMem_pending_stopped told (working ▸ List.mem_cons_self) rfl rfl unfinished
    · right
      exact if_neg told
  | _ => exact .inl trivial

/-- A step in which a refresh comes to nothing: its lookup fails or finds no address, or whoever
asked for it gives it up. The pool gives up its own refreshes when they have come to their stop. -/
inductive Fails (pool : Pool) (id : Nat) : Input → Prop
  | unanswered {origin : Origin} {rest : List Refresh} (error : Resolution.LookupError)
      (lookingUp : pool.refreshes = ⟨id, origin, .lookingUp⟩ :: rest) :
      Fails pool id (.answered id (.error error))
  | unaddressed {origin : Origin} {rest : List Refresh}
      (lookingUp : pool.refreshes = ⟨id, origin, .lookingUp⟩ :: rest) :
      Fails pool id (.answered id (.ok []))
  | givenUp : Fails pool id (.cancel id)
  | stopped {refresh : Refresh} (told : pool.upkeep = .stopping)
      (asked : refresh ∈ pool.refreshes) (isOwn : refresh.id = id)
      (scheduled : refresh.origin = .schedule) : Fails pool id .stopped

namespace Fails

variable {last : Input}

theorem aside (fails : Fails pool id last) :
    Kept pool (pool.step last).1 ∧ Queued pool.refreshes (pool.step last).1.refreshes := by
  obtain ⟨after, effects, stepped, acts⟩ := exists_acts pool last
  rw [stepped]
  cases acts with
  | aside kept queued _ => exact ⟨kept, queued⟩
  | answered _ nonempty | reused _ nonempty _ =>
    cases fails with
    | unaddressed _ => contradiction
  | started _ _ _ | joined _ _ => cases fails

theorem notMem_pending (fails : Fails pool id last) (once : Once pool id) :
    id ∉ (pool.step last).1.pending := by
  cases fails with
  | unanswered error lookingUp =>
    simp only [step, lookingUp, if_true, takeAnswer, pending_finish]
    exact once.notMem_tail (head?_pending lookingUp)
  | unaddressed lookingUp =>
    simp only [step, lookingUp, if_true, takeAnswer_nil, pending_finish]
    exact once.notMem_tail (head?_pending lookingUp)
  | givenUp => exact notMem_pending_cancel pool id
  | stopped told asked isOwn scheduled =>
    exact once.notMem_pending_stopped told asked isOwn scheduled

theorem leavesAlone (fails : Fails pool id last) (own : last.IsBy id) :
    LeavesAlone pool (pool.step last).1 (pool.step last).2 := by
  cases fails with
  | unanswered error lookingUp =>
    simp only [step, lookingUp, if_true, takeAnswer]
    exact .finish pool _ _ _
  | unaddressed lookingUp =>
    simp only [step, lookingUp, if_true]
    exact .takeAnswer_nil pool _ _
  | givenUp => exact .cancel pool _
  | stopped _ _ _ _ => exact own.elim

theorem calm (fails : Fails pool id last) : Calm (pool.step last).2 := by
  cases fails with
  | unanswered error lookingUp =>
    simp only [step, lookingUp, if_true, takeAnswer]
    exact .finish _ _ _ _
  | unaddressed lookingUp =>
    simp only [step, lookingUp, if_true]
    exact .takeAnswer_nil _ _ _
  | givenUp => exact .cancel _ _
  | stopped told _ _ _ =>
    rw [step, if_pos told]
    exact .cancel _ _

end Fails

/-! ## What a refresh has started -/

/-- A refresh at work has an endpoint in hand that is not in the snapshot. -/
structure Keeps (pool : Pool) (id position : Nat) : Prop where
  foreign : position ∉ pool.members
  inHand : ∃ origin previous answer slots rest,
    pool.refreshes = ⟨id, origin, .starting previous answer slots⟩ :: rest ∧
      position ∈ slots.filterMap Slot.endpoint?

namespace Keeps

variable {position : Nat}

theorem first (keeps : Keeps pool id position) : pool.pending.head? = some id := by
  obtain ⟨_, _, _, _, _, working, _⟩ := keeps.inHand
  exact head?_pending working

theorem inService (keeps : Keeps pool id position) : pool.InService position := by
  obtain ⟨origin, previous, answer, slots, _, working, inHand⟩ := keeps.inHand
  exact .inr ⟨⟨id, origin, .starting previous answer slots⟩, working ▸ List.mem_cons_self, inHand⟩

/-- The endpoint that a first probe has made is in hand. -/
theorem of_firstProbed {slot now : Nat} {outcome : Health.Outcome} {made : Endpoint}
    (wellFormed : WellFormed pool) (absent : pool.roster.get? position = none)
    (found : (pool.step (.firstProbed id slot now outcome)).1.roster.get? position = some made) :
    Keeps (pool.step (.firstProbed id slot now outcome)).1 id position := by
  have foreign : position ∉ pool.members := fun member => by
    have known := wellFormed.lt_length member
    rw [Roster.get?, List.getElem?_eq_none_iff] at absent
    omega
  have inService := inService_of_new wellFormed absent found
  obtain ⟨after, effects, stepped, acts⟩ := exists_acts pool (.firstProbed id slot now outcome)
  rw [stepped] at found inService ⊢
  cases acts with
  | aside kept _ _ =>
    obtain ⟨_, foundBefore, _⟩ := kept.roster.origin found
    rw [absent] at foundBefore
    contradiction
  | started working waiting _ =>
    have inHand := ((wellFormed.withEndpoint working waiting rfl).inService_iff
      (refreshes_withEndpoint working)).mp inService
    exact ⟨foreign, _, _, _, _, _, refreshes_withEndpoint working, inHand.resolve_left foreign⟩

/-- It stays in hand while the refresh is in the queue. -/
theorem step {input : Input} (keeps : Keeps pool id position) (once : Once pool id)
    (unfinished : id ∈ (pool.step input).1.pending) : Keeps (pool.step input).1 id position := by
  refine ⟨(once.snapshot_stays keeps.first unfinished).2.symm ▸ keeps.foreign, ?_⟩
  obtain ⟨origin, previous, answer, slots, rest, working, inHand⟩ := keeps.inHand
  by_cases elsewhere : ∀ other, ¬input.IsOf other
  · cases once.spares_or_unmoved working unfinished with
    | inl spares =>
      obtain ⟨later, stays⟩ := first_stays working spares elsewhere
      exact ⟨origin, previous, answer, slots, later, stays, inHand⟩
    | inr unmoved =>
      rw [unmoved]
      exact ⟨origin, previous, answer, slots, rest, working, inHand⟩
  obtain ⟨after, effects, stepped, transition⟩ := exists_transition pool input
  rw [stepped] at unfinished ⊢
  cases transition with
  | missed _ => exact ⟨origin, previous, answer, slots, rest, working, inHand⟩
  | unanswered _ lookingUp | unaddressed lookingUp | answered lookingUp _
  | reused lookingUp _ _ =>
    simp [working] at lookingUp
  | started workingToo waiting =>
    cases working.symm.trans workingToo
    exact ⟨_, _, _, _, _, refreshes_withEndpoint working,
      Released.mem_endpoints_set waiting inHand⟩
  | joined _ _ =>
    rw [pending_publish] at unfinished
    exact absurd unfinished (once.notMem_tail keeps.first)
  | _ => exact absurd (fun _ own => own) elsewhere

theorem run {inputs : List Input} (keeps : Keeps pool id position) (once : Once pool id)
    (unasked : ∀ input ∈ inputs, ¬input.Asks id)
    (unfinished : id ∈ (pool.run inputs).1.pending) : Keeps (pool.run inputs).1 id position := by
  induction inputs generalizing pool with
  | nil => exact keeps
  | cons input inputs ih =>
    have unaskedLater : ∀ other ∈ inputs, ¬other.Asks id := fun other member =>
      unasked other (List.mem_cons_of_mem _ member)
    have still : id ∈ (pool.step input).1.pending := mem_pending_of_run unaskedLater unfinished
    exact ih (keeps.step once still) (once.step (unasked input List.mem_cons_self)) unaskedLater
      unfinished

/-- When the refresh comes to nothing, the schedule ends. -/
theorem ends {last : Input} (keeps : Keeps pool id position) (wellFormed : WellFormed pool)
    (unseen : Unseen pool) (once : Once pool id) (fails : Fails pool id last) :
    ∃ endpoint, (pool.step last).1.roster.get? position = some endpoint ∧
      endpoint.schedule = .none := by
  obtain ⟨kept, queued⟩ := fails.aside
  obtain ⟨_, _, _, _, _, working, inHand⟩ := keeps.inHand
  obtain ⟨_, _, found, _⟩ :=
    ipAt_of_mem_endpoints (wellFormed.fits_first working).2 inHand
  obtain ⟨before, there, _⟩ := Option.map_eq_some_iff.mp found
  obtain ⟨endpoint, foundLater, _⟩ := kept.roster.endpoints position before there
  refine ⟨endpoint, foundLater, ?_⟩
  refine kept.schedule_eq_none unseen wellFormed keeps.inService ?_ foundLater
  intro inService
  cases inService with
  | inl member => exact keeps.foreign (kept.members ▸ member)
  | inr inHandLater =>
    obtain ⟨refresh, asked, inHandLater⟩ := inHandLater
    rcases queued.origin refresh asked with earlier | waits | looksUp
    · rw [working] at earlier
      cases List.mem_cons.mp earlier with
      | inl isFirst =>
        refine fails.notMem_pending once (List.mem_map.mpr ⟨refresh, asked, ?_⟩)
        rw [isFirst]
      | inr later =>
        simp [endpoints_of_waiting (wellFormed.waiting_of_mem working later)] at inHandLater
    · simp [endpoints_of_waiting waits] at inHandLater
    · simp [endpoints_of_lookingUp looksUp] at inHandLater

end Keeps

/-! ## From the question to the failure -/

/-- A refresh that has been in the queue through some inputs and comes to nothing in the last. -/
structure Withdrawn (start : Pool) (id : Nat) (during : List Input) (last : Input) : Prop where
  alone : ∀ earlier own later, during ++ [last] = earlier ++ own :: later → own.IsBy id →
    LeavesAlone (start.run earlier).1 ((start.run earlier).1.step own).1
      ((start.run earlier).1.step own).2
  /-- From its turn on, the snapshot is the same one. -/
  same : ∀ earlier later, during ++ [last] = earlier ++ later →
    (start.run earlier).1.pending.head? = some id →
      (start.run (during ++ [last])).1.number = (start.run earlier).1.number ∧
        (start.run (during ++ [last])).1.members = (start.run earlier).1.members
  calm : Calm ((start.run during).1.step last).2
  gone : id ∉ (start.run (during ++ [last])).1.pending
  /-- Whoever has been made for it is not probed any more. -/
  ended : ∀ earlier slot now outcome later position made,
    during ++ [last] = earlier ++ .firstProbed id slot now outcome :: later →
      (start.run earlier).1.roster.get? position = none →
      ((start.run earlier).1.step (.firstProbed id slot now outcome)).1.roster.get? position =
        some made →
      ∃ endpoint, (start.run (during ++ [last])).1.roster.get? position = some endpoint ∧
        endpoint.schedule = .none

theorem split_last {α : Type} {during earlier later : List α} {own last : α}
    (split : during ++ [last] = earlier ++ own :: later) :
    (earlier = during ∧ own = last) ∨
      ∃ between, later = between ++ [last] ∧ during = earlier ++ own :: between := by
  rcases List.eq_nil_or_concat later with rfl | ⟨between, other, rfl⟩
  · obtain ⟨rfl, same⟩ := List.append_inj' split rfl
    exact .inl ⟨rfl, (List.singleton_inj.mp same).symm⟩
  · rw [List.concat_eq_append, ← List.cons_append, ← List.append_assoc] at split
    obtain ⟨rfl, same⟩ := List.append_inj' split rfl
    obtain rfl := List.singleton_inj.mp same
    exact .inr ⟨between, List.concat_eq_append, rfl⟩

variable {start : Pool} {during : List Input} {last : Input}

theorem Fails.alone {earlier later : List Input} {own : Input}
    (fails : Fails (start.run during).1 id last) (wellFormed : WellFormed start)
    (once : Once start id) (unasked : ∀ input ∈ during, ¬input.Asks id)
    (unfinished : id ∈ (start.run during).1.pending)
    (split : during ++ [last] = earlier ++ own :: later) (isOwn : own.IsBy id) :
    LeavesAlone (start.run earlier).1 ((start.run earlier).1.step own).1
      ((start.run earlier).1.step own).2 := by
  rcases split_last split with ⟨rfl, rfl⟩ | ⟨between, rfl, rfl⟩
  · exact fails.leavesAlone isOwn
  · obtain ⟨unaskedFirst, unaskedRest⟩ := List.forall_mem_append.mp unasked
    obtain ⟨_, unaskedLater⟩ := List.forall_mem_cons.mp unaskedRest
    rw [run_append] at unfinished
    exact (once.run unaskedFirst).leavesAlone (wellFormed.run earlier) isOwn
      (mem_pending_of_run unaskedLater unfinished)

theorem Fails.same {earlier later : List Input} (fails : Fails (start.run during).1 id last)
    (once : Once start id) (unasked : ∀ input ∈ during, ¬input.Asks id)
    (unfinished : id ∈ (start.run during).1.pending)
    (split : during ++ [last] = earlier ++ later)
    (first : (start.run earlier).1.pending.head? = some id) :
    (start.run (during ++ [last])).1.number = (start.run earlier).1.number ∧
      (start.run (during ++ [last])).1.members = (start.run earlier).1.members := by
  cases later with
  | nil => simp only [split, List.append_nil, and_self]
  | cons own later =>
    obtain ⟨kept, _⟩ := fails.aside
    have stays : (start.run during).1.number = (start.run earlier).1.number ∧
        (start.run during).1.members = (start.run earlier).1.members := by
      rcases split_last split with ⟨rfl, rfl⟩ | ⟨between, rfl, rfl⟩
      · exact ⟨rfl, rfl⟩
      · obtain ⟨unaskedFirst, unaskedLater⟩ := List.forall_mem_append.mp unasked
        rw [run_append] at unfinished ⊢
        exact (once.run unaskedFirst).snapshot_stays_run first unaskedLater unfinished
    rw [run_append]
    exact ⟨kept.number.trans stays.1, kept.members.trans stays.2⟩

theorem Fails.ended {earlier later : List Input} {slot now position : Nat}
    {outcome : Health.Outcome} {made : Endpoint} (fails : Fails (start.run during).1 id last)
    (wellFormed : WellFormed start) (unseen : Unseen start) (once : Once start id)
    (unasked : ∀ input ∈ during, ¬input.Asks id)
    (unfinished : id ∈ (start.run during).1.pending)
    (split : during ++ [last] = earlier ++ .firstProbed id slot now outcome :: later)
    (absent : (start.run earlier).1.roster.get? position = none)
    (found : ((start.run earlier).1.step (.firstProbed id slot now outcome)).1.roster.get?
      position = some made) :
    ∃ endpoint, (start.run (during ++ [last])).1.roster.get? position = some endpoint ∧
      endpoint.schedule = .none := by
  rcases split_last split with ⟨rfl, rfl⟩ | ⟨between, rfl, rfl⟩
  · cases fails
  · obtain ⟨unaskedFirst, unaskedRest⟩ := List.forall_mem_append.mp unasked
    obtain ⟨unaskedProbe, unaskedLater⟩ := List.forall_mem_cons.mp unaskedRest
    have inHand := Keeps.of_firstProbed (wellFormed.run earlier) absent found
    have onceLater := (once.run unaskedFirst).step unaskedProbe
    have keeps : Keeps (start.run (earlier ++ .firstProbed id slot now outcome :: between)).1 id
        position := by
      rw [run_append] at unfinished ⊢
      exact inHand.run onceLater unaskedLater unfinished
    rw [run_append]
    exact keeps.ends (wellFormed.run _) (unseen.run wellFormed _) (once.run unasked) fails

theorem withdrawn (wellFormed : WellFormed start) (unseen : Unseen start) (once : Once start id)
    (unasked : ∀ input ∈ during, ¬input.Asks id) (unfinished : id ∈ (start.run during).1.pending)
    (fails : Fails (start.run during).1 id last) : Withdrawn start id during last where
  alone _ _ _ split isOwn := fails.alone wellFormed once unasked unfinished split isOwn
  same _ _ split first := fails.same once unasked unfinished split first
  calm := fails.calm
  gone := by
    rw [run_append]
    exact fails.notMem_pending (once.run unasked)
  ended _ _ _ _ _ _ _ split absent found :=
    fails.ended wellFormed unseen once unasked unfinished split absent found

/-- A refresh that comes to nothing leaves no trace, whatever happened before it was asked for and
whatever else has happened since. If it is the first one, there is no pool. -/
theorem failed_refresh_leaves_no_trace (settings : Settings) (inputs : List Input)
    (origin : Origin) (fresh : id ∉ ((make settings).run inputs).1.pending)
    (unasked : ∀ input ∈ during, ¬input.Asks id)
    (unfinished : id ∈ ((make settings).run (inputs ++ .refresh id origin :: during)).1.pending)
    (fails : Fails ((make settings).run (inputs ++ .refresh id origin :: during)).1 id last) :
    LeavesAlone ((make settings).run inputs).1
        (((make settings).run inputs).1.step (.refresh id origin)).1
        (((make settings).run inputs).1.step (.refresh id origin)).2 ∧
      Withdrawn (((make settings).run inputs).1.step (.refresh id origin)).1 id during last ∧
      ∀ (σ : Type) (world : Timeline.World σ) (error : Resolution.LookupError),
        world.Fresh settings → world.resolver.answer = .error error →
          world.build.1 = .error error ∧ world.build.2.pool = make settings ∧
            world.build.2.ready = [] ∧ world.build.2.timers = [] := by
  have wellFormed := (WellFormed.of_make settings).run inputs
  have unseen := (Unseen.of_make settings).run (.of_make settings) inputs
  rw [run_append] at unfinished fails
  have asked : id ∈ (((make settings).run inputs).1.step (.refresh id origin)).1.pending :=
    mem_pending_of_run unasked unfinished
  refine ⟨(Once.of_absent fresh).leavesAlone wellFormed rfl asked, ?_, ?_⟩
  · exact withdrawn (wellFormed.step _) (unseen.step wellFormed _) (.of_asked fresh origin) unasked
      unfinished fails
  · intro σ world error isFresh isError
    exact Timeline.World.build_of_error isFresh isError

/-- A caller gives up a refresh that has started one of two new endpoints. -/
theorem failed_refresh_leaves_no_trace_givenUp :
    ∃ endpoint,
      ((make (probingEvery 5000)).run
        [.refresh 0 .construction, .answered 0 (.ok [.v4 ⟨10, 0, 0, 1⟩]),
          .firstProbed 0 0 3 (.status 200), .join 0, .refresh 1 .caller,
          .answered 1 (.ok [.v4 ⟨10, 0, 0, 1⟩, .v4 ⟨10, 0, 0, 2⟩, .v4 ⟨10, 0, 0, 3⟩]),
          .firstProbed 1 1 6 (.status 200), .cancel 1]).1.roster.get? 1 = some endpoint ∧
      endpoint.schedule = .none := by
  have unasked : ∀ input ∈ [Input.answered 1 (.ok [.v4 ⟨10, 0, 0, 1⟩, .v4 ⟨10, 0, 0, 2⟩,
      .v4 ⟨10, 0, 0, 3⟩]), .firstProbed 1 1 6 (.status 200)], ¬input.Asks 1 := by
    intro input member
    simp only [List.mem_cons, List.not_mem_nil, or_false] at member
    rcases member with rfl | rfl <;> exact not_false
  have traceless := failed_refresh_leaves_no_trace (probingEvery 5000)
    [.refresh 0 .construction, .answered 0 (.ok [.v4 ⟨10, 0, 0, 1⟩]),
      .firstProbed 0 0 3 (.status 200), .join 0] .caller (by decide) unasked
    (by decide) .givenUp
  obtain ⟨_, withdrawn, _⟩ := traceless
  exact withdrawn.ended [.answered 1 (.ok [.v4 ⟨10, 0, 0, 1⟩, .v4 ⟨10, 0, 0, 2⟩,
    .v4 ⟨10, 0, 0, 3⟩])] 1 6 (.status 200) [.cancel 1] 1 _ rfl rfl rfl

end OneHost.Pool
