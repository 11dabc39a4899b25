import OneHost.Proofs.Pool.WellFormed

/-!
# Whose turn it is to refresh

Refreshes wait for one another in the order in which they were asked for, and leave the queue when
they are finished or given up. The first of them stays the first until it leaves, and as long as it
stays, the snapshot stays as it is.
-/

namespace OneHost.Pool

variable {pool : Pool} {id : Nat}

/-- The number of a refresh and who asked for it. -/
def Refresh.asker (refresh : Refresh) : Nat × Origin :=
  (refresh.id, refresh.origin)

/-- Who asked for the refreshes that work or wait, in their order. -/
def askers (pool : Pool) : List (Nat × Origin) :=
  pool.refreshes.map Refresh.asker

/-- The refreshes that work or wait, in their order. -/
def pending (pool : Pool) : List Nat :=
  pool.refreshes.map Refresh.id

theorem pending_eq (pool : Pool) : pool.pending = pool.askers.map Prod.fst := by
  rw [askers, List.map_map]
  rfl

@[simp] theorem map_asker_begun (refreshes : List Refresh) :
    (begun refreshes).map Refresh.asker = refreshes.map Refresh.asker := by
  unfold begun
  split <;> rfl

@[simp] theorem map_id_begun (refreshes : List Refresh) :
    (begun refreshes).map Refresh.id = refreshes.map Refresh.id := by
  have same := congrArg (List.map Prod.fst) (map_asker_begun refreshes)
  rwa [List.map_map, List.map_map] at same

@[simp] theorem askers_settled (pool : Pool) : pool.settled.askers = pool.askers :=
  map_asker_begun pool.refreshes

@[simp] theorem askers_finish (pool : Pool) (id : Nat) (origin : Origin)
    (result : Except Resolution.LookupError Summary) :
    (pool.finish id origin result).1.askers = pool.askers.tail := by
  rw [finish_fst, askers_settled]
  simp [askers]

@[simp] theorem askers_publish (pool : Pool) (id : Nat) (origin : Origin) (previous : List Nat)
    (answer : List Ip) (slots : List Slot) :
    (pool.publish id origin previous answer slots).1.askers = pool.askers.tail := by
  rw [publish_fst, askers_settled]
  simp [askers, replaced]

@[simp] theorem askers_setPhase (pool : Pool) (phase : Phase) :
    (pool.setPhase phase).askers = pool.askers := by
  unfold askers setPhase
  split <;> simp [*, Refresh.asker]

theorem askers_cancel (pool : Pool) (gone : Refresh → Bool) :
    (pool.cancel gone).1.askers =
      (pool.refreshes.filter fun refresh => !gone refresh).map Refresh.asker := by
  rw [cancel_fst, askers_settled]
  rfl

theorem askers_cancel_sublist (pool : Pool) (gone : Refresh → Bool) :
    (pool.cancel gone).1.askers.Sublist pool.askers := by
  rw [askers_cancel]
  exact List.filter_sublist.map _

@[simp] theorem pending_finish (pool : Pool) (id : Nat) (origin : Origin)
    (result : Except Resolution.LookupError Summary) :
    (pool.finish id origin result).1.pending = pool.pending.tail := by
  rw [pending_eq, askers_finish, List.map_tail, pending_eq]

@[simp] theorem pending_publish (pool : Pool) (id : Nat) (origin : Origin) (previous : List Nat)
    (answer : List Ip) (slots : List Slot) :
    (pool.publish id origin previous answer slots).1.pending = pool.pending.tail := by
  rw [pending_eq, askers_publish, List.map_tail, pending_eq]

@[simp] theorem pending_setPhase (pool : Pool) (phase : Phase) :
    (pool.setPhase phase).pending = pool.pending := by
  rw [pending_eq, askers_setPhase, pending_eq]

theorem pending_cancel (pool : Pool) (gone : Refresh → Bool) :
    (pool.cancel gone).1.pending =
      (pool.refreshes.filter fun refresh => !gone refresh).map Refresh.id := by
  rw [pending_eq, askers_cancel, List.map_map]
  rfl

/-- The queue gets longer only at its end, and only by what is asked for. -/
theorem askers_step_sublist (pool : Pool) (input : Input) :
    ∃ more, (∀ asker ∈ more, input = .refresh asker.1 asker.2 ∧
        (asker.2 = .schedule → pool.refreshing = true)) ∧
      (pool.step input).1.askers.Sublist (pool.askers ++ more) := by
  obtain ⟨after, effects, stepped, transition⟩ := exists_transition pool input
  have fewer (sublist : after.askers.Sublist pool.askers) :
      ∃ more, (∀ asker ∈ more, input = .refresh asker.1 asker.2 ∧
          (asker.2 = .schedule → pool.refreshing = true)) ∧
        after.askers.Sublist (pool.askers ++ more) :=
    ⟨[], List.forall_mem_nil _, by rwa [List.append_nil]⟩
  rw [stepped]
  cases transition with
  | asked id origin accepted =>
    exact ⟨[(id, origin)], List.forall_mem_singleton.mpr ⟨rfl, accepted⟩,
      by simp [askers, Refresh.asker]⟩
  | unanswered _ _ => exact fewer ((askers_finish ..).symm ▸ List.tail_sublist _)
  | unaddressed _ =>
    refine fewer ?_
    rw [takeAnswer_nil, askers_finish]
    exact List.tail_sublist _
  | reused _ _ _ =>
    refine fewer ?_
    rw [askers_publish, withAnswer, askers_setPhase]
    exact List.tail_sublist _
  | joined _ _ => exact fewer ((askers_publish ..).symm ▸ List.tail_sublist _)
  | answered _ _ | started _ _ => exact fewer ((askers_setPhase ..).symm ▸ .refl _)
  | cancelled _ | stopped _ => exact fewer (askers_cancel_sublist ..)
  | letGo =>
    refine fewer ?_
    rw [release_fst]
    exact .refl _
  | missed _ | due _ _ | probed _ _ | setHealthy _ _ | next | hold | dispose _ | keepRefreshing
  | shutDown => exact fewer (.refl _)

/-- When the pool's own refreshes have come to their stop, none of them is left. -/
theorem mem_askers_of_stopped {asker : Nat × Origin} (told : pool.upkeep = .stopping)
    (waits : asker ∈ (pool.step .stopped).1.askers) :
    asker ∈ pool.askers ∧ asker.2 ≠ .schedule := by
  have stopped : pool.step .stopped = pool.halted := if_pos told
  rw [stopped, halted, askers_cancel] at waits
  obtain ⟨refresh, stays, rfl⟩ := List.mem_map.mp waits
  obtain ⟨asked, foreign⟩ := List.mem_filter.mp stays
  exact ⟨List.mem_map_of_mem asked, by simpa [Refresh.asker] using foreign⟩

/-- A step asks for a refresh. -/
def Input.Asks (id : Nat) : Input → Prop
  | .refresh other _ => other = id
  | _ => False

theorem pending_step_sublist (pool : Pool) (input : Input) :
    ∃ more, (∀ id ∈ more, input.Asks id) ∧
      (pool.step input).1.pending.Sublist (pool.pending ++ more) := by
  obtain ⟨more, asked, sublist⟩ := askers_step_sublist pool input
  refine ⟨more.map Prod.fst, ?_, ?_⟩
  · intro id among
    obtain ⟨asker, isAsker, rfl⟩ := List.mem_map.mp among
    rw [(asked asker isAsker).1]
    rfl
  · rw [pending_eq, pending_eq, ← List.map_append]
    exact sublist.map Prod.fst

/-! ## One refresh in the queue -/

/-- A refresh is in the queue at most once. -/
def Once (pool : Pool) (id : Nat) : Prop :=
  pool.pending.count id ≤ 1

theorem Once.of_absent (absent : id ∉ pool.pending) : Once pool id := by
  rw [Once, List.count_eq_zero_of_not_mem absent]
  exact Nat.zero_le 1

theorem Once.of_asked (absent : id ∉ pool.pending) (origin : Origin) :
    Once (pool.step (.refresh id origin)).1 id := by
  simp only [Pool.step]
  split
  · exact of_absent absent
  · have none := List.count_eq_zero_of_not_mem absent
    rw [pending] at none
    rw [Once, beginNext_fst]
    simp [pending, none]

theorem Once.step {input : Input} (once : Once pool id) (unasked : ¬input.Asks id) :
    Once (pool.step input).1 id := by
  obtain ⟨more, asked, sublist⟩ := pending_step_sublist pool input
  have absent : id ∉ more := fun member => unasked (asked id member)
  calc (pool.step input).1.pending.count id
    _ ≤ (pool.pending ++ more).count id := sublist.count_le id
    _ = pool.pending.count id := by simp [List.count_eq_zero_of_not_mem absent]
    _ ≤ 1 := once

theorem Once.run {inputs : List Input} (once : Once pool id)
    (unasked : ∀ input ∈ inputs, ¬input.Asks id) : Once (pool.run inputs).1 id := by
  have kept (pool : Pool) (input : Input) (member : input ∈ inputs) (once : Once pool id) :
      Once (pool.step input).1 id := once.step (unasked input member)
  exact run_invariant kept once

theorem Once.notMem_tail (once : Once pool id) (first : pool.pending.head? = some id) :
    id ∉ pool.pending.tail := by
  obtain ⟨rest, queue⟩ := List.head?_eq_some_iff.mp first
  rw [Once, queue, List.count_cons_self] at once
  rw [queue, List.tail_cons]
  exact List.count_eq_zero.mp (by omega)

theorem eq_of_count_le_one {refreshes : List Refresh} {first second : Refresh}
    (once : (refreshes.map Refresh.id).count id ≤ 1) (memberFirst : first ∈ refreshes)
    (memberSecond : second ∈ refreshes) (isFirst : first.id = id) (isSecond : second.id = id) :
    first = second := by
  induction refreshes with
  | nil => simp at memberFirst
  | cons refresh rest ih =>
    have alone (isOwn : refresh.id = id) {other : Refresh} (later : other ∈ rest) :
        other.id ≠ id := by
      rw [List.map_cons, isOwn, List.count_cons_self] at once
      intro isOther
      have absent : id ∉ rest.map Refresh.id := List.count_eq_zero.mp (by omega)
      exact absent (isOther ▸ List.mem_map_of_mem later)
    cases List.mem_cons.mp memberFirst with
    | inl headFirst =>
      cases List.mem_cons.mp memberSecond with
      | inl headSecond => rw [headFirst, headSecond]
      | inr laterSecond => exact absurd isSecond (alone (headFirst ▸ isFirst) laterSecond)
    | inr laterFirst =>
      cases List.mem_cons.mp memberSecond with
      | inl headSecond => exact absurd isFirst (alone (headSecond ▸ isSecond) laterFirst)
      | inr laterSecond =>
        have onceLater : (rest.map Refresh.id).count id ≤ 1 :=
          Nat.le_trans ((List.sublist_cons_self _ _).count_le id) once
        exact ih onceLater laterFirst laterSecond

/-- Whoever is in the queue later, without being asked for again, is there before. -/
theorem mem_pending_of_step {input : Input} (unasked : ¬input.Asks id)
    (unfinished : id ∈ (pool.step input).1.pending) : id ∈ pool.pending := by
  obtain ⟨more, asked, sublist⟩ := pending_step_sublist pool input
  cases List.mem_append.mp (sublist.mem unfinished) with
  | inl before => exact before
  | inr new => exact absurd (asked id new) unasked

theorem mem_pending_of_run {inputs : List Input} (unasked : ∀ input ∈ inputs, ¬input.Asks id)
    (unfinished : id ∈ (pool.run inputs).1.pending) : id ∈ pool.pending := by
  induction inputs generalizing pool with
  | nil => exact unfinished
  | cons input inputs ih =>
    have afterFirst := ih (fun other member => unasked other (List.mem_cons_of_mem _ member))
      unfinished
    exact mem_pending_of_step (unasked input List.mem_cons_self) afterFirst

theorem head?_of_sublist {first : Nat} {rest part : List Nat} (sublist : part.Sublist (first :: rest))
    (member : first ∈ part) (once : first ∉ rest) : part.head? = some first := by
  cases sublist with
  | cons _ skipped => exact absurd (skipped.mem member) once
  | cons_cons _ _ => rfl

/-- Whoever is first stays first until it leaves. -/
theorem Once.first_step {input : Input} (once : Once pool id)
    (first : pool.pending.head? = some id) (unasked : ¬input.Asks id)
    (unfinished : id ∈ (pool.step input).1.pending) :
    (pool.step input).1.pending.head? = some id := by
  obtain ⟨more, asked, sublist⟩ := pending_step_sublist pool input
  have later := once.notMem_tail first
  obtain ⟨rest, queue⟩ := List.head?_eq_some_iff.mp first
  rw [queue] at sublist later
  refine head?_of_sublist sublist unfinished fun member => ?_
  cases List.mem_append.mp member with
  | inl waits => exact later waits
  | inr new => exact unasked (asked id new)

/-- As long as the first refresh stays, no one replaces the snapshot. -/
theorem Once.snapshot_stays {input : Input} (once : Once pool id)
    (first : pool.pending.head? = some id) (unfinished : id ∈ (pool.step input).1.pending) :
    (pool.step input).1.number = pool.number ∧ (pool.step input).1.members = pool.members := by
  obtain ⟨after, effects, stepped, acts⟩ := exists_acts pool input
  rw [stepped] at unfinished ⊢
  cases acts with
  | aside kept _ _ => exact ⟨kept.number, kept.members⟩
  | answered _ _ | started _ _ _ => exact ⟨rfl, rfl⟩
  | reused _ _ _ =>
    rw [pending_publish, withAnswer, pending_setPhase] at unfinished
    exact absurd unfinished (once.notMem_tail first)
  | joined _ _ =>
    rw [pending_publish] at unfinished
    exact absurd unfinished (once.notMem_tail first)

theorem Once.snapshot_stays_run {inputs : List Input} (once : Once pool id)
    (first : pool.pending.head? = some id) (unasked : ∀ input ∈ inputs, ¬input.Asks id)
    (unfinished : id ∈ (pool.run inputs).1.pending) :
    (pool.run inputs).1.number = pool.number ∧ (pool.run inputs).1.members = pool.members := by
  induction inputs generalizing pool with
  | nil => exact ⟨rfl, rfl⟩
  | cons input inputs ih =>
    have unaskedFirst := unasked input List.mem_cons_self
    have unaskedLater : ∀ other ∈ inputs, ¬other.Asks id := fun other member =>
      unasked other (List.mem_cons_of_mem _ member)
    have still : id ∈ (pool.step input).1.pending := mem_pending_of_run unaskedLater unfinished
    obtain ⟨sameNumber, sameMembers⟩ := once.snapshot_stays first still
    obtain ⟨number, members⟩ := ih (once.step unaskedFirst)
      (once.first_step first unaskedFirst still) unaskedLater unfinished
    exact ⟨number.trans sameNumber, members.trans sameMembers⟩

end OneHost.Pool
