import Mathlib.Data.List.Basic
import OneHost.Pool.Step

/-!
# What ending schedules comes to

The pool ends schedules one endpoint at a time. All that comes of it is said here in one piece: the
roster has lost the schedules at some positions, and nothing else of the pool has changed.
-/

namespace OneHost.Pool

namespace Roster

variable {roster : Roster} {gone more : Nat → Bool} {position : Nat}

/-- The roster without the schedules at some positions. -/
def disposed (roster : Roster) (gone : Nat → Bool) : Roster :=
  { roster with
    endpoints := roster.endpoints.mapIdx fun position endpoint =>
      if gone position then endpoint.unscheduled else endpoint }

theorem get?_disposed (roster : Roster) (gone : Nat → Bool) (position : Nat) :
    (roster.disposed gone).get? position =
      (roster.get? position).map fun endpoint =>
        if gone position then endpoint.unscheduled else endpoint := by
  simp [get?, disposed]

@[simp] theorem rotation_disposed (roster : Roster) (gone : Nat → Bool) :
    (roster.disposed gone).rotation = roster.rotation := rfl

@[simp] theorem length_disposed (roster : Roster) (gone : Nat → Bool) :
    (roster.disposed gone).endpoints.length = roster.endpoints.length := by
  simp [disposed]

/-- A roster is known by its rotation and by what is at each position. -/
theorem ext_get? {left right : Roster} (rotationEqual : left.rotation = right.rotation)
    (equalAt : ∀ position, left.get? position = right.get? position) : left = right := by
  obtain ⟨leftEndpoints, leftRotation⟩ := left
  rcases right with ⟨rightEndpoints, rightRotation⟩
  have endpointsEqual : leftEndpoints = rightEndpoints := List.ext_getElem? equalAt
  simp only at rotationEqual
  rw [endpointsEqual, rotationEqual]

theorem lt_length_of_get? {endpoint : Endpoint} (found : roster.get? position = some endpoint) :
    position < roster.endpoints.length :=
  (List.getElem?_eq_some_iff.mp found).1

/-- Only the positions of endpoints that have a schedule matter. -/
theorem disposed_congr
    (agree : ∀ position endpoint, roster.get? position = some endpoint →
      endpoint.schedule ≠ .none → gone position = more position) :
    roster.disposed gone = roster.disposed more := by
  refine ext_get? rfl fun position => ?_
  rw [get?_disposed, get?_disposed]
  cases found : roster.get? position with
  | none => rfl
  | some endpoint =>
    by_cases scheduled : endpoint.schedule = .none
    · have same : endpoint.unscheduled = endpoint := by
        obtain ⟨address, healthUri, health, schedule⟩ := endpoint
        simp_all [Endpoint.unscheduled]
      simp [same]
    · simp [agree position endpoint found scheduled]

@[simp] theorem disposed_false (roster : Roster) :
    roster.disposed (fun _ => false) = roster :=
  ext_get? rfl fun position => by simp [get?_disposed]

theorem disposed_disposed (roster : Roster) (gone more : Nat → Bool) :
    (roster.disposed gone).disposed more =
      roster.disposed fun position => gone position || more position := by
  refine ext_get? rfl fun position => ?_
  simp only [get?_disposed, Option.map_map]
  apply Option.map_congr
  intro endpoint _
  cases gone position <;> cases more position <;> simp

/-- Nothing changes where there is no schedule. -/
theorem disposed_eq_self
    (unscheduled : ∀ position endpoint, roster.get? position = some endpoint →
      gone position = true → endpoint.schedule = .none) :
    roster.disposed gone = roster := by
  have same : roster.disposed gone = roster.disposed fun _ => false := by
    apply disposed_congr
    intro position endpoint found scheduled
    cases ended : gone position with
    | false => rfl
    | true => exact absurd (unscheduled position endpoint found ended) scheduled
  rw [same, disposed_false]

end Roster

variable (pool : Pool)

/-- What is reported when the schedule at a position ends. -/
def disposal (position : Nat) : List Effect :=
  match pool.roster.get? position with
  | none => []
  | some endpoint => endpoint.dispose.2.map .log

theorem disposeAt_eq (position : Nat) :
    pool.disposeAt position =
      ({ pool with roster := pool.roster.disposed (· == position) }, pool.disposal position) := by
  unfold disposeAt disposal
  cases found : pool.roster.get? position with
  | none =>
    have same : pool.roster.disposed (· == position) = pool.roster := by
      apply Roster.disposed_eq_self
      intro other endpoint foundOther equal
      simp_all
    simp [same]
  | some endpoint =>
    have same : pool.roster.modify position (fun _ => endpoint.unscheduled) =
        pool.roster.disposed (· == position) := by
      refine Roster.ext_get? rfl fun other => ?_
      rw [Roster.get?_modify, Roster.get?_disposed]
      by_cases equal : position = other
      · subst equal
        simp [found]
      · simp [equal, Ne.symm equal]
    simp [same]

theorem disposeAll_fst (positions : List Nat) :
    (pool.disposeAll positions).1 =
      { pool with roster := pool.roster.disposed fun position => position ∈ positions } := by
  induction positions generalizing pool with
  | nil => simp [disposeAll]
  | cons position rest ih =>
    simp [disposeAll, ih, disposeAt_eq, Roster.disposed_disposed, Bool.beq_eq_decide_eq]

/-- Nothing is reported but what is logged. -/
def Quiet (effects : List Effect) : Prop :=
  ∀ effect ∈ effects, ∃ event, effect = .log event

theorem quiet_disposal (position : Nat) : Quiet (pool.disposal position) := by
  intro effect reported
  unfold disposal at reported
  cases found : pool.roster.get? position with
  | none => simp [found] at reported
  | some endpoint =>
    simp only [found, List.mem_map] at reported
    rcases reported with ⟨event, _, equal⟩
    exact ⟨event, equal.symm⟩

theorem quiet_disposeAll (positions : List Nat) : Quiet (pool.disposeAll positions).2 := by
  induction positions generalizing pool with
  | nil => simp [disposeAll, Quiet]
  | cons position rest ih =>
    intro effect reported
    simp only [disposeAll, disposeAt_eq, List.mem_append] at reported
    rcases reported with first | later
    · exact quiet_disposal pool position effect first
    · exact ih _ effect later

theorem disposeAll_of_unscheduled (positions : List Nat)
    (unscheduled : ∀ position ∈ positions, ∀ endpoint,
      pool.roster.get? position = some endpoint → endpoint.schedule = .none) :
    pool.disposeAll positions = (pool, []) := by
  induction positions with
  | nil => rfl
  | cons position rest ih =>
    have first : pool.disposeAt position = (pool, []) := by
      have same : pool.roster.disposed (· == position) = pool.roster := by
        apply Roster.disposed_eq_self
        intro other endpoint found equal
        simp only [beq_iff_eq] at equal
        subst equal
        exact unscheduled other List.mem_cons_self endpoint found
      have silent : pool.disposal position = [] := by
        unfold disposal
        cases found : pool.roster.get? position with
        | none => rfl
        | some endpoint =>
          simp [Endpoint.dispose_snd, unscheduled position List.mem_cons_self endpoint found]
      rw [disposeAt_eq, same, silent]
    have later := ih fun other member => unscheduled other (List.mem_cons_of_mem _ member)
    simp [disposeAll, first, later]

/-! ## Endpoints that are no longer in use -/

theorem release_fst :
    pool.release.1 =
      { pool with roster := pool.roster.disposed fun position => !pool.inUse position } := by
  rw [release, disposeAll_fst]
  congr 1
  apply Roster.disposed_congr
  intro position endpoint found _
  simp [Roster.lt_length_of_get? found]

theorem quiet_release : Quiet pool.release.2 :=
  quiet_disposeAll pool _

theorem release_of_unscheduled
    (unscheduled : ∀ position endpoint, pool.roster.get? position = some endpoint →
      pool.inUse position = false → endpoint.schedule = .none) :
    pool.release = (pool, []) := by
  apply disposeAll_of_unscheduled pool _
  intro position unused endpoint found
  simp only [List.mem_filter, Bool.not_eq_eq_eq_not, Bool.not_true] at unused
  exact unscheduled position endpoint found unused.2

/-! ## Endpoints that are removed for good -/

theorem removeAll_fst (positions : List Nat) :
    (pool.removeAll positions).1 =
      { pool with roster := pool.roster.disposed fun position => position ∈ positions } := by
  induction positions generalizing pool with
  | nil => simp [removeAll]
  | cons position rest ih =>
    unfold removeAll
    cases found : pool.roster.get? position with
    | none =>
      simp only [ih]
      congr 1
      apply Roster.disposed_congr
      intro other endpoint foundOther _
      have different : other ≠ position := by
        rintro rfl
        simp [found] at foundOther
      simp [different]
    | some endpoint =>
      simp [disposeAt_eq, ih, Roster.disposed_disposed, Bool.beq_eq_decide_eq]

/-- All that is asked of the world when the endpoint at a position is removed. -/
def removal (position : Nat) : List Effect :=
  match pool.roster.get? position with
  | none => []
  | some endpoint =>
    endpoint.dispose.2.map .log ++
      [.evict endpoint.address, .log (.endpointRemoved pool.settings.hostname endpoint.address)]

theorem removeAll_snd (positions : List Nat) (distinct : positions.Nodup) :
    (pool.removeAll positions).2 = positions.flatMap pool.removal := by
  induction positions generalizing pool with
  | nil => rfl
  | cons position rest ih =>
    obtain ⟨fresh, distinct⟩ := List.nodup_cons.mp distinct
    unfold removeAll
    cases found : pool.roster.get? position with
    | none => simp [ih _ distinct, removal, found]
    | some endpoint =>
      -- What is asked at the other positions does not depend on this one.
      have unaffected :
          rest.flatMap (removal { pool with roster := pool.roster.disposed (· == position) }) =
            rest.flatMap pool.removal := by
        apply List.flatMap_congr
        intro other member
        have different : other ≠ position := fun equal => fresh (equal ▸ member)
        simp [removal, Roster.get?_disposed, different]
      simp [disposeAt_eq, ih _ distinct, removeAll_fst, unaffected, removal, disposal, found]

end OneHost.Pool
