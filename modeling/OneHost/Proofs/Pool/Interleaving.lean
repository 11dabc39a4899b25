import OneHost.Proofs.Pool.Steps

/-!
# Refreshes that wait

A refresh that is asked for while another one works has no endpoints in hand, so it makes no
difference to anything that happens. A pool with such refreshes and the pool without them do the
same steps, until the one that works is finished and the first of them begins.
-/

namespace OneHost.Pool

variable {pool : Pool} {waiting : List Refresh}

/-- The pool with more refreshes at the end of the queue. -/
def queue (pool : Pool) (waiting : List Refresh) : Pool :=
  { pool with refreshes := pool.refreshes ++ waiting }

/-- None of some refreshes has begun. -/
def Waiting (refreshes : List Refresh) : Prop :=
  ∀ refresh ∈ refreshes, refresh.phase = .waiting

/-! ## What does not depend on the refreshes that wait -/

theorem inUse_queue (waits : Waiting waiting) (position : Nat) :
    (pool.queue waiting).inUse position = pool.inUse position := by
  have unneeded : waiting.any (·.endpoints.contains position) = false := by
    apply List.any_eq_false.mpr
    intro refresh member
    simp [Refresh.endpoints, waits refresh member]
  simp only [inUse, queue, List.any_append, unneeded, Bool.or_false]

theorem disposeAt_queue (position : Nat) :
    (pool.queue waiting).disposeAt position =
      ((pool.disposeAt position).1.queue waiting, (pool.disposeAt position).2) := by
  rw [disposeAt_eq, disposeAt_eq]
  rfl

theorem disposeAll_queue (positions : List Nat) :
    (pool.queue waiting).disposeAll positions =
      ((pool.disposeAll positions).1.queue waiting, (pool.disposeAll positions).2) := by
  induction positions generalizing pool with
  | nil => rfl
  | cons position rest ih => simp only [disposeAll, disposeAt_queue, ih]

theorem removeAll_queue (positions : List Nat) :
    (pool.queue waiting).removeAll positions =
      ((pool.removeAll positions).1.queue waiting, (pool.removeAll positions).2) := by
  induction positions generalizing pool with
  | nil => rfl
  | cons position rest ih =>
    have same : (pool.queue waiting).roster = pool.roster := rfl
    cases found : pool.roster.get? position with
    | none => simp only [removeAll, same, found, ih]
    | some endpoint =>
      have sameSettings (pool : Pool) : (pool.queue waiting).settings = pool.settings := rfl
      simp only [removeAll, same, found, disposeAt_queue, ih, sameSettings]

theorem release_queue (waits : Waiting waiting) :
    (pool.queue waiting).release = (pool.release.1.queue waiting, pool.release.2) := by
  have same : (pool.queue waiting).roster = pool.roster := rfl
  simp only [release, inUse_queue waits, disposeAll_queue, same]

theorem finish_queue {refresh : Refresh} (waits : Waiting waiting)
    (working : pool.refreshes = [refresh]) (id : Nat) (origin : Origin)
    (result : Except Resolution.LookupError Summary) :
    (pool.queue waiting).finish id origin result =
      (((pool.finish id origin result).1.queue waiting).beginNext.1,
        (pool.finish id origin result).2 ++
          ((pool.finish id origin result).1.queue waiting).beginNext.2) := by
  let idle : Pool := { pool with refreshes := [] }
  have released : (idle.queue waiting).release = _ := release_queue waits
  -- Alone, nothing begins when the refresh is finished; so all that begins is among the others.
  have finished : pool.finish id origin result =
      (idle.release.1, idle.release.2 ++ .finished id result ::
        (pool.resultEvents origin result).map .log) := by
    have nothing : idle.release.1.beginNext = (idle.release.1, []) := by
      rw [release_fst]
      rfl
    simp only [finish, working, List.drop_succ_cons, List.drop_zero]
    show (idle.release.1.beginNext.1, _ ++ idle.release.1.beginNext.2) = _
    rw [nothing, List.append_nil]
  have queued : (pool.queue waiting).finish id origin result =
      ((idle.queue waiting).release.1.beginNext.1,
        (idle.queue waiting).release.2 ++ .finished id result ::
          (pool.resultEvents origin result).map .log ++
          (idle.queue waiting).release.1.beginNext.2) := by
    simp only [finish, queue, working, List.cons_append, List.nil_append, List.drop_succ_cons,
      List.drop_zero]
    rfl
  rw [queued, released, finished]

theorem refreshes_finish {refresh : Refresh} (working : pool.refreshes = [refresh]) (id : Nat)
    (origin : Origin) (result : Except Resolution.LookupError Summary) :
    (pool.finish id origin result).1.refreshes = [] := by
  rw [finish_fst]
  simp [settled, working, begun]

theorem publish_queue {refresh : Refresh} (waits : Waiting waiting)
    (working : pool.refreshes = [refresh]) (id : Nat) (origin : Origin) (previous : List Nat)
    (answer : List Ip) (slots : List Slot) :
    (pool.queue waiting).publish id origin previous answer slots =
      (((pool.publish id origin previous answer slots).1.queue waiting).beginNext.1,
        (pool.publish id origin previous answer slots).2 ++
          ((pool.publish id origin previous answer slots).1.queue waiting).beginNext.2) := by
  have stillWorking :
      ((pool.swapped slots).removeAll (pool.missing previous answer)).1.refreshes = [refresh] := by
    rw [removeAll_fst]
    exact working
  have removed :
      ((pool.swapped slots).queue waiting).removeAll (pool.missing previous answer) = _ :=
    removeAll_queue _
  have finished := finish_queue waits stillWorking id origin
    (.ok (summaryOf (pool.missing previous answer) slots))
  have swapped : (pool.queue waiting).swapped slots = (pool.swapped slots).queue waiting := rfl
  have missing : (pool.queue waiting).missing previous answer = pool.missing previous answer := rfl
  simp only [publish_eq, swapped, missing, removed, finished, List.append_assoc, List.cons_append]
  rfl

/-! ## The steps of a refresh that works alone -/

/-- At most one refresh has been asked for, and it has begun. -/
structure Alone (pool : Pool) : Prop where
  single : pool.refreshes.length ≤ 1
  begun : ∀ refresh ∈ pool.refreshes, refresh.phase ≠ .waiting

theorem Alone.cases (alone : Alone pool) :
    pool.refreshes = [] ∨
      ∃ refresh, pool.refreshes = [refresh] ∧ refresh.phase ≠ .waiting := by
  cases asked : pool.refreshes with
  | nil => exact .inl rfl
  | cons first rest =>
    have none : rest = [] := by
      have single := alone.single
      rw [asked, List.length_cons] at single
      exact List.eq_nil_of_length_eq_zero (by omega)
    subst none
    exact .inr ⟨first, rfl, alone.begun first (asked ▸ List.mem_cons_self)⟩

/-- A step does the same whether or not more refreshes wait, save that the first of them begins when
the refresh that works is finished. -/
structure Postpones (pool : Pool) (waiting : List Refresh) (input : Input) : Prop where
  step : (pool.queue waiting).step input =
    (((pool.step input).1.queue waiting).beginNext.1,
      (pool.step input).2 ++ ((pool.step input).1.queue waiting).beginNext.2)
  alone : Alone (pool.step input).1

theorem beginNext_queue (alone : Alone pool) (orderly : waiting ≠ [] → pool.refreshes ≠ []) :
    (pool.queue waiting).beginNext = (pool.queue waiting, []) := by
  rcases alone.cases with asked | ⟨⟨id, origin, phase⟩, asked, hasBegun⟩
  · have none : waiting = [] := by
      by_contra some
      exact orderly some asked
    simp [beginNext, queue, asked, none]
  · cases phase with
    | waiting => contradiction
    | lookingUp | starting _ _ _ => simp [beginNext, queue, asked]

/-- The step does not touch the refreshes. -/
theorem postpones_of_calm {input : Input} (alone : Alone pool)
    (orderly : waiting ≠ [] → pool.refreshes ≠ [])
    (same : (pool.step input).1.refreshes = pool.refreshes)
    (step : (pool.queue waiting).step input =
      ((pool.step input).1.queue waiting, (pool.step input).2)) :
    Postpones pool waiting input := by
  have stillAlone : Alone (pool.step input).1 := by
    constructor
    · rw [same]
      exact alone.single
    · rw [same]
      exact alone.begun
  refine ⟨?_, stillAlone⟩
  rw [step, beginNext_queue stillAlone fun some => same ▸ orderly some, List.append_nil]

/-- The step finishes the refresh that works. -/
theorem postpones_of_finished {input : Input}
    (finished : (pool.step input).1.refreshes = [])
    (step : (pool.queue waiting).step input =
      (((pool.step input).1.queue waiting).beginNext.1,
        (pool.step input).2 ++ ((pool.step input).1.queue waiting).beginNext.2)) :
    Postpones pool waiting input :=
  ⟨step, by simp [finished], by simp [finished]⟩

theorem refreshes_publish {refresh : Refresh} (working : pool.refreshes = [refresh]) (id : Nat)
    (origin : Origin) (previous : List Nat) (answer : List Ip) (slots : List Slot) :
    (pool.publish id origin previous answer slots).1.refreshes = [] := by
  rw [publish_fst]
  simp [settled, replaced, working, begun]

theorem setPhase_queue {refresh : Refresh} (working : pool.refreshes = [refresh]) (phase : Phase) :
    (pool.queue waiting).setPhase phase = (pool.setPhase phase).queue waiting := by
  simp [setPhase, queue, working]

/-- The refresh that works takes its answer alone. -/
theorem postpones_answered {id : Nat} {origin : Origin} (waits : Waiting waiting)
    (working : pool.refreshes = [⟨id, origin, .lookingUp⟩])
    (answer : Except Resolution.LookupError (List Ip)) :
    Postpones pool waiting (.answered id answer) := by
  have alone : pool.step (.answered id answer) = pool.takeAnswer id origin answer := by
    simp [step, working]
  have queued : (pool.queue waiting).step (.answered id answer) =
      (pool.queue waiting).takeAnswer id origin answer := by
    simp [step, queue, working]
  rcases answer with error | _ | ⟨first, answer⟩
  · refine postpones_of_finished ?_ ?_
    · rw [alone]
      exact refreshes_finish working id origin (.error error)
    · rw [alone, queued]
      exact finish_queue waits working id origin (.error error)
  · refine postpones_of_finished ?_ ?_
    · rw [alone, takeAnswer_nil]
      exact refreshes_finish working id origin
        (.ok { kept := pool.members.length, unchanged := true })
    · rw [alone, queued, takeAnswer_nil, takeAnswer_nil]
      have finished := finish_queue waits working id origin
        (.ok { kept := pool.members.length, unchanged := true })
      have sameMembers : (pool.queue waiting).members = pool.members := rfl
      simp only [sameMembers, finished]
      rfl
  · have nonempty : first :: answer ≠ [] := List.cons_ne_nil first answer
    have answered : (pool.withAnswer (first :: answer)).refreshes = [_] :=
      refreshes_withAnswer working _
    have sameAnswer : (pool.queue waiting).withAnswer (first :: answer) =
        (pool.withAnswer (first :: answer)).queue waiting :=
      setPhase_queue working _
    by_cases complete : ((first :: answer).map pool.slotFor).all (·.endpoint?.isSome) = true
    · refine postpones_of_finished ?_ ?_
      · rw [alone, takeAnswer_of_ne_nil pool id origin nonempty, if_pos complete]
        exact refreshes_publish answered ..
      · rw [alone, queued, takeAnswer_of_ne_nil _ id origin nonempty,
          takeAnswer_of_ne_nil _ id origin nonempty, if_pos complete]
        have published := publish_queue waits answered id origin pool.members (first :: answer)
          ((first :: answer).map pool.slotFor)
        rw [← sameAnswer] at published
        exact (if_pos complete).trans published
    · have stillAlone : Alone (pool.withAnswer (first :: answer)) :=
        ⟨by simp [answered], by simp [answered]⟩
      have calm : ((pool.withAnswer (first :: answer)).queue waiting).beginNext = _ :=
        beginNext_queue stillAlone fun _ => by simp [answered]
      refine ⟨?_, ?_⟩
      · rw [alone, queued, takeAnswer_of_ne_nil _ id origin nonempty,
          takeAnswer_of_ne_nil _ id origin nonempty, if_neg complete, calm, List.append_nil,
          ← sameAnswer]
        exact if_neg complete
      · rwa [alone, takeAnswer_of_ne_nil _ id origin nonempty, if_neg complete]

/-- The refresh that works takes a first probe alone. -/
theorem postpones_firstProbed {id slot now : Nat} {outcome : Health.Outcome} {origin : Origin}
    {previous : List Nat} {answer : List Ip} {slots : List Slot}
    (working : pool.refreshes = [⟨id, origin, .starting previous answer slots⟩]) :
    Postpones pool waiting (.firstProbed id slot now outcome) := by
  have alone : pool.step (.firstProbed id slot now outcome) =
      pool.takeFirstProbe previous answer slots slot now outcome := by
    simp [step, working]
  have queued : (pool.queue waiting).step (.firstProbed id slot now outcome) =
      (pool.queue waiting).takeFirstProbe previous answer slots slot now outcome := by
    simp [step, queue, working]
  have atWork : (pool.step (.firstProbed id slot now outcome)).1.refreshes.length = 1 ∧
      ∀ refresh ∈ (pool.step (.firstProbed id slot now outcome)).1.refreshes,
        refresh.phase ≠ .waiting := by
    rw [alone]
    simp only [takeFirstProbe]
    split <;> simp [setPhase, working]
  have stillAlone : Alone (pool.step (.firstProbed id slot now outcome)).1 :=
    ⟨Nat.le_of_eq atWork.1, atWork.2⟩
  refine ⟨?_, stillAlone⟩
  rw [beginNext_queue stillAlone fun _ => List.ne_nil_of_length_eq_add_one atWork.1, alone, queued,
    List.append_nil]
  simp only [takeFirstProbe]
  split
  · simp [setPhase, queue, working]
  · rfl

/-- The refresh that works publishes alone. -/
theorem postpones_join {id : Nat} {origin : Origin} {previous : List Nat} {answer : List Ip}
    {slots : List Slot} (waits : Waiting waiting) (alone : Alone pool)
    (orderly : waiting ≠ [] → pool.refreshes ≠ [])
    (working : pool.refreshes = [⟨id, origin, .starting previous answer slots⟩]) :
    Postpones pool waiting (.join id) := by
  have unqueued : pool.step (.join id) =
      pool.publishIfComplete id origin previous answer slots := by
    simp [step, working]
  have queued : (pool.queue waiting).step (.join id) =
      (pool.queue waiting).publishIfComplete id origin previous answer slots := by
    simp [step, queue, working]
  by_cases complete : slots.all (·.endpoint?.isSome) = true
  · refine postpones_of_finished ?_ ?_
    · rw [unqueued, publishIfComplete, if_pos complete]
      exact refreshes_publish working ..
    · rw [unqueued, queued, publishIfComplete, publishIfComplete, if_pos complete, if_pos complete]
      exact publish_queue waits working ..
  · refine postpones_of_calm alone orderly ?_ ?_
    · rw [unqueued, publishIfComplete, if_neg complete]
    · rw [unqueued, queued, publishIfComplete, publishIfComplete, if_neg complete, if_neg complete]

/-- The inputs by which refreshes are asked for. -/
def Input.asks : Input → Bool
  | .refresh _ _ => true
  | _ => false

/-- The inputs by which refreshes are given up before they are finished. -/
def Input.givesUp : Input → Bool
  | .cancel _ | .stopped => true
  | _ => false

/-- Whatever happens to the refresh that works, the others need not have been asked for yet. -/
theorem postpones {input : Input} (waits : Waiting waiting) (alone : Alone pool)
    (orderly : waiting ≠ [] → pool.refreshes ≠ []) (other : input.asks = false)
    (stays : input.givesUp = false) : Postpones pool waiting input := by
  have idle (input : Input) (unqueued : pool.step input = (pool, []))
      (queued : (pool.queue waiting).step input = (pool.queue waiting, [])) :
      Postpones pool waiting input :=
    postpones_of_calm alone orderly (by rw [unqueued]) (by rw [unqueued, queued])
  have noneWait (asked : pool.refreshes = []) : waiting = [] := by
    by_contra some
    exact orderly some asked
  have sameRoster : (pool.queue waiting).roster = pool.roster := rfl
  cases input with
  | refresh id origin => contradiction
  | cancel id => contradiction
  | stopped => contradiction
  | answered id answer =>
    rcases alone.cases with asked | ⟨⟨first, origin, phase⟩, asked, hasBegun⟩
    · exact idle _ (by simp [step, asked]) (by simp [step, queue, asked, noneWait asked])
    · by_cases own : first = id
      · subst own
        cases phase with
        | waiting => contradiction
        | lookingUp => exact postpones_answered waits asked answer
        | starting _ _ _ => exact idle _ (by simp [step, asked]) (by simp [step, queue, asked])
      · cases phase <;>
          exact idle _ (by simp [step, asked, own]) (by simp [step, queue, asked, own])
  | firstProbed id slot now outcome =>
    rcases alone.cases with asked | ⟨⟨first, origin, phase⟩, asked, hasBegun⟩
    · exact idle _ (by simp [step, asked]) (by simp [step, queue, asked, noneWait asked])
    · by_cases own : first = id
      · subst own
        cases phase with
        | waiting => contradiction
        | lookingUp => exact idle _ (by simp [step, asked]) (by simp [step, queue, asked])
        | starting _ _ _ => exact postpones_firstProbed asked
      · cases phase <;>
          exact idle _ (by simp [step, asked, own]) (by simp [step, queue, asked, own])
  | join id =>
    rcases alone.cases with asked | ⟨⟨first, origin, phase⟩, asked, hasBegun⟩
    · exact idle _ (by simp [step, asked]) (by simp [step, queue, asked, noneWait asked])
    · by_cases own : first = id
      · subst own
        cases phase with
        | waiting => contradiction
        | lookingUp => exact idle _ (by simp [step, asked]) (by simp [step, queue, asked])
        | starting _ _ _ => exact postpones_join waits alone orderly asked
      · cases phase <;>
          exact idle _ (by simp [step, asked, own]) (by simp [step, queue, asked, own])
  | due position | probed position now outcome =>
    cases found : pool.roster.get? position with
    | none => exact idle _ (by simp [step, found]) (by simp [step, sameRoster, found])
    | some endpoint =>
      refine postpones_of_calm alone orderly ?_ ?_
      · simp only [step, found]
        split <;> rfl
      · simp only [step, sameRoster, found]
        split <;> rfl
  | setHealthy position healthy => exact postpones_of_calm alone orderly rfl rfl
  | next => exact postpones_of_calm alone orderly rfl rfl
  | hold => exact postpones_of_calm alone orderly rfl rfl
  | keepRefreshing => exact postpones_of_calm alone orderly rfl rfl
  | letGo =>
    refine postpones_of_calm alone orderly (by simp only [step, release_fst]) ?_
    let freed : Pool := { pool with held := [] }
    have released : (freed.queue waiting).release = _ := release_queue waits
    exact released
  | dispose position =>
    exact postpones_of_calm alone orderly (by simp only [step, disposeAt_eq])
      (disposeAt_queue position)
  | shutDown =>
    refine postpones_of_calm alone orderly (by simp only [step, disposeAll_fst]) ?_
    let told : Pool := { pool with upkeep := pool.upkeep.toStop }
    have disposed : (told.queue waiting).disposeAll pool.members = _ := disposeAll_queue _
    let asked : List Effect := if pool.upkeep = .going then [.stop] else []
    exact congrArg (fun ended => (ended.1,
      asked ++ ended.2 ++ [.log (.poolShutDown pool.settings.hostname)])) disposed

/-- A pool refreshes itself until its refreshes have come to their stop. -/
theorem refreshing_step {input : Input} (stays : input.givesUp = false)
    (refreshing : pool.refreshing = true) : (pool.step input).1.refreshing = true := by
  rw [refreshing_iff] at refreshing ⊢
  rw [upkeep_step]
  apply Input.upkeep_ne_none refreshing
  rintro rfl
  contradiction

end OneHost.Pool
