import OneHost.Proofs.Pool.Parts

/-!
# Every transition by itself

An input either does not fit the state of the pool, and changes nothing, or it does just one thing.
`Transition` lists these, input by input, with what makes an input fit; facts about single inputs are
read off the list instead of the step.
-/

namespace OneHost.Pool

/-- An input that does not fit: the refresh or the schedule that it is meant for does not wait for
it, or the pool's own refreshes were not told to stop. -/
def Input.Misses (pool : Pool) : Input → Prop
  | .due position => ∀ endpoint, pool.roster.get? position = some endpoint →
      endpoint.schedule ≠ .waiting
  | .probed position _ _ => ∀ endpoint, pool.roster.get? position = some endpoint →
      endpoint.schedule ≠ .probing
  | .stopped => pool.upkeep ≠ .stopping
  | .refresh _ _ | .answered _ _ | .firstProbed _ _ _ _ | .join _ => True
  | _ => False

/-- The pool once its own refreshes have come to their stop. -/
def halted (pool : Pool) : Pool × List Effect :=
  cancel { pool with upkeep := .none } (·.origin == .schedule)

/-- The pool once it is shut down, while its own refreshes may still go on. -/
def dismissed (pool : Pool) : Pool :=
  { pool with
    roster := pool.roster.disposed fun position => position ∈ pool.members
    upkeep := pool.upkeep.toStop }

/-- What a step does. -/
inductive Transition (pool : Pool) : Input → Pool → List Effect → Prop
  | missed {input : Input} (misses : input.Misses pool) : Transition pool input pool []
  /-- A refresh is asked for; the pool does so itself only as long as it goes on refreshing. -/
  | asked (id : Nat) (origin : Origin) (accepted : origin = .schedule → pool.refreshing = true) :
      Transition pool (.refresh id origin)
        { pool with refreshes := begun (pool.refreshes ++ [⟨id, origin, .waiting⟩]) }
        (beginNext { pool with refreshes := pool.refreshes ++ [⟨id, origin, .waiting⟩] }).2
  /-- The lookup of the first refresh has failed. -/
  | unanswered {id : Nat} {origin : Origin} {rest : List Refresh} (error : Resolution.LookupError)
      (lookingUp : pool.refreshes = ⟨id, origin, .lookingUp⟩ :: rest) :
      Transition pool (.answered id (.error error)) (pool.finish id origin (.error error)).1
        (pool.finish id origin (.error error)).2
  /-- The resolver has no addresses for the first refresh. -/
  | unaddressed {id : Nat} {origin : Origin} {rest : List Refresh}
      (lookingUp : pool.refreshes = ⟨id, origin, .lookingUp⟩ :: rest) :
      Transition pool (.answered id (.ok [])) (pool.takeAnswer id origin (.ok [])).1
        (pool.takeAnswer id origin (.ok [])).2
  /-- The first refresh has endpoints to start. -/
  | answered {id : Nat} {origin : Origin} {rest : List Refresh} {answer : List Ip}
      (lookingUp : pool.refreshes = ⟨id, origin, .lookingUp⟩ :: rest) (nonempty : answer ≠ []) :
      Transition pool (.answered id (.ok answer)) (pool.withAnswer answer)
        (starts id (answer.map pool.slotFor))
  /-- The first refresh has nothing to start, and publishes. -/
  | reused {id : Nat} {origin : Origin} {rest : List Refresh} {answer : List Ip}
      (lookingUp : pool.refreshes = ⟨id, origin, .lookingUp⟩ :: rest) (nonempty : answer ≠ [])
      (complete : (answer.map pool.slotFor).all (·.endpoint?.isSome) = true) :
      Transition pool (.answered id (.ok answer))
        ((pool.withAnswer answer).publish id origin pool.members answer
          (answer.map pool.slotFor)).1
        ((pool.withAnswer answer).publish id origin pool.members answer
          (answer.map pool.slotFor)).2
  | started {id slot now : Nat} {outcome : Health.Outcome} {origin : Origin} {rest : List Refresh}
      {previous : List Nat} {answer : List Ip} {slots : List Slot} {ip : Ip}
      (working : pool.refreshes = ⟨id, origin, .starting previous answer slots⟩ :: rest)
      (waiting : slots[slot]? = some (.starting ip)) :
      Transition pool (.firstProbed id slot now outcome)
        (pool.withEndpoint previous answer slots slot (pool.probedEndpoint ip now outcome))
        (pool.takeFirstProbe previous answer slots slot now outcome).2
  /-- The first refresh has all of its endpoints, and publishes. -/
  | joined {id : Nat} {origin : Origin} {rest : List Refresh} {previous : List Nat}
      {answer : List Ip} {slots : List Slot}
      (working : pool.refreshes = ⟨id, origin, .starting previous answer slots⟩ :: rest)
      (complete : slots.all (·.endpoint?.isSome) = true) :
      Transition pool (.join id) (pool.publish id origin previous answer slots).1
        (pool.publish id origin previous answer slots).2
  | cancelled (id : Nat) :
      Transition pool (.cancel id) (pool.cancel (·.id == id)).1 (pool.cancel (·.id == id)).2
  | due {position : Nat} {endpoint : Endpoint}
      (found : pool.roster.get? position = some endpoint) (waits : endpoint.schedule = .waiting) :
      Transition pool (.due position)
        { pool with roster := pool.roster.modify position ({ · with schedule := .probing }) }
        [.probe position]
  | probed {position now : Nat} {outcome : Health.Outcome} {endpoint : Endpoint}
      (found : pool.roster.get? position = some endpoint) (probing : endpoint.schedule = .probing) :
      Transition pool (.probed position now outcome)
        { pool with
          roster := pool.roster.modify position fun _ =>
            { (endpoint.record now outcome).1 with schedule := .waiting } }
        [.log (endpoint.record now outcome).2, .await position false]
  | setHealthy (position : Nat) (healthy : Bool) :
      Transition pool (.setHealthy position healthy)
        { pool with roster := pool.roster.setHealthy position healthy } []
  | next : Transition pool .next { pool with roster := pool.roster.next.2 }
      [.picked pool.roster.next.1]
  | hold : Transition pool .hold { pool with held := pool.snapshot :: pool.held } []
  | letGo : Transition pool .letGo (release { pool with held := [] }).1
      (release { pool with held := [] }).2
  | dispose (position : Nat) :
      Transition pool (.dispose position)
        { pool with roster := pool.roster.disposed (· == position) } (pool.disposal position)
  | keepRefreshing : Transition pool .keepRefreshing { pool with upkeep := .going } []
  | shutDown :
      Transition pool .shutDown pool.dismissed
        ((if pool.upkeep = .going then [.stop] else []) ++
          (disposeAll { pool with upkeep := pool.upkeep.toStop } pool.members).2 ++
          [.log (.poolShutDown pool.settings.hostname)])
  | stopped (told : pool.upkeep = .stopping) :
      Transition pool .stopped pool.halted.1 pool.halted.2

theorem transition_answered {pool : Pool} {id : Nat} {origin : Origin} {rest : List Refresh}
    (lookingUp : pool.refreshes = ⟨id, origin, .lookingUp⟩ :: rest)
    (answer : Except Resolution.LookupError (List Ip)) :
    Transition pool (.answered id answer) (pool.takeAnswer id origin answer).1
      (pool.takeAnswer id origin answer).2 := by
  rcases answer with error | _ | ⟨first, answer⟩
  · exact .unanswered error lookingUp
  · exact .unaddressed lookingUp
  · have nonempty := List.cons_ne_nil first answer
    rw [takeAnswer_of_ne_nil pool id origin nonempty]
    split
    · rename_i complete
      exact .reused lookingUp nonempty complete
    · exact .answered lookingUp nonempty

theorem transition_firstProbed {pool : Pool} {id : Nat} {origin : Origin} {rest : List Refresh}
    {previous : List Nat} {answer : List Ip} {slots : List Slot}
    (working : pool.refreshes = ⟨id, origin, .starting previous answer slots⟩ :: rest)
    (slot now : Nat) (outcome : Health.Outcome) :
    Transition pool (.firstProbed id slot now outcome)
      (pool.takeFirstProbe previous answer slots slot now outcome).1
      (pool.takeFirstProbe previous answer slots slot now outcome).2 := by
  have missed : Transition pool (.firstProbed id slot now outcome) pool [] := .missed trivial
  cases place : slots[slot]? with
  | none => simpa [takeFirstProbe, place] using missed
  | some there =>
    cases there with
    | starting ip =>
      rw [takeFirstProbe_fst pool now outcome place]
      exact .started working place
    | kept _ | started _ => simpa [takeFirstProbe, place] using missed

theorem transition_step (pool : Pool) (input : Input) :
    Transition pool input (pool.step input).1 (pool.step input).2 := by
  cases input with
  | refresh id origin =>
    simp only [step]
    split
    · exact .missed trivial
    · rename_i accepted
      rw [beginNext_fst]
      exact .asked id origin (by simpa using accepted)
  | answered id answer =>
    simp only [step]
    split
    · rename_i working
      split
      · rename_i own
        exact own ▸ transition_answered working answer
      · exact .missed trivial
    · exact .missed trivial
  | firstProbed id slot now outcome =>
    simp only [step]
    split
    · rename_i working
      split
      · rename_i own
        exact own ▸ transition_firstProbed working slot now outcome
      · exact .missed trivial
    · exact .missed trivial
  | join id =>
    simp only [step]
    split
    · rename_i working
      split
      · rename_i own
        simp only [publishIfComplete]
        split
        · rename_i complete
          exact own ▸ .joined working complete
        · exact .missed trivial
      · exact .missed trivial
    · exact .missed trivial
  | cancel id => exact .cancelled id
  | due position =>
    simp only [step]
    split
    · rename_i endpoint found
      split
      · rename_i waits
        exact .due found waits
      · rename_i idle
        refine .missed fun other foundOther => ?_
        rwa [← Option.some.inj (found.symm.trans foundOther)]
    · rename_i absent
      exact .missed fun other found => by simp [absent] at found
  | probed position now outcome =>
    simp only [step]
    split
    · rename_i endpoint found
      split
      · rename_i probing
        exact .probed found probing
      · rename_i idle
        refine .missed fun other foundOther => ?_
        rwa [← Option.some.inj (found.symm.trans foundOther)]
    · rename_i absent
      exact .missed fun other found => by simp [absent] at found
  | setHealthy position healthy => exact .setHealthy position healthy
  | next => exact .next
  | hold => exact .hold
  | letGo => exact .letGo
  | dispose position =>
    simp only [step, disposeAt_eq]
    exact .dispose position
  | keepRefreshing => exact .keepRefreshing
  | shutDown =>
    simp only [step, disposeAll_fst]
    exact .shutDown
  | stopped =>
    simp only [step]
    split
    · rename_i told
      exact .stopped told
    · rename_i untold
      exact .missed untold

/-- A step with what it does. -/
theorem exists_transition (pool : Pool) (input : Input) :
    ∃ after effects, pool.step input = (after, effects) ∧ Transition pool input after effects :=
  ⟨_, _, rfl, transition_step pool input⟩

/-! ## Whether a pool refreshes itself -/

/-- What an input makes of the pool's own refreshes. -/
def Input.upkeep (before : Upkeep) : Input → Upkeep
  | .keepRefreshing => .going
  | .shutDown => before.toStop
  | .stopped => if before = .stopping then .none else before
  | _ => before

theorem upkeep_step (pool : Pool) (input : Input) :
    (pool.step input).1.upkeep = input.upkeep pool.upkeep := by
  obtain ⟨after, effects, stepped, transition⟩ := exists_transition pool input
  rw [stepped]
  cases transition with
  | missed misses =>
    cases input with
    | keepRefreshing | shutDown => exact misses.elim
    | stopped => exact (if_neg misses).symm
    | _ => rfl
  | unanswered _ _ => simp only [finish_fst]; rfl
  | unaddressed _ => simp only [takeAnswer_nil, finish_fst]; rfl
  | reused _ _ _ | joined _ _ => simp only [publish_fst]; rfl
  | cancelled _ => simp only [cancel_fst]; rfl
  | letGo => simp only [release_fst]; rfl
  | stopped told =>
    rw [Input.upkeep, if_pos told, halted, cancel_fst]
    rfl
  | _ => rfl

namespace Input

variable {input : Input} {before : Upkeep}

/-- Own refreshes go on until they have come to their stop. -/
theorem upkeep_ne_none (goesOn : before ≠ .none) (unstopped : input ≠ .stopped) :
    input.upkeep before ≠ .none := by
  cases input with
  | stopped => contradiction
  | keepRefreshing => exact nofun
  | shutDown => exact mt Upkeep.toStop_eq_none_iff.mp goesOn
  | _ => exact goesOn

end Input

end OneHost.Pool
