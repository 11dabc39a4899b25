import OneHost.Timeline.World

/-!
# Building a pool

A pool whose host cannot be looked up the first time is not built. Nothing is left of it: it has no
endpoints, and nothing more is going to happen.
-/

namespace OneHost.Timeline.World

variable {σ : Type} {world : World σ} {bound : Nat} {limit : Option Nat} {stop : World σ → Bool}

/-! ## Runs -/

theorem run_of_stopped (stopped : stop world = true) : run bound limit stop world = world := by
  cases bound with
  | zero => rfl
  | succ bound => simp [run, stopped]

theorem run_of_idle (idle : world.ready = []) (still : world.timers = []) :
    run bound limit stop world = world := by
  cases bound with
  | zero => rfl
  | succ bound => simp [run, idle, still, earliest]

theorem run_of_ready {action : Action} {ready : List Action} (goesOn : stop world = false)
    (isReady : world.ready = action :: ready) :
    run (bound + 1) limit stop world = run bound limit stop ({ world with ready }.perform action) := by
  simp [run, goesOn, isReady]

theorem run_of_timer {timer : Timer} (goesOn : stop world = false) (idle : world.ready = [])
    (single : world.timers = [timer]) :
    run (bound + 1) none stop world =
      run bound none stop
        ({ world with now := max world.now timer.instant, timers := [] }.perform timer.action) := by
  simp [run, goesOn, idle, single, earliest, withoutTimer]

/-! ## The first lookup -/

/-- A world in which nothing has happened yet. -/
structure Fresh (world : World σ) (settings : Pool.Settings) : Prop where
  pool : world.pool = .make settings
  ready : world.ready = []
  timers : world.timers = []
  finished : world.finished = []

/-- The pool while it looks up its host for the first time. -/
def lookingUp (settings : Pool.Settings) (id : Nat) : Pool :=
  { settings, refreshes := [⟨id, .construction, .lookingUp⟩] }

/-- The world once the first lookup has been asked for. -/
def asking (world : World σ) (settings : Pool.Settings) : World σ :=
  { world with
    pool := lookingUp settings world.nextRefresh
    nextRefresh := world.nextRefresh + 1
    asked := world.asked + 1 }

theorem ask_construction {settings : Pool.Settings} (fresh : Fresh world settings) :
    world.ask .construction =
      (world.nextRefresh,
        (world.asking settings).after world.resolver.delay (.answer world.nextRefresh)) := by
  have step : world.pool.step (.refresh world.nextRefresh .construction) =
      (lookingUp settings world.nextRefresh, [.lookUp world.nextRefresh]) := by
    rw [fresh.pool]
    rfl
  simp only [ask, input, step]
  rfl

/-- The lookup fails: there is no other refresh, and nothing to give up. -/
theorem perform_answer_error {settings : Pool.Settings} {id : Nat} {error : Resolution.LookupError}
    (isLookingUp : world.pool = lookingUp settings id)
    (fails : world.resolver.answer = .error error) :
    world.perform (.answer id) =
      { world.log world.resolver.events with
        pool := .make settings
        finished := (id, .error error) :: world.finished } := by
  have step : world.pool.step (.answered id world.resolver.answer) =
      (.make settings, [.finished id (.error error)]) := by
    rw [isLookingUp, fails]
    simp only [Pool.step, lookingUp, if_true]
    rfl
  have others : world.pool.refreshes.any (·.origin == .schedule) = false := by
    rw [isLookingUp]
    rfl
  have same : (world.log world.resolver.events).pool = world.pool := rfl
  simp only [perform, rearm, input, same, step, others, Bool.false_and, Bool.false_eq_true, if_false]
  rfl

/-- A world in which the first lookup has failed, and nothing else has happened. -/
structure Failed (world : World σ) (settings : Pool.Settings) (id : Nat)
    (error : Resolution.LookupError) : Prop where
  pool : world.pool = .make settings
  ready : world.ready = []
  timers : world.timers = []
  finished : world.finished = [(id, .error error)]

theorem Failed.of_answer {settings : Pool.Settings} {id : Nat} {error : Resolution.LookupError}
    (isLookingUp : world.pool = lookingUp settings id)
    (fails : world.resolver.answer = .error error) (idle : world.ready = [])
    (still : world.timers = []) (unfinished : world.finished = []) :
    Failed (world.perform (.answer id)) settings id error := by
  rw [perform_answer_error isLookingUp fails]
  exact ⟨rfl, idle, still, congrArg _ unfinished⟩

/-- Waiting for the first refresh ends with its failure, whether the resolver takes time or not. -/
theorem Failed.await {settings : Pool.Settings} {error : Resolution.LookupError}
    (fresh : Fresh world settings) (fails : world.resolver.answer = .error error) :
    Failed
      (((world.asking settings).after world.resolver.delay (.answer world.nextRefresh)).await
        [world.nextRefresh]) settings world.nextRefresh error := by
  let stop (other : World σ) : Bool :=
    [world.nextRefresh].all fun id => (other.result? id).isSome
  have ends {other : World σ} (failed : Failed other settings world.nextRefresh error) :
      Failed (run 999999999999 none stop other).settle settings world.nextRefresh error := by
    rw [run_of_stopped (by simp [stop, result?, failed.finished]), settle,
      run_of_idle failed.ready failed.timers]
    exact failed
  have unfinished {other : World σ} (finished : other.finished = []) : stop other = false := by
    simp [stop, result?, finished]
  -- Either way there is one thing to do, and once it is done the refresh is at its end.
  have patient : patience = 999999999999 + 1 := rfl
  unfold World.await after
  rw [patient]
  split
  · let waits : World σ :=
      { world.asking settings with
        ready := .answer world.nextRefresh :: (world.asking settings).ready }
    have goesOn : stop waits = false := unfinished fresh.finished
    have answers : run (999999999999 + 1) none stop waits =
        run 999999999999 none stop
          ({ waits with ready := (world.asking settings).ready }.perform
            (.answer world.nextRefresh)) := run_of_ready goesOn rfl
    show Failed (run (999999999999 + 1) none stop waits).settle _ _ _
    rw [answers]
    exact ends (.of_answer rfl fails fresh.ready fresh.timers fresh.finished)
  · let timer : Timer := ⟨world.now + world.resolver.delay, .answer world.nextRefresh⟩
    let waits : World σ :=
      { world.asking settings with timers := (world.asking settings).timers ++ [timer] }
    have goesOn : stop waits = false := unfinished fresh.finished
    have single : waits.timers = [timer] := congrArg (· ++ [timer]) fresh.timers
    have answers : run (999999999999 + 1) none stop waits =
        run 999999999999 none stop
          ({ waits with now := max waits.now timer.instant, timers := [] }.perform
            (.answer world.nextRefresh)) := run_of_timer goesOn fresh.ready single
    show Failed (run (999999999999 + 1) none stop waits).settle _ _ _
    rw [answers]
    exact ends (.of_answer rfl fails fresh.ready rfl fresh.finished)

/-- The pool is not built, and nothing is left to happen. -/
theorem build_of_error {settings : Pool.Settings} {error : Resolution.LookupError}
    (fresh : Fresh world settings) (fails : world.resolver.answer = .error error) :
    world.build.1 = .error error ∧ world.build.2.pool = .make settings ∧
      world.build.2.ready = [] ∧ world.build.2.timers = [] := by
  have failed := Failed.await fresh fails
  have result : world.refresh .construction =
      (some (.error error), ((world.asking settings).after world.resolver.delay
        (.answer world.nextRefresh)).await [world.nextRefresh]) := by
    simp only [refresh, ask_construction fresh]
    simp [result?, failed.finished]
  have built : world.build = (.error error, ((world.asking settings).after world.resolver.delay
      (.answer world.nextRefresh)).await [world.nextRefresh]) := by
    simp only [build, result]
  rw [built]
  exact ⟨rfl, failed.pool, failed.ready, failed.timers⟩

end OneHost.Timeline.World
