import OneHost.Proofs.Health.Route
import OneHost.Proofs.Pool.Closing
import OneHost.Proofs.Pool.Turns

/-!
# What is recorded of an endpoint's health

An endpoint is made of the result of its first probe, so no one ever sees one that has not been
probed. From then on its health is that of the last result, as long as no one sets it by hand, and
a change is reported whenever a result differs from the one before. Nothing else that a pool does
touches the health of an endpoint or speaks of it.
-/

namespace OneHost

namespace Health

/-- What is reported of a result: a change, unless there is an earlier one that it agrees with. -/
theorem State.record_snd (state : State) (now : Nat) (address : SocketAddress)
    (outcome : Outcome) :
    (state.record now address outcome).2 =
      if state.probed = true ∧ state.healthy = outcome.isHealthy then
        .healthUnchanged address outcome.isHealthy outcome.text
      else .healthChanged address outcome.isHealthy outcome.text := by
  obtain ⟨healthy, probed, lastCheck⟩ := state
  cases probed <;> cases healthy <;> cases decided : outcome.isHealthy <;> simp [record, decided]

theorem Outcome.isHealthy_iff {outcome : Outcome} :
    outcome.isHealthy = true ↔ ∃ code, outcome = .status code ∧ 200 ≤ code ∧ code ≤ 499 := by
  cases outcome with
  | status code => simp [isHealthy, isHealthyStatus]
  | failed error => simp [isHealthy]

/-- A probe ends with a status only if its request could be made and was answered with that status
within the read timeout. -/
theorem Prober.probe_eq_status_iff {σ : Type} {prober : Prober} {exchange : Prober.Exchange σ}
    {ip : Ip} {state : σ} {code : Nat} :
    (prober.probe exchange ip state).1.2 = .status code ↔
      ∃ request delay response, prober.request ip = .ok request ∧
        (exchange prober.readTimeout (prober.target.socketAddress ip) request state).1 =
          (delay, .ok response) ∧
        delay.nanoseconds ≤ prober.readTimeout.nanoseconds ∧ response.status = code := by
  cases isMade : prober.request ip with
  | error error =>
    rw [probe_of_no_request isMade]
    simp
  | ok request =>
    have ends : (prober.probe exchange ip state).1.2 =
        let answer :=
          (exchange prober.readTimeout (prober.target.socketAddress ip) request state).1
        if answer.1.nanoseconds ≤ prober.readTimeout.nanoseconds then .ofExchange answer.2
        else prober.timedOut ip := by
      simp only [probe, isMade]
      split <;> rfl
    rw [ends]
    simp only [Except.ok.injEq, exists_and_left, exists_eq_left']
    generalize exchange prober.readTimeout (prober.target.socketAddress ip) request state = answer
    obtain ⟨⟨delay, result⟩, next⟩ := answer
    by_cases inTime : delay.nanoseconds ≤ prober.readTimeout.nanoseconds
    · cases result <;> simp [Outcome.ofExchange, inTime]
    · simp only [if_neg inTime, timedOut]
      constructor
      · intro isStatus
        contradiction
      · rintro ⟨delay, response, isAnswer, early, _⟩
        cases isAnswer
        exact absurd early inTime

end Health

namespace Pool

open Health (Outcome)

/-! ## What is told of health -/

/-- An event that tells of an endpoint's health. -/
def Effect.told? : Effect → Option Event
  | .log (.healthChanged address healthy outcome) => some (.healthChanged address healthy outcome)
  | .log (.healthUnchanged address healthy outcome) =>
    some (.healthUnchanged address healthy outcome)
  | _ => none

/-- All that some effects tell of health. -/
def told (effects : List Effect) : List Event :=
  effects.filterMap Effect.told?

@[simp] theorem told_append (first second : List Effect) :
    told (first ++ second) = told first ++ told second :=
  List.filterMap_append

variable (pool : Pool)

theorem told_disposal (position : Nat) : told (pool.disposal position) = [] := by
  unfold disposal
  split
  · rfl
  · rw [Endpoint.dispose_snd]
    split <;> rfl

theorem told_disposeAll (positions : List Nat) : told (pool.disposeAll positions).2 = [] := by
  induction positions generalizing pool with
  | nil => rfl
  | cons position rest ih =>
    simp only [disposeAll, disposeAt_eq, told_append, told_disposal, ih, List.append_nil]

theorem told_release : told pool.release.2 = [] :=
  told_disposeAll pool _

theorem told_removeAll (positions : List Nat) : told (pool.removeAll positions).2 = [] := by
  induction positions generalizing pool with
  | nil => rfl
  | cons position rest ih =>
    unfold removeAll
    split
    · exact ih pool
    · simp only [disposeAt_eq, told_append, told_disposal, ih]
      rfl

theorem told_beginNext : told pool.beginNext.2 = [] := by
  simp only [beginNext]
  split <;> rfl

theorem told_resultEvents (origin : Origin) (result : Except Resolution.LookupError Summary) :
    told ((pool.resultEvents origin result).map .log) = [] := by
  cases result with
  | ok summary =>
    cases origin with
    | construction | caller => rfl
    | schedule =>
      simp only [resultEvents]
      split <;> rfl
  | error error => cases origin <;> rfl

theorem told_finish (id : Nat) (origin : Origin) (result : Except Resolution.LookupError Summary) :
    told (pool.finish id origin result).2 = [] := by
  have finished (effects : List Effect) : told (.finished id result :: effects) = told effects :=
    rfl
  simp only [finish, told_append, finished, told_release, told_resultEvents, told_beginNext,
    List.append_nil]

theorem told_cancel (gone : Refresh → Bool) : told (pool.cancel gone).2 = [] := by
  simp only [cancel, told_append, told_release, told_beginNext, List.append_nil]

theorem told_publish (id : Nat) (origin : Origin) (previous : List Nat) (answer : List Ip)
    (slots : List Slot) : told (pool.publish id origin previous answer slots).2 = [] := by
  have published (snapshot : Snapshot) (effects : List Effect) :
      told (.published snapshot :: effects) = told effects := rfl
  simp only [publish_eq, published, told_append, told_removeAll, told_finish, List.append_nil]

theorem told_starts (id : Nat) (slots : List Slot) : told (starts id slots) = [] := by
  apply List.filterMap_eq_nil_iff.mpr
  intro effect started
  obtain ⟨slot, ip, rfl, _⟩ := mem_starts.mp started
  rfl

/-- Taking in a result tells of it. -/
theorem told_record (state : Health.State) (now : Nat) (address : SocketAddress) (outcome : Outcome)
    (effects : List Effect) :
    told (.log (state.record now address outcome).2 :: effects) =
      (state.record now address outcome).2 :: told effects := by
  rw [Health.State.record_snd]
  split <;> rfl

/-! ## What is recorded -/

/-- The result that an input records on the endpoint at a position, with its time: that of the first
probe, which makes the endpoint, or that of a later one that its schedule waits for. -/
def recorded? (position : Nat) : Input → Option (Nat × Outcome)
  | .firstProbed id slot now outcome =>
    if (pool.roster.get? position).isNone &&
        ((pool.step (.firstProbed id slot now outcome)).1.roster.get? position).isSome then
      some (now, outcome)
    else none
  | .probed other now outcome =>
    if other = position && (pool.roster.get? position).any (·.schedule = .probing) then
      some (now, outcome)
    else none
  | _ => none

/-- A result that was recorded on an endpoint, with what was told of health in the same step. -/
structure Finding where
  time : Nat
  outcome : Outcome
  told : List Event

/-- What an input records on the endpoint at a position. -/
def finding? (position : Nat) (input : Input) : Option Finding :=
  (pool.recorded? position input).map fun result =>
    { time := result.1, outcome := result.2, told := told (pool.step input).2 }

/-- The results that are recorded on the endpoint at a position in the course of some inputs. -/
def findings (pool : Pool) (position : Nat) : List Input → List Finding
  | [] => []
  | input :: inputs =>
    (pool.finding? position input).toList ++ (pool.step input).1.findings position inputs

/-- The health of the endpoint at a position. -/
def healthAt (pool : Pool) (position : Nat) : Option Health.State :=
  (pool.roster.get? position).map (·.health)

/-- The health that a result makes of an endpoint. -/
def Finding.health (finding : Finding) : Health.State where
  healthy := finding.outcome.isHealthy
  probed := true
  lastCheck := some finding.time

variable {pool} {position : Nat} {input : Input} {endpoint : Endpoint}

/-- Whatever gives an endpoint a turn without a result leaves its health as it is. -/
theorem Input.health_turn (unrecorded : pool.recorded? position input = none)
    (found : pool.roster.get? position = some endpoint)
    (untouched : ∀ healthy, input ≠ .setHealthy position healthy) :
    (input.turn position endpoint).health = endpoint.health := by
  cases input with
  | due other =>
    simp only [turn]
    split <;> rfl
  | probed other now outcome =>
    refine congrArg Endpoint.health (if_neg ?_)
    rintro ⟨rfl, probing⟩
    simp [recorded?, found, probing] at unrecorded
  | setHealthy other healthy =>
    have elsewhere : other ≠ position := by
      rintro rfl
      exact untouched healthy rfl
    simp [turn, elsewhere]
  | _ => rfl

/-- What a step records on the endpoint at a position is what becomes of its health, and what is
told of it is what taking in the result reports. -/
inductive Takes (pool : Pool) (position : Nat) (input : Input) : Prop
  | nothing (unrecorded : pool.recorded? position input = none)
      (same : (pool.step input).1.healthAt position = pool.healthAt position)
  | result {now : Nat} {outcome : Outcome} {later : Endpoint}
      (recorded : pool.recorded? position input = some (now, outcome))
      (found : (pool.step input).1.roster.get? position = some later)
      (health : later.health = ⟨outcome.isHealthy, true, some now⟩)
      (told : told (pool.step input).2 =
        [(((pool.healthAt position).getD {}).record now later.address outcome).2])

theorem takes_of_probed {now : Nat} {outcome : Outcome}
    (found : pool.roster.get? position = some endpoint) (probing : endpoint.schedule = .probing) :
    Takes pool position (.probed position now outcome) := by
  have stepped : pool.step (.probed position now outcome) =
      ({ pool with
          roster := pool.roster.modify position fun _ =>
            { (endpoint.record now outcome).1 with schedule := .waiting } },
        [.log (endpoint.record now outcome).2, .await position false]) := by
    simp [step, found, probing]
  have recorded : pool.recorded? position (.probed position now outcome) = some (now, outcome) := by
    simp [recorded?, found, probing]
  have there : (pool.step (.probed position now outcome)).1.roster.get? position =
      some { (endpoint.record now outcome).1 with schedule := .waiting } := by
    simp [stepped, Roster.get?_modify, found]
  refine .result recorded there ?_ ?_
  · rw [Endpoint.record_fst]
  · simp only [stepped, Endpoint.record_fst, healthAt, found]
    exact told_record endpoint.health now endpoint.address outcome _

theorem takes_of_found (wellFormed : WellFormed pool)
    (found : pool.roster.get? position = some endpoint)
    (untouched : ∀ healthy, input ≠ .setHealthy position healthy) : Takes pool position input := by
  cases recorded : pool.recorded? position input with
  | none =>
    refine .nothing recorded ?_
    cases passes_step wellFormed input found with
    | inl goesOn => simp [healthAt, goesOn, found, Input.health_turn recorded found untouched]
    | inr ends => simp [healthAt, ends.1, found]
  | some result =>
    cases input with
    | firstProbed id slot now outcome => simp [recorded?, found] at recorded
    | probed other now outcome =>
      simp only [recorded?, found, Option.any_some] at recorded
      split at recorded
      · rename_i fits
        simp only [Bool.and_eq_true, decide_eq_true_eq] at fits
        obtain ⟨rfl, probing⟩ := fits
        exact takes_of_probed found probing
      · contradiction
    | _ => simp [recorded?] at recorded

/-- The first result is always told of as a change. -/
theorem told_firstProbed {id slot now : Nat} {outcome : Outcome} {later : Endpoint}
    (absent : pool.roster.get? position = none)
    (made : (pool.step (.firstProbed id slot now outcome)).1.roster.get? position = some later) :
    told (pool.step (.firstProbed id slot now outcome)).2 =
      [(({} : Health.State).record now later.address outcome).2] := by
  obtain ⟨after, effects, stepped, transition⟩ :=
    exists_transition pool (.firstProbed id slot now outcome)
  rw [stepped] at made ⊢
  cases transition with
  | missed _ =>
    rw [absent] at made
    contradiction
  | @started _ _ _ _ _ _ _ _ _ ip _ waiting =>
    have own : later = pool.probedEndpoint ip now outcome := by
      simp only [withEndpoint, setPhase, Roster.get?_push] at made
      split at made
      · exact (Option.some.inj made).symm
      · rw [absent] at made
        contradiction
    have address : later.address = pool.settings.prober.target.socketAddress ip := by
      rw [own, probedEndpoint, Endpoint.record_fst]
    rw [address]
    simp only [takeFirstProbe, waiting]
    refine (told_record {} now _ outcome _).trans ?_
    split <;> rfl

theorem takes_of_absent (wellFormed : WellFormed pool)
    (absent : pool.roster.get? position = none) : Takes pool position input := by
  cases found : (pool.step input).1.roster.get? position with
  | none =>
    refine .nothing ?_ (by simp [healthAt, absent, found])
    cases input with
    | firstProbed id slot now outcome => simp [recorded?, found]
    | probed other now outcome => simp [recorded?, absent]
    | _ => rfl
  | some later =>
    have inService := inService_of_new wellFormed absent found
    cases inService.of_step wellFormed with
    | inl before =>
      obtain ⟨endpoint, there⟩ := wellFormed.exists_endpoint before
      rw [absent] at there
      contradiction
    | inr born =>
      obtain ⟨id, slot, now, outcome, ip, rfl, _, made⟩ := born
      have recorded : pool.recorded? position (.firstProbed id slot now outcome) =
          some (now, outcome) := by
        simp [recorded?, absent, found]
      obtain rfl := Option.some.inj (found.symm.trans made)
      refine .result recorded found ?_ ?_
      · rw [probedEndpoint, Endpoint.record_fst]
      · simp only [healthAt, absent, told_firstProbed absent found]
        rfl

theorem takes_step (wellFormed : WellFormed pool)
    (untouched : ∀ healthy, input ≠ .setHealthy position healthy) : Takes pool position input := by
  cases found : pool.roster.get? position with
  | none => exact takes_of_absent wellFormed found
  | some endpoint => exact takes_of_found wellFormed found untouched

/-- Where nothing is recorded, nothing is told of health. -/
theorem told_step (unrecorded : ∀ position, pool.recorded? position input = none) :
    told (pool.step input).2 = [] := by
  obtain ⟨after, effects, stepped, transition⟩ := exists_transition pool input
  rw [stepped]
  cases transition with
  | missed _ | due _ _ | setHealthy _ _ | next | hold | keepRefreshing => rfl
  | asked _ _ => exact told_beginNext _
  | unanswered _ _ => exact told_finish ..
  | unaddressed _ =>
    rw [takeAnswer_nil]
    exact told_finish ..
  | answered _ _ => exact told_starts ..
  | reused _ _ _ | joined _ _ => exact told_publish ..
  | cancelled _ | stopped _ => exact told_cancel ..
  | letGo => exact told_release _
  | dispose position => exact told_disposal ..
  | shutDown =>
    simp only [told_append, told_disposeAll]
    split <;> rfl
  | started _ _ =>
    have newest := unrecorded pool.roster.endpoints.length
    simp [recorded?, stepped, withEndpoint, setPhase, Roster.push, Roster.get?] at newest
  | @probed position _ _ _ found probing =>
    have own := unrecorded position
    simp [recorded?, found, probing] at own

/-! ## A run -/

/-- A result changes the health of an endpoint if it is the first, or differs from the one
before. -/
def Finding.Changes (earlier : List Finding) (finding : Finding) : Prop :=
  ∀ before ∈ earlier.getLast?, before.outcome.isHealthy ≠ finding.outcome.isHealthy

/-- One event tells of a result that comes after others. It speaks of a change, and counts as
information, if there is one. -/
def Finding.Announced (address : SocketAddress) (earlier : List Finding) (finding : Finding) :
    Prop :=
  ∃ event, finding.told = [event] ∧
    event.fields = [("addr", address.text),
      ("healthy", Event.boolText finding.outcome.isHealthy), ("outcome", finding.outcome.text)] ∧
    (event.message = "endpoint health changed" ↔ finding.Changes earlier) ∧
    (event.level = .info ↔ finding.Changes earlier) ∧
    (event.level = .debug ↔ ¬finding.Changes earlier)

theorem announced_of_record {address : SocketAddress} {earlier : List Finding} {finding : Finding}
    {state : Option Health.State} (same : state = earlier.getLast?.map Finding.health)
    (tells : finding.told =
      [((state.getD {}).record finding.time address finding.outcome).2]) :
    finding.Announced address earlier := by
  refine ⟨_, tells, ?_⟩
  rw [Health.State.record_snd, same]
  cases last : earlier.getLast? with
  | none =>
    have changes : finding.Changes earlier := by simp [Finding.Changes, last]
    simp [changes, Event.fields, Event.message, Event.level]
  | some before =>
    by_cases agrees : before.outcome.isHealthy = finding.outcome.isHealthy
    · have stays : ¬finding.Changes earlier := by simp [Finding.Changes, last, agrees]
      simp [stays, Finding.health, agrees, Event.fields, Event.message, Event.level]
    · have changes : finding.Changes earlier := by simp [Finding.Changes, last, agrees]
      simp [changes, Finding.health, agrees, Event.fields, Event.message, Event.level]

variable {inputs : List Input} {past : List Finding} {address : SocketAddress}

/-- The health of an endpoint is that of its last result, if that was so before. -/
theorem healthAt_step (wellFormed : WellFormed pool)
    (untouched : ∀ healthy, input ≠ .setHealthy position healthy)
    (known : pool.healthAt position = past.getLast?.map Finding.health) :
    (pool.step input).1.healthAt position =
      (past ++ (pool.finding? position input).toList).getLast?.map Finding.health := by
  cases takes_step wellFormed untouched with
  | nothing unrecorded same => simp [finding?, unrecorded, same, known]
  | result recorded found health _ =>
    simp [finding?, recorded, healthAt, found, health, Finding.health]

/-- A result is told of as the ones before it ask for. -/
theorem announced_step {finding : Finding} (wellFormed : WellFormed pool)
    (untouched : ∀ healthy, input ≠ .setHealthy position healthy)
    (known : pool.healthAt position = past.getLast?.map Finding.health)
    (isFinding : pool.finding? position input = some finding) :
    ∃ address, (pool.step input).1.addressAt position = some address ∧
      finding.Announced address past := by
  cases takes_step wellFormed untouched with
  | nothing unrecorded _ => simp [finding?, unrecorded] at isFinding
  | @result _ _ later recorded found _ tells =>
    simp only [finding?, recorded, Option.map_some, Option.some.injEq] at isFinding
    subst isFinding
    exact ⟨later.address, by simp [addressAt, found], announced_of_record known tells⟩

theorem healthAt_run (wellFormed : WellFormed pool)
    (untouched : ∀ healthy, .setHealthy position healthy ∉ inputs)
    (known : pool.healthAt position = past.getLast?.map Finding.health) :
    (pool.run inputs).1.healthAt position =
      (past ++ pool.findings position inputs).getLast?.map Finding.health := by
  induction inputs generalizing pool past with
  | nil =>
    rw [findings, List.append_nil]
    exact known
  | cons input inputs ih =>
    have first := healthAt_step wellFormed
      (fun healthy own => untouched healthy (own ▸ List.mem_cons_self)) known
    rw [findings, ← List.append_assoc]
    exact ih (wellFormed.step input)
      (fun healthy later => untouched healthy (List.mem_cons_of_mem input later)) first

theorem announced_run {earlier later : List Finding} {finding : Finding}
    (wellFormed : WellFormed pool) (untouched : ∀ healthy, .setHealthy position healthy ∉ inputs)
    (known : pool.healthAt position = past.getLast?.map Finding.health)
    (addressed : (pool.run inputs).1.addressAt position = some address)
    (recorded : pool.findings position inputs = earlier ++ finding :: later) :
    finding.Announced address (past ++ earlier) := by
  induction inputs generalizing pool past earlier with
  | nil => simp [findings] at recorded
  | cons input inputs ih =>
    have first : ∀ healthy, input ≠ .setHealthy position healthy :=
      fun healthy own => untouched healthy (own ▸ List.mem_cons_self)
    have goesOn {earlier : List Finding}
        (rest : (pool.step input).1.findings position inputs = earlier ++ finding :: later) :
        finding.Announced address
          (past ++ (pool.finding? position input).toList ++ earlier) :=
      ih (wellFormed.step input)
        (fun healthy later => untouched healthy (List.mem_cons_of_mem input later))
        (healthAt_step wellFormed first known) addressed rest
    rw [findings] at recorded
    cases isFinding : pool.finding? position input with
    | none =>
      rw [isFinding] at recorded goesOn
      simpa using goesOn recorded
    | some own =>
      rw [isFinding] at recorded goesOn
      cases earlier with
      | nil =>
        simp only [Option.toList_some, List.cons_append, List.nil_append, List.cons.injEq]
          at recorded
        obtain ⟨rfl, _⟩ := recorded
        obtain ⟨own, there, announced⟩ := announced_step wellFormed first known isFinding
        have same := (addressAt_run inputs there).symm.trans addressed
        rw [List.append_nil, ← Option.some.inj same]
        exact announced
      | cons before earlier =>
        simp only [Option.toList_some, List.cons_append, List.nil_append, List.cons.injEq]
          at recorded
        obtain ⟨rfl, rest⟩ := recorded
        simpa using goesOn rest

/-- For the endpoint at a position that no one sets by hand, whatever happens to the pool: there is
one just when a result was recorded, so that no one sees an endpoint that was not probed; its health
is that of the last result, and it is up just when that was a status from 200 to 499, which a probe
ends with only if it came within the read timeout; and each result is told of once, as a change if
it is the first or differs from the one before. Where nothing is recorded of any endpoint, nothing
is told of health. -/
theorem health_follows_results (settings : Settings) (inputs : List Input) (position : Nat)
    (untouched : ∀ healthy, .setHealthy position healthy ∉ inputs) :
    let pool := ((make settings).run inputs).1
    let findings := (make settings).findings position inputs
    (pool.roster.get? position = none ↔ findings = []) ∧
    (∀ endpoint, pool.roster.get? position = some endpoint →
      (endpoint.health.probed = true ∧ ∃ last, findings.getLast? = some last ∧
        endpoint.health.lastCheck = some last.time ∧
        (endpoint.isHealthy = true ↔
          ∃ code, last.outcome = .status code ∧ 200 ≤ code ∧ code ≤ 499)) ∧
      ∀ earlier finding later, findings = earlier ++ finding :: later →
        finding.Announced endpoint.address earlier) ∧
    (∀ earlier input later, inputs = earlier ++ input :: later →
      (∀ other, ((make settings).run earlier).1.recorded? other input = none) →
        told (((make settings).run earlier).1.step input).2 = []) ∧
    ∀ (σ : Type) (exchange : Health.Prober.Exchange σ) ip state code,
      (settings.prober.probe exchange ip state).1.2 = .status code ↔
        ∃ request delay response, settings.prober.request ip = .ok request ∧
          (exchange settings.prober.readTimeout (settings.prober.target.socketAddress ip) request
            state).1 = (delay, .ok response) ∧
          delay.nanoseconds ≤ settings.prober.readTimeout.nanoseconds ∧ response.status = code := by
  intro pool findings
  have wellFormed := WellFormed.of_make settings
  have initially : (make settings).healthAt position =
      ([] : List Finding).getLast?.map Finding.health := rfl
  have health : pool.healthAt position = findings.getLast?.map Finding.health :=
    healthAt_run wellFormed untouched initially
  refine ⟨?_, ?_, ?_, ?_⟩
  · rw [← List.getLast?_eq_none_iff, ← Option.map_eq_none_iff (f := Finding.health), ← health,
      healthAt, Option.map_eq_none_iff]
  · intro endpoint found
    refine ⟨?_, ?_⟩
    · simp only [healthAt, found, Option.map_some] at health
      obtain ⟨last, isLast, own⟩ := Option.map_eq_some_iff.mp health.symm
      have flag : endpoint.isHealthy = last.outcome.isHealthy := by
        rw [Endpoint.isHealthy, ← own]
        rfl
      refine ⟨by rw [← own]; rfl, last, isLast, by rw [← own]; rfl, ?_⟩
      rw [flag, Outcome.isHealthy_iff]
    · intro earlier finding later recorded
      have addressed : pool.addressAt position = some endpoint.address := by simp [addressAt, found]
      simpa using announced_run wellFormed untouched initially addressed recorded
  · intro earlier input later _ unrecorded
    exact told_step unrecorded
  · intro σ exchange ip state code
    exact Health.Prober.probe_eq_status_iff

/-- An endpoint that is up at first, then still up with a client's error, and in the end out of
reach. -/
def upAndDown : List Input :=
  [.refresh 0 .construction, .answered 0 (.ok [.v4 ⟨10, 0, 0, 1⟩]),
    .firstProbed 0 0 3 (.status 200), .join 0, .due 0, .probed 0 8 (.status 404), .due 0,
    .probed 0 13 (.failed (.readTimeout ⟨.v4 ⟨10, 0, 0, 1⟩, 80⟩ ⟨1⟩))]

/-- The first result and the last are changes, the one between them is not. -/
theorem health_follows_results_upAndDown :
    let pool := ((make (probingEvery 5000)).run upAndDown).1
    (∃ endpoint, pool.roster.get? 0 = some endpoint ∧ endpoint.isHealthy = false ∧
      endpoint.health.probed = true ∧ endpoint.health.lastCheck = some 13) ∧
    ((make (probingEvery 5000)).findings 0 upAndDown).map (fun finding =>
      finding.told.map (·.level)) = [[.info], [.debug], [.info]] := by
  intro pool
  obtain ⟨endpoint, found⟩ : ∃ endpoint, pool.roster.get? 0 = some endpoint :=
    Option.isSome_iff_exists.mp (by decide +kernel)
  obtain ⟨_, follows, _, _⟩ :=
    health_follows_results (probingEvery 5000) upAndDown 0 (by simp [upAndDown])
  obtain ⟨⟨probed, last, isLast, checked, isUp⟩, _⟩ := follows endpoint found
  have ends : ((make (probingEvery 5000)).findings 0 upAndDown).getLast?.map
      (fun finding => (finding.time, finding.outcome.isHealthy)) = some (13, false) := by
    decide +kernel
  rw [isLast, Option.map_some, Option.some.injEq, Prod.mk.injEq] at ends
  rw [← Outcome.isHealthy_iff, ends.2] at isUp
  refine ⟨⟨endpoint, found, ?_, probed, ends.1 ▸ checked⟩, by decide +kernel⟩
  exact Bool.eq_false_iff.mpr fun up => Bool.false_ne_true (isUp.mp up)

end Pool

end OneHost
