import OneHost.Proofs.Pool.Chronicle
import OneHost.Proofs.Pool.Interleaving

/-!
# Refreshes one after the other

Every run comes to the same as one in which each refresh is asked for no sooner than the one before
it has finished. Together with the order of snapshots, this is all that concurrent refreshes can
come to.
-/

namespace OneHost.Pool

variable {pool : Pool} {waiting : List Refresh}

/-- The input by which a refresh is asked for. -/
def Refresh.ask (refresh : Refresh) : Input :=
  .refresh refresh.id refresh.origin

/-- An order of the inputs in which no refresh is asked for before the one at work is finished, and
which comes to the same with some refreshes left waiting. -/
structure Serialized (pool : Pool) (waiting : List Refresh) (inputs order : List Input)
    (left : List Refresh) : Prop where
  run : (pool.queue waiting).run inputs = ((pool.run order).1.queue left, (pool.run order).2)
  same : (order ++ left.map Refresh.ask).Perm (waiting.map Refresh.ask ++ inputs)
  others : order.filter (!·.asks) = inputs.filter (!·.asks)
  single : ∀ earlier, earlier <+: order → (pool.run earlier).1.refreshes.length ≤ 1

namespace Serialized

variable {input : Input} {inputs order : List Input} {left : List Refresh}

theorem nil (alone : Alone pool) : Serialized pool waiting [] [] waiting where
  run := rfl
  same := by simp
  others := rfl
  single earlier inOrder := by
    rw [List.prefix_nil.mp inOrder]
    exact alone.single

/-- The input has the same effect with the refreshes waiting as without. -/
theorem cons (alone : Alone pool)
    (step : (pool.queue waiting).step input =
      ((pool.step input).1.queue waiting, (pool.step input).2))
    (later : Serialized (pool.step input).1 waiting inputs order left) :
    Serialized pool waiting (input :: inputs) (input :: order) left where
  run := by simp only [Pool.run, step, later.run]
  same := (later.same.cons input).trans List.perm_middle.symm
  others := by simp only [List.filter_cons, later.others]
  single earlier inOrder := by
    rcases List.prefix_cons_iff.mp inOrder with rfl | ⟨rest, rfl, inRest⟩
    · exact alone.single
    · exact later.single rest inRest

/-- A refresh that only waits is asked for later. -/
theorem postpone {refresh : Refresh}
    (step : (pool.queue waiting).step refresh.ask = (pool.queue (waiting ++ [refresh]), []))
    (later : Serialized pool (waiting ++ [refresh]) inputs order left) :
    Serialized pool waiting (refresh.ask :: inputs) order left where
  run := by simp only [Pool.run, step, later.run, List.nil_append]
  same := by simpa using later.same
  others := later.others
  single := later.single

/-- The first refresh that waits is asked for when the one at work is finished. -/
theorem resume {refresh : Refresh} (alone : Alone pool) (aloneStill : Alone (pool.step input).1)
    (other : input.asks = false)
    (step : (pool.queue (refresh :: waiting)).step input =
      (((pool.step input).1.step refresh.ask).1.queue waiting,
        (pool.step input).2 ++ ((pool.step input).1.step refresh.ask).2))
    (later : Serialized ((pool.step input).1.step refresh.ask).1 waiting inputs order left) :
    Serialized pool (refresh :: waiting) (input :: inputs) (input :: refresh.ask :: order)
      left where
  run := by simp only [Pool.run, step, later.run, List.append_assoc]
  same := by
    have swapped : (input :: refresh.ask :: (waiting.map Refresh.ask ++ inputs)).Perm
        ((refresh :: waiting).map Refresh.ask ++ input :: inputs) :=
      (List.Perm.swap ..).trans (List.perm_middle.symm.cons _)
    exact ((later.same.cons refresh.ask).cons input).trans swapped
  others := by
    have asks : refresh.ask.asks = true := rfl
    simp [asks, other, later.others]
  single earlier inOrder := by
    rcases List.prefix_cons_iff.mp inOrder with rfl | ⟨tail, rfl, inTail⟩
    · exact alone.single
    rcases List.prefix_cons_iff.mp inTail with rfl | ⟨rest, rfl, inRest⟩
    · exact aloneStill.single
    · exact later.single rest inRest

end Serialized

/-- One refresh at most is at work, and others wait only behind it, none of which would have been
ignored. -/
structure Orderly (pool : Pool) (waiting : List Refresh) : Prop where
  alone : Alone pool
  waits : Waiting waiting
  busy : waiting ≠ [] → pool.refreshes ≠ []
  accepted : ∀ refresh ∈ waiting, refresh.origin = .schedule → pool.refreshing = true

/-- A refresh that is not ignored joins the queue. -/
theorem step_ask (refresh : Refresh)
    (accepted : refresh.origin = .schedule → pool.refreshing = true) :
    pool.step refresh.ask =
      (pool.queue [⟨refresh.id, refresh.origin, .waiting⟩]).beginNext := by
  have isAccepted : ¬ (refresh.origin = .schedule && !pool.refreshing) = true := by
    simpa using accepted
  simp only [Refresh.ask, step, if_neg isAccepted]
  rfl

theorem step_ask_of_idle (refresh : Refresh) (idle : pool.refreshes = [])
    (accepted : refresh.origin = .schedule → pool.refreshing = true) :
    pool.step refresh.ask =
      ({ pool with refreshes := [⟨refresh.id, refresh.origin, .lookingUp⟩] },
        [.lookUp refresh.id]) := by
  simp [step_ask refresh accepted, beginNext, queue, idle]

/-- A refresh that is asked for where none is at work leaves the pool in order. -/
theorem alone_step_ask (refresh : Refresh) (idle : pool.refreshes = [])
    (accepted : refresh.origin = .schedule → pool.refreshing = true) :
    Alone (pool.step refresh.ask).1 := by
  rw [step_ask_of_idle refresh idle accepted]
  exact ⟨by simp, by simp⟩

/-- Where no refresh is at work, the first that waits does what it does when it is asked for. -/
theorem beginNext_queue_of_idle {refresh : Refresh} (idle : pool.refreshes = [])
    (waits : refresh.phase = .waiting)
    (accepted : refresh.origin = .schedule → pool.refreshing = true) :
    (pool.queue (refresh :: waiting)).beginNext =
      ((pool.step refresh.ask).1.queue waiting, (pool.step refresh.ask).2) := by
  rcases refresh with ⟨id, origin, phase⟩
  simp only at waits
  subst waits
  rw [step_ask_of_idle _ idle accepted]
  simp [beginNext, queue, idle]

namespace Orderly

/-- Nothing is asked of the others where there are none. -/
theorem of_alone (alone : Alone pool) : Orderly pool [] :=
  ⟨alone, by simp [Waiting], by simp, by simp⟩

/-- A refresh that is asked for while another one works waits. -/
theorem wait {refresh : Refresh} (orderly : Orderly pool waiting) (working : pool.refreshes ≠ [])
    (waits : refresh.phase = .waiting)
    (accepted : refresh.origin = .schedule → pool.refreshing = true) :
    Orderly pool (waiting ++ [refresh]) ∧
      (pool.queue waiting).step refresh.ask = (pool.queue (waiting ++ [refresh]), []) := by
  have later : Orderly pool (waiting ++ [refresh]) := by
    refine ⟨orderly.alone, fun other member => ?_, fun _ => working, fun other member => ?_⟩
    all_goals rcases List.mem_append.mp member with earlier | last
    · exact orderly.waits other earlier
    · rwa [List.mem_singleton.mp last]
    · exact orderly.accepted other earlier
    · rwa [List.mem_singleton.mp last]
  refine ⟨later, ?_⟩
  obtain ⟨id, origin, phase⟩ := refresh
  simp only at waits
  subst waits
  have joined : (pool.queue waiting).queue [⟨id, origin, .waiting⟩] =
      pool.queue (waiting ++ [⟨id, origin, .waiting⟩]) := by
    simp [queue]
  have queued : (pool.queue waiting).step (Refresh.ask ⟨id, origin, .waiting⟩) = _ :=
    step_ask _ accepted
  rw [queued, joined, beginNext_queue orderly.alone later.busy]

/-- Through a step that asks for nothing, either all go on waiting or the first of them begins. -/
theorem step {input : Input} (orderly : Orderly pool waiting) (asks : input.asks = false)
    (stays : input.givesUp = false) :
    (Orderly (pool.step input).1 waiting ∧
      (pool.queue waiting).step input =
        ((pool.step input).1.queue waiting, (pool.step input).2)) ∨
    ∃ refresh rest, waiting = refresh :: rest ∧ Alone (pool.step input).1 ∧
      Orderly ((pool.step input).1.step refresh.ask).1 rest ∧
      (pool.queue waiting).step input =
        (((pool.step input).1.step refresh.ask).1.queue rest,
          (pool.step input).2 ++ ((pool.step input).1.step refresh.ask).2) := by
  have postponed := postpones orderly.waits orderly.alone orderly.busy asks stays
  have accepted : ∀ refresh ∈ waiting, refresh.origin = .schedule →
      (pool.step input).1.refreshing = true := fun refresh member scheduled =>
    refreshing_step stays (orderly.accepted refresh member scheduled)
  by_cases busy : waiting ≠ [] → (pool.step input).1.refreshes ≠ []
  · refine .inl ⟨⟨postponed.alone, orderly.waits, busy, accepted⟩, ?_⟩
    rw [postponed.step, beginNext_queue postponed.alone busy, List.append_nil]
  · rcases Classical.not_imp.mp busy with ⟨some, idle⟩
    obtain ⟨refresh, rest, rfl⟩ := List.exists_cons_of_ne_nil some
    have idle := not_not.mp idle
    have first := accepted refresh List.mem_cons_self
    have begins := step_ask_of_idle refresh idle first
    refine .inr ⟨refresh, rest, rfl, postponed.alone, ⟨alone_step_ask refresh idle first,
      fun other member => orderly.waits other (List.mem_cons_of_mem _ member), fun _ => ?_,
      fun other member => ?_⟩, ?_⟩
    · simp [begins]
    · rw [begins]
      exact accepted other (List.mem_cons_of_mem _ member)
    · rw [postponed.step,
        beginNext_queue_of_idle idle (orderly.waits refresh List.mem_cons_self) first]

end Orderly

/-- Every run without cancellations comes to the same as one in which the refreshes work one after
the other. -/
theorem exists_serialized {inputs : List Input} (orderly : Orderly pool waiting)
    (stay : ∀ input ∈ inputs, input.givesUp = false) :
    ∃ order left, Serialized pool waiting inputs order left := by
  -- The pool of the induction is the one that works alone; the others are kept apart from it.
  induction inputs generalizing pool waiting with
  | nil => exact ⟨[], waiting, .nil orderly.alone⟩
  | cons input inputs ih =>
    have stayLater : ∀ other ∈ inputs, other.givesUp = false := fun other member =>
      stay other (List.mem_cons_of_mem _ member)
    cases asks : input.asks with
    | true =>
      obtain ⟨refresh, waits, rfl⟩ : ∃ refresh : Refresh, refresh.phase = .waiting ∧
          input = refresh.ask := by
        cases input with
        | refresh id origin => exact ⟨⟨id, origin, .waiting⟩, rfl, rfl⟩
        | _ => contradiction
      by_cases accepted : refresh.origin = .schedule → pool.refreshing = true
      · by_cases idle : pool.refreshes = []
        · have none : waiting = [] := by
            by_contra some
            exact orderly.busy some idle
          subst none
          have begun : Orderly (pool.step refresh.ask).1 [] :=
            .of_alone (alone_step_ask refresh idle accepted)
          rcases ih begun stayLater with ⟨order, left, later⟩
          have alike (pool : Pool) : pool.queue [] = pool := by simp [queue]
          exact ⟨_, left, .cons orderly.alone (by rw [alike, alike]) later⟩
        · obtain ⟨stillOrderly, queued⟩ := orderly.wait idle waits accepted
          rcases ih stillOrderly stayLater with ⟨order, left, later⟩
          exact ⟨order, left, .postpone queued later⟩
      · -- Its schedule has not begun, so the refresh is ignored with or without the others.
        have ignored (pool : Pool) (idle : ¬ (refresh.origin = .schedule →
            pool.refreshing = true)) : pool.step refresh.ask = (pool, []) := by
          have isIgnored : (refresh.origin = .schedule && !pool.refreshing) = true := by
            simpa using idle
          simp only [Refresh.ask, Pool.step, if_pos isIgnored]
        have unqueued := ignored pool accepted
        have queued : (pool.queue waiting).step refresh.ask = _ := ignored _ accepted
        have still : Orderly (pool.step refresh.ask).1 waiting := unqueued ▸ orderly
        obtain ⟨order, left, later⟩ := ih still stayLater
        exact ⟨_, left, .cons orderly.alone (by rw [queued, unqueued]) later⟩
    | false =>
      rcases orderly.step asks (stay input List.mem_cons_self) with
        ⟨still, step⟩ | ⟨refresh, rest, rfl, alone, next, step⟩
      · rcases ih still stayLater with ⟨order, left, later⟩
        exact ⟨_, left, .cons orderly.alone step later⟩
      · obtain ⟨order, left, later⟩ := ih next stayLater
        exact ⟨_, left, .resume orderly.alone alone asks step later⟩

/-! ## All that concurrent refreshes can come to -/

theorem getElem?_of_forall₂ {α β : Type} {related : α → β → Prop} {left : List α} {right : List β}
    (all : List.Forall₂ related left right) {index : Nat} {first : α}
    (atIndex : left[index]? = some first) :
    ∃ second, right[index]? = some second ∧ related first second := by
  rcases List.getElem?_eq_some_iff.mp atIndex with ⟨bound, rfl⟩
  exact ⟨_, List.getElem?_eq_getElem (all.length_eq ▸ bound), all.get bound (all.length_eq ▸ bound)⟩

/-- However refreshes and readers interleave: the snapshots are published in the order in which the
resolver gave the answers behind them; whatever a reader sees is the empty snapshot or shows one of
these answers, with all endpoints probed; and once all refreshes are finished, the run has come to
what it comes to when they work one after the other. -/
theorem interleaved_refreshes (settings : Settings) (inputs : List Input) :
    (∃ used, used.Sublist ((make settings).answers inputs) ∧
      List.Forall₂ ((make settings).run inputs).1.Shows
        (shown ((make settings).run inputs).2) used ∧
      ((make settings).run inputs).1.number = used.length ∧
      ∀ snapshot ∈ ((make settings).run inputs).1.snapshot :: ((make settings).run inputs).1.held,
        (snapshot.number = 0 ∧ snapshot.rotation.members = []) ∨
          ∃ answer, used[snapshot.number - 1]? = some answer ∧
            ((make settings).run inputs).1.Shows snapshot answer) ∧
    ((∀ input ∈ inputs, input.givesUp = false) → ((make settings).run inputs).1.refreshes = [] →
      ∃ order, order.Perm inputs ∧
        order.filter (!·.asks) = inputs.filter (!·.asks) ∧
        (∀ earlier, earlier <+: order → ((make settings).run earlier).1.refreshes.length ≤ 1) ∧
        (make settings).run order = (make settings).run inputs) := by
  constructor
  · have chronicle := (Chronicle.of_make settings).run (.of_make settings) inputs
    simp only [List.nil_append] at chronicle
    obtain ⟨used, inOrder, shows⟩ := chronicle.order
    refine ⟨used, (List.sublist_append_left _ _).trans inOrder, shows,
      chronicle.number.trans shows.length_eq, fun snapshot member => ?_⟩
    rcases chronicle.seen snapshot member with ⟨earlier, atNumber, same⟩
    cases number : snapshot.number with
    | zero =>
      rw [number] at atNumber
      obtain rfl := Option.some.inj atNumber
      exact .inl ⟨rfl, same.symm⟩
    | succ index =>
      rw [number] at atNumber
      obtain ⟨answer, answered, showsEarlier⟩ := getElem?_of_forall₂ shows atNumber
      exact .inr ⟨answer, answered, same ▸ showsEarlier.addresses, same ▸ showsEarlier.probed⟩
  · intro stay finished
    have alike (pool : Pool) : pool.queue [] = pool := by simp [queue]
    have orderly : Orderly (make settings) [] := .of_alone ⟨by simp [make], by simp [make]⟩
    rcases exists_serialized orderly stay with ⟨order, left, serialized⟩
    have run := serialized.run
    rw [alike] at run
    obtain rfl : left = [] := by
      rw [run] at finished
      exact (List.append_eq_nil_iff.mp finished).2
    rw [alike] at run
    exact ⟨order, by simpa using serialized.same, serialized.others, serialized.single, run.symm⟩

/-- The settings of a pool that probes its endpoints only once. -/
def probingOnce : Settings :=
  { hostname := "api"
    prober := { target := ⟨.http, "api", 80⟩, healthPath := "/health", readTimeout := ⟨1⟩ }
    probePeriod := none }

/-- Two callers refresh at the same time, and another one takes an endpoint meanwhile. -/
theorem interleaved_refreshes_of_two_callers :
    ∃ order, order.Perm
        [.refresh 0 .caller, .refresh 1 .caller, .answered 0 (.ok [.v4 ⟨10, 0, 0, 1⟩]),
          .firstProbed 0 0 3 (.status 200), .next, .join 0,
          .answered 1 (.ok [.v4 ⟨10, 0, 0, 1⟩])] ∧
      ∀ earlier, earlier <+: order → ((make probingOnce).run earlier).1.refreshes.length ≤ 1 := by
  have serial := (interleaved_refreshes probingOnce
    [.refresh 0 .caller, .refresh 1 .caller, .answered 0 (.ok [.v4 ⟨10, 0, 0, 1⟩]),
      .firstProbed 0 0 3 (.status 200), .next, .join 0,
      .answered 1 (.ok [.v4 ⟨10, 0, 0, 1⟩])]).2
  obtain ⟨order, same, _, single, _⟩ := serial (by simp [Input.givesUp]) rfl
  exact ⟨order, same, single⟩

end OneHost.Pool
