import OneHost.Proofs.Connection.Records

/-!
# How far a send has come

A send first seeks a connection, then makes one usable, and last hands over its request. It never
goes back, and what is asked for it tells how far it has come. So a send hands over its request once
at most; and if it ends because no connection came about in time, it has never had one.
-/

namespace OneHost.Connection

/-- How far a send has come at a stage: nowhere, to a connection, to the handing over of its
request. -/
def Stage.progress : Stage → Nat
  | readying _ | dialling => 0
  | securing | opening _ => 1
  | waiting _ | receiving .. => 2

namespace Effect

/-- The number of the send that an effect is about. -/
def about? : Effect → Option Nat
  | awaitReady id _ | dial id _ | secure id _ _ | prepare id _ | write id .. | finished id _ =>
    some id
  | log _ => none

/-- How far a send has come that such an effect is about. -/
def progress : Effect → Nat
  | awaitReady .. | dial .. | log _ | finished .. => 0
  | secure .. | prepare .. => 1
  | write .. => 2

/-- A send is finished. -/
def isFinal : Effect → Bool
  | finished .. => true
  | _ => false

/-- The request of the send of a number is handed over. -/
def handsOver (id : Nat) (effect : Effect) : Bool :=
  effect.about? = some id ∧ effect.progress = 2

end Effect

/-- The number of the send that an input asks for. -/
def Input.asks? : Input → Option Nat
  | send id .. => some id
  | _ => none

/-- The numbers of the sends that some inputs ask for. -/
def asked (inputs : List Input) : List Nat :=
  inputs.filterMap Input.asks?

theorem mem_asked {id : Nat} {input : Input} {inputs : List Input} (among : input ∈ inputs)
    (asks : input.asks? = some id) : id ∈ asked inputs :=
  List.mem_filterMap.mpr ⟨input, among, asks⟩

theorem asked_append (inputs later : List Input) :
    asked (inputs ++ later) = asked inputs ++ asked later :=
  List.filterMap_append

/-- Two inputs that ask for the send of a number are the same, if the number is used once. -/
theorem eq_of_asks {id : Nat} {first second : Input} {inputs : List Input}
    (once : (asked inputs).count id ≤ 1) (among : first ∈ inputs) (amongToo : second ∈ inputs)
    (asks : first.asks? = some id) (asksToo : second.asks? = some id) : first = second := by
  obtain ⟨before, after, rfl⟩ := List.append_of_mem among
  have own : (asked [first]).count id = 1 := by simp [asked, asks]
  rw [List.append_cons, asked_append, asked_append, List.count_append, List.count_append,
    own] at once
  have noneBefore : id ∉ asked before := List.count_eq_zero.mp (by omega)
  have noneAfter : id ∉ asked after := List.count_eq_zero.mp (by omega)
  cases List.mem_append.mp amongToo with
  | inl earlier => exact absurd (mem_asked earlier asksToo) noneBefore
  | inr rest =>
    cases rest with
    | head => rfl
    | tail _ later => exact absurd (mem_asked later asksToo) noneAfter

namespace Transport

variable {start transport after : Transport} {sending : Sending} {input : Input} {id : Nat}
variable {inputs : List Input} {effect : Effect} {effects more : List Effect}

/-! ## Single steps -/

/-- A send begins or goes on to a stage, and what is asked for it fits the stage. -/
structure GoesOn (transport : Transport) (sending : Sending) (stage : Stage) (input : Input)
    (after : Transport) (more : List Effect) : Prop where
  begun : input.asks? = some sending.id ∨ sending ∈ transport.sends
  sends : ∀ other ∈ after.sends, other = { sending with stage } ∨
    other ∈ transport.sends ∧ other.id ≠ sending.id
  forward : sending.stage.progress ≤ stage.progress
  about : ∀ effect ∈ more, ∀ id, effect.about? = some id →
    id = sending.id ∧ effect.progress ≤ stage.progress
  unfinished : ∀ effect ∈ more, effect.isFinal = false
  handsOver : (∃ effect ∈ more, effect.progress = 2) → sending.stage.progress < 2
  once : more.countP (·.progress = 2) ≤ 1

/-- A send ends, and nothing more is asked for it. -/
structure Ends (transport : Transport) (id : Nat) (input : Input) (after : Transport)
    (more : List Effect) : Prop where
  sends : ∀ other ∈ after.sends, other ∈ transport.sends ∧ other.id ≠ id
  about : ∀ effect ∈ more, ∀ other, effect.about? = some other → other = id ∧ effect.progress = 0 ∧
    (input.asks? = some id ∨ ∃ sending ∈ transport.sends, sending.id = id)
  timedOut : ∀ error, .finished id (.error error) ∈ more → error.isConnectTimeout = true →
    ∃ sending ∈ transport.sends, sending.id = id ∧ sending.stage.progress = 0

/-- What a step means for the sends: at most one of them goes on or ends. -/
inductive Turn (transport : Transport) (input : Input) (after : Transport) (more : List Effect) :
    Prop
  | quiet (sends : after.sends = transport.sends) (about : ∀ effect ∈ more, effect.about? = none)
  | goesOn {sending : Sending} {stage : Stage}
      (goesOn : transport.GoesOn sending stage input after more)
  | ends {id : Nat} (ends : transport.Ends id input after more)

theorem mem_enter {stage : Stage} {other : Sending}
    (among : other ∈ (transport.enter sending stage).sends) :
    other = { sending with stage } ∨ other ∈ transport.sends ∧ other.id ≠ sending.id := by
  simpa [enter] using among

theorem mem_withoutSend {other : Sending} (among : other ∈ (transport.withoutSend id).sends) :
    other ∈ transport.sends ∧ other.id ≠ id := by
  simpa [withoutSend] using among

theorem about_log {events : List Event} (among : effect ∈ events.map Effect.log) :
    effect.about? = none ∧ effect.progress = 0 ∧ effect.isFinal = false := by
  obtain ⟨event, _, rfl⟩ := List.mem_map.mp among
  exact ⟨rfl, rfl, rfl⟩

/-- Nothing but events, and one thing that is told of a send. -/
theorem goesOn_of_single (stage : Stage) (events : List Event)
    (begun : input.asks? = some sending.id ∨ sending ∈ transport.sends)
    (sends : ∀ other ∈ after.sends, other = { sending with stage } ∨
      other ∈ transport.sends ∧ other.id ≠ sending.id)
    (forward : sending.stage.progress ≤ stage.progress)
    (about : effect.about? = some sending.id) (fits : effect.progress ≤ stage.progress)
    (unfinished : effect.isFinal = false)
    (handsOver : effect.progress < 2 ∨ sending.stage.progress < 2) :
    transport.GoesOn sending stage input after (events.map .log ++ [effect]) where
  begun := begun
  sends := sends
  forward := forward
  about other among id own := by
    cases List.mem_append.mp among with
    | inl isLog => rw [(about_log isLog).1] at own; contradiction
    | inr same =>
      obtain rfl := List.mem_singleton.mp same
      exact ⟨Option.some.inj (own.symm.trans about), fits⟩
  unfinished other among := by
    cases List.mem_append.mp among with
    | inl isLog => exact (about_log isLog).2.2
    | inr same => exact List.mem_singleton.mp same ▸ unfinished
  handsOver := by
    rintro ⟨other, among, isWrite⟩
    cases List.mem_append.mp among with
    | inl isLog => rw [(about_log isLog).2.1] at isWrite; contradiction
    | inr same =>
      obtain rfl := List.mem_singleton.mp same
      exact handsOver.resolve_left (Nat.not_lt_of_le (Nat.le_of_eq isWrite.symm))
  once := by
    have noWrite : (events.map Effect.log).countP (·.progress = 2) = 0 := by
      simp [List.countP_eq_zero, Effect.progress]
    rw [List.countP_append, noWrite, Nat.zero_add]
    exact List.countP_le_length

/-- Nothing but events, and the result of a send. -/
theorem ends_of_finished (events : List Event) {result : Except TransportError Http.Response}
    (among : sending ∈ transport.sends)
    (sends : ∀ other ∈ after.sends, other ∈ transport.sends ∧ other.id ≠ sending.id)
    (timedOut : ∀ error, result = .error error → error.isConnectTimeout = true →
      sending.stage.progress = 0) :
    transport.Ends sending.id input after (events.map .log ++ [.finished sending.id result]) where
  sends := sends
  about effect told other own := by
    cases List.mem_append.mp told with
    | inl isLog => rw [(about_log isLog).1] at own; contradiction
    | inr same =>
      obtain rfl := List.mem_singleton.mp same
      exact ⟨(Option.some.inj own).symm, rfl, .inr ⟨_, among, rfl⟩⟩
  timedOut error told timeout := by
    have isError : result = .error error := by simpa [eq_comm] using told
    exact ⟨sending, among, rfl, timedOut error isError timeout⟩

theorem Acquires.goesOn (input : Input) (acquires : transport.Acquires sending after more)
    (seeking : sending.stage.progress = 0)
    (begun : input.asks? = some sending.id ∨ sending ∈ transport.sends) :
    ∃ stage, transport.GoesOn sending stage input after more := by
  cases acquires with
  | @reuses checkout _ events serves =>
    exact ⟨_, goesOn_of_single (.readying checkout) events begun (fun _ => mem_enter)
      (Nat.le_of_eq seeking) rfl (Nat.le_refl _) rfl (.inl Nat.two_pos)⟩
  | dials events serves =>
    exact ⟨_, goesOn_of_single .dialling events begun (fun _ => mem_enter)
      (Nat.le_of_eq seeking) rfl (Nat.le_refl _) rfl (.inl Nat.two_pos)⟩

theorem Transition.turn (transition : Transition transport input after more) :
    transport.Turn input after more := by
  cases transition with
  | missed _ | unclaimed _ _ | broke _ | closed _ | elapsed _ =>
    exact .quiet rfl (List.forall_mem_nil _)
  | evicted address =>
    refine .quiet rfl fun effect among => ?_
    cases List.mem_append.mp among with
    | inl isLog => exact (about_log isLog).1
    | inr same => exact List.mem_singleton.mp same ▸ rfl
  | @refused id address request error free noForm =>
    have ends : transport.Ends id (.send id address request) transport
        [.finished id (.error (.request error))] := by
      refine ⟨fun other among => ⟨among, ?_⟩, ?_, ?_⟩
      · simpa using List.find?_eq_none.mp free other among
      · simp [Effect.about?, Effect.progress, Input.asks?]
      · simp [TransportError.isConnectTimeout]
    exact .ends ends
  | sent _ _ acquires =>
    obtain ⟨stage, goesOn⟩ := acquires.goesOn (.send _ _ _) rfl (.inl rfl)
    exact .goesOn goesOn
  | again among readying acquires =>
    obtain ⟨stage, goesOn⟩ := acquires.goesOn _ (congrArg Stage.progress readying) (.inr among)
    exact .goesOn goesOn
  | @wrote sending checkout among readying =>
    refine .goesOn (goesOn_of_single (.waiting checkout) [] (.inr among)
      (fun _ => mem_enter) ?_ rfl (Nat.le_refl _) rfl (.inr ?_))
    all_goals simp [readying, Stage.progress]
  | @opened sending secured among opening =>
    refine .goesOn (goesOn_of_single (.waiting (.fresh transport.lines.length transport.now))
      [.connectionCreated _ _] (.inr among) (fun _ => mem_enter) ?_ rfl (Nat.le_refl _) rfl
      (.inr ?_))
    all_goals simp [opening, Stage.progress]
  | @proceeded sending _ stage _ among proceeds =>
    cases proceeds with
    | plain dialling _ =>
      exact .goesOn (goesOn_of_single _ [] (.inr among) (fun _ => mem_enter)
        (by simp [dialling, Stage.progress]) rfl (Nat.le_refl _) rfl (.inl Nat.one_lt_two))
    | encrypted dialling _ =>
      exact .goesOn (goesOn_of_single _ [] (.inr among) (fun _ => mem_enter)
        (by simp [dialling, Stage.progress]) rfl (Nat.le_refl _) rfl (.inl Nat.one_lt_two))
    | trusted securing _ _ =>
      exact .goesOn (goesOn_of_single _ _ (.inr among) (fun _ => mem_enter)
        (by simp [securing, Stage.progress]) rfl (Nat.le_refl _) rfl (.inl Nat.one_lt_two))
  | @headed sending checkout response among waiting =>
    have goesOn : transport.GoesOn sending (.receiving checkout response)
        (.head checkout.connection response)
        (transport.enter sending (.receiving checkout response)) [] := by
      refine ⟨.inr among, fun _ => mem_enter, ?_, List.forall_mem_nil _, List.forall_mem_nil _, ?_,
        Nat.zero_le _⟩
      · simp [waiting, Stage.progress]
      · simp
    exact .goesOn goesOn
  | failed among fails =>
    refine .ends (ends_of_finished _ among (fun _ => mem_withoutSend) ?_)
    intro error isError timeout
    cases isError
    cases fails with
    | timedOut dialling => exact congrArg Stage.progress dialling
    | connect _ _ | unusable _ _ | handshake _ | distrusted _ _ _ | unopened _ => contradiction
  | answered body among receiving =>
    exact .ends (ends_of_finished [] among (fun _ => mem_withoutSend) nofun)
  | brokeOff among busy =>
    refine .ends (ends_of_finished [] among (fun _ => mem_withoutSend) ?_)
    intro error isError timeout
    cases isError
    contradiction
  | cancelled id =>
    exact .ends ⟨fun _ => mem_withoutSend, List.forall_mem_nil _, by simp⟩

/-! ## Whole runs -/

/-- What can be told of the send of a number, after some inputs and effects. -/
structure Course (id : Nat) (inputs : List Input) (effects : List Effect) (transport : Transport) :
    Prop where
  unasked : id ∉ asked inputs →
    (∀ effect ∈ effects, effect.about? ≠ some id) ∧ ∀ sending ∈ transport.sends, sending.id ≠ id
  underWay : ∀ sending ∈ transport.sends, sending.id = id →
    (∀ effect ∈ effects, effect.about? = some id → effect.progress ≤ sending.stage.progress) ∧
      ∀ result, .finished id result ∉ effects
  once : effects.countP (·.handsOver id) ≤ 1
  timedOut : ∀ error, .finished id (.error error) ∈ effects → error.isConnectTimeout = true →
    ∀ effect ∈ effects, effect.about? = some id → effect.progress = 0

theorem countP_handsOver_eq_zero
    (none : ∀ effect ∈ effects, effect.about? = some id → effect.progress ≠ 2) :
    effects.countP (·.handsOver id) = 0 := by
  simpa [List.countP_eq_zero, Effect.handsOver] using none

namespace Course

theorem of_start (unused : ∀ sending ∈ start.sends, sending.id ≠ id) : Course id [] [] start where
  unasked _ := ⟨List.forall_mem_nil _, unused⟩
  underWay sending among own := absurd own (unused sending among)
  once := Nat.zero_le 1
  timedOut _ told := absurd told List.not_mem_nil

/-- A step that is not about the send. -/
theorem aside (course : Course id inputs effects transport)
    (sends : ∀ sending ∈ after.sends, sending.id = id → sending ∈ transport.sends)
    (about : ∀ effect ∈ more, effect.about? ≠ some id) :
    Course id (inputs ++ [input]) (effects ++ more) after where
  unasked notAsked := by
    rw [asked_append] at notAsked
    obtain ⟨silent, unused⟩ := course.unasked fun isAsked =>
      notAsked (List.mem_append_left _ isAsked)
    refine ⟨List.forall_mem_append.mpr ⟨silent, about⟩, fun sending among own => ?_⟩
    exact unused sending (sends sending among own) own
  underWay sending among own := by
    obtain ⟨fits, unfinished⟩ := course.underWay sending (sends sending among own) own
    refine ⟨List.forall_mem_append.mpr ⟨fits, ?_⟩, fun result told => ?_⟩
    · exact fun effect told own => absurd own (about effect told)
    cases List.mem_append.mp told with
    | inl before => exact unfinished result before
    | inr now => exact about _ now rfl
  once := by
    rw [List.countP_append,
      countP_handsOver_eq_zero fun effect told own => absurd own (about effect told)]
    exact course.once
  timedOut error told timeout := by
    cases List.mem_append.mp told with
    | inl before =>
      exact List.forall_mem_append.mpr ⟨course.timedOut error before timeout,
        fun effect told own => absurd own (about effect told)⟩
    | inr now => exact absurd rfl (about _ now)

/-- What was told of a send before it goes on: nothing if it has just been asked for. -/
theorem before (course : Course id inputs effects transport)
    (fresh : input.asks? = some id → id ∉ asked inputs)
    (begun : input.asks? = some id ∨ sending ∈ transport.sends) (own : sending.id = id) :
    (∀ effect ∈ effects, effect.about? = some id → effect.progress ≤ sending.stage.progress) ∧
      ∀ result, .finished id result ∉ effects := by
  cases begun with
  | inr among => exact course.underWay sending among own
  | inl asks =>
    obtain ⟨silent, _⟩ := course.unasked (fresh asks)
    exact ⟨fun effect told own => absurd own (silent effect told),
      fun result told => silent _ told rfl⟩

theorem goesOn {stage : Stage} (course : Course sending.id inputs effects transport)
    (fresh : input.asks? = some sending.id → sending.id ∉ asked inputs)
    (goesOn : transport.GoesOn sending stage input after more) :
    Course sending.id (inputs ++ [input]) (effects ++ more) after := by
  obtain ⟨fits, unfinished⟩ := course.before fresh goesOn.begun rfl
  constructor
  case unasked =>
    intro notAsked
    rw [asked_append, List.mem_append, not_or] at notAsked
    cases goesOn.begun with
    | inl asks => exact absurd (by simp [asked, asks]) notAsked.2
    | inr among => exact absurd rfl ((course.unasked notAsked.1).2 sending among)
  case underWay =>
    intro other among own
    cases goesOn.sends other among with
    | inr apart => exact absurd own apart.2
    | inl same =>
      subst same
      refine ⟨List.forall_mem_append.mpr ⟨?_, ?_⟩, fun result told => ?_⟩
      · exact fun effect told own => Nat.le_trans (fits effect told own) goesOn.forward
      · exact fun effect told own => (goesOn.about effect told _ own).2
      · cases List.mem_append.mp told with
        | inl before => exact unfinished result before
        | inr now => exact Bool.noConfusion (goesOn.unfinished _ now)
  case once =>
    rw [List.countP_append]
    by_cases writes : ∃ effect ∈ more, effect.progress = 2
    -- Only a send that has not come so far yet hands its request over.
    · have early := goesOn.handsOver writes
      have noneBefore : effects.countP (·.handsOver sending.id) = 0 :=
        countP_handsOver_eq_zero fun effect told own =>
          Nat.ne_of_lt (Nat.lt_of_le_of_lt (fits effect told own) early)
      rw [noneBefore, Nat.zero_add]
      refine Nat.le_trans (List.countP_mono_left fun effect _ isWrite => ?_) goesOn.once
      exact decide_eq_true (of_decide_eq_true isWrite).2
    · rw [countP_handsOver_eq_zero fun effect told _ isWrite => writes ⟨effect, told, isWrite⟩]
      exact course.once
  case timedOut =>
    intro error told
    cases List.mem_append.mp told with
    | inl before => exact absurd before (unfinished _)
    | inr now => exact Bool.noConfusion (goesOn.unfinished _ now)

theorem ends (course : Course id inputs effects transport)
    (ends : transport.Ends id input after more) :
    Course id (inputs ++ [input]) (effects ++ more) after where
  unasked notAsked := by
    rw [asked_append, List.mem_append, not_or] at notAsked
    obtain ⟨silent, unused⟩ := course.unasked notAsked.1
    refine ⟨List.forall_mem_append.mpr ⟨silent, fun effect told own => ?_⟩,
      fun sending among => (ends.sends sending among).2⟩
    cases (ends.about effect told _ own).2.2 with
    | inl asks => exact absurd (by simp [asked, asks]) notAsked.2
    | inr underWay =>
      obtain ⟨sending, among, own⟩ := underWay
      exact unused sending among own
  underWay sending among own := absurd own (ends.sends sending among).2
  once := by
    have none : more.countP (·.handsOver id) = 0 := by
      refine countP_handsOver_eq_zero fun effect told own => ?_
      rw [(ends.about effect told _ own).2.1]
      exact nofun
    rw [List.countP_append, none]
    exact course.once
  timedOut error told timeout := by
    refine List.forall_mem_append.mpr ⟨?_, ?_⟩
    · cases List.mem_append.mp told with
      | inl before => exact course.timedOut error before timeout
      | inr now =>
        obtain ⟨sending, among, own, seeking⟩ := ends.timedOut error now timeout
        intro effect told about
        exact Nat.le_zero.mp (seeking ▸ (course.underWay sending among own).1 effect told about)
    · exact fun effect told own => (ends.about effect told _ own).2.1

theorem step (course : Course id inputs effects transport)
    (fresh : input.asks? = some id → id ∉ asked inputs)
    (transition : Transition transport input after more) :
    Course id (inputs ++ [input]) (effects ++ more) after := by
  cases transition.turn with
  | quiet sends about =>
    exact course.aside (fun sending among _ => sends ▸ among) fun effect told => by
      simp [about effect told]
  | @goesOn sending stage goesOn =>
    by_cases own : sending.id = id
    · subst own
      exact course.goesOn fresh goesOn
    · refine course.aside (fun other among isOther => ?_) fun effect told => ?_
      · cases goesOn.sends other among with
        | inl same =>
          subst same
          exact absurd isOther own
        | inr apart => exact apart.1
      · exact fun isOther => own (goesOn.about effect told _ isOther).1.symm
  | @ends other ends =>
    by_cases own : other = id
    · subst own
      exact course.ends ends
    · exact course.aside (fun sending among _ => (ends.sends sending among).1)
        fun effect told isOther => own (ends.about effect told _ isOther).1.symm

/-- The course of a send whose number is used once. -/
theorem of_run (unused : ∀ sending ∈ start.sends, sending.id ≠ id)
    (once : (asked inputs).count id ≤ 1) :
    Course id inputs (start.run inputs).2 (start.run inputs).1 := by
  revert once
  refine run_induction (motive := fun inputs effects transport =>
    (asked inputs).count id ≤ 1 → Course id inputs effects transport)
    (fun _ => .of_start unused) ?_ inputs
  intro inputs input more after ih stepped once
  rw [asked_append, List.count_append] at once
  refine (ih (Nat.le_of_add_right_le once)).step (fun asks => ?_) (.of_step stepped)
  have now : (asked [input]).count id = 1 := by simp [asked, asks]
  exact List.count_eq_zero.mp (by omega)

end Course

end Transport

end OneHost.Connection
