import OneHost.Proofs.Connection.Carrying

/-!
# What can be told from the effects

The effects of a run tell which requests were written to which connection, and for whom. What a
transport remembers of its connections and sends agrees with them, and with the inputs.
-/

namespace OneHost.Connection

/-- The requests that were written to a connection, each with the number of its send. -/
def writes (connection : Nat) (effects : List Effect) : List (Nat × Http.Request) :=
  effects.filterMap fun
    | .write id line _ request => if line = connection then some (id, request) else none
    | _ => none

theorem writes_append (connection : Nat) (effects more : List Effect) :
    writes connection (effects ++ more) = writes connection effects ++ writes connection more :=
  List.filterMap_append

@[simp] theorem writes_logs (connection : Nat) (events : List Event) :
    writes connection (events.map .log) = [] := by
  simp [writes]

theorem mem_writes {connection id : Nat} {request : Http.Request} {effects : List Effect} :
    (id, request) ∈ writes connection effects ↔
      ∃ address, .write id connection address request ∈ effects := by
  rw [writes, List.mem_filterMap]
  constructor
  · rintro ⟨effect, among, isWrite⟩
    split at isWrite
    · split at isWrite
      · rename_i address _ own
        obtain ⟨rfl, rfl⟩ := Prod.mk.inj (Option.some.inj isWrite)
        exact ⟨address, own ▸ among⟩
      · contradiction
    · contradiction
  · rintro ⟨address, among⟩
    exact ⟨_, among, if_pos rfl⟩

theorem getElem?_writes_append {connection position : Nat} {effects : List Effect}
    {entry : Nat × Http.Request} (found : (writes connection effects)[position]? = some entry)
    (more : List Effect) : (writes connection (effects ++ more))[position]? = some entry := by
  obtain ⟨bound, _⟩ := List.getElem?_eq_some_iff.mp found
  rw [writes_append, List.getElem?_append_left bound, found]

namespace Line

/-- Where a connection goes, and how it was secured. -/
def making (line : Line) : SocketAddress × Option Secured :=
  (line.address, line.secured)

theorem making_write (request : Http.Request) (line : Line) :
    (line.write request).making = line.making := rfl

theorem making_noteAnswer (line : Line) : line.noteAnswer.making = line.making := by
  unfold noteAnswer
  split <;> rfl

theorem making_close (line : Line) : line.close.making = line.making := rfl

end Line

namespace Transport

variable {transport after : Transport} {sending : Sending} {input : Input}
variable {inputs : List Input} {effects more : List Effect}

/-- The requests that were written to a connection, as the transport remembers them. -/
def written (transport : Transport) (connection : Nat) : List Http.Request :=
  (transport.lines[connection]?.map (·.written)).getD []

theorem Carries.length_written {connection exchanges : Nat} {address : SocketAddress}
    {pending : List Http.Request}
    (carries : transport.Carries connection address exchanges pending) :
    (transport.written connection).length = exchanges + pending.length := by
  obtain ⟨line, found, carries⟩ := carries
  rw [written, found]
  exact carries.length_written

theorem written_modifyLine {change : Line → Line}
    (same : ∀ line : Line, (change line).written = line.written) (line connection : Nat) :
    (transport.modifyLine line change).written connection = transport.written connection :=
  congrArg (·.getD []) (map_modifyLine fun _ => same)

theorem written_noteAnswer (line : Line) : line.noteAnswer.written = line.written := by
  unfold Line.noteAnswer
  split <;> rfl

theorem written_close (line : Line) : line.close.written = line.written := rfl

/-! ## What a step writes -/

theorem written_writeTo {checkout : Checkout Nat}
    (isThere : checkout.connection < transport.lines.length) (connection : Nat) :
    (transport.writeTo sending checkout).1.written connection =
      transport.written connection ++
        (writes connection (transport.writeTo sending checkout).2).map (·.2) := by
  have changed : (transport.writeTo sending checkout).1.written connection =
      (transport.modifyLine checkout.connection (·.write sending.request)).written connection := rfl
  rw [changed, written, lines_modifyLine]
  by_cases own : checkout.connection = connection
  · subst own
    simp [written, writes, writeTo, List.getElem?_eq_getElem isThere, Line.write]
  · simp [written, writes, writeTo, own]

theorem written_newLine (address : SocketAddress) (secured : Option Secured) (cache : Cache Nat)
    (connection : Nat) :
    written { transport with lines := transport.lines ++ [{ address, secured }], cache }
      connection = transport.written connection :=
  getD_newLine rfl transport connection

theorem written_opened (transport : Transport) (sending : Sending) (secured : Option Secured)
    (connection : Nat) :
    (transport.opened sending secured).1.written connection =
      transport.written connection ++
        (writes connection (transport.opened sending secured).2).map (·.2) := by
  have written := @written_writeTo
    { transport with
      lines := transport.lines ++ [{ address := sending.address, secured }]
      cache := transport.cache.recordCreated sending.address }
    sending (.fresh transport.lines.length transport.now) (by simp [Checkout.fresh]) connection
  rwa [written_newLine] at written

theorem Acquires.lines_eq (acquires : transport.Acquires sending after more) :
    after.lines = transport.lines := by
  cases acquires <;> rfl

theorem Acquires.writes_eq_nil (acquires : transport.Acquires sending after more)
    (connection : Nat) : writes connection more = [] := by
  cases acquires <;> rw [writes_append, writes_logs] <;> rfl

theorem Proceeds.writes_eq_nil {stage : Stage}
    (proceeds : transport.Proceeds sending input stage more) (connection : Nat) :
    writes connection more = [] := by
  cases proceeds with
  | plain _ _ | encrypted _ _ => rfl
  | trusted _ _ _ => rw [writes_append, writes_logs]; rfl

/-- Whatever a transport remembers as written in a step can be told from the effects. -/
theorem Transition.written (transition : Transition transport input after more)
    (wellFormed : transport.WellFormed) (connection : Nat) :
    after.written connection =
      transport.written connection ++ (writes connection more).map (·.2) := by
  have silent {after : Transport} {more : List Effect} (quiet : writes connection more = [])
      (same : after.written connection = transport.written connection) :
      after.written connection =
        transport.written connection ++ (writes connection more).map (·.2) := by
    rw [quiet, same]
    exact (List.append_nil _).symm
  cases transition with
  | missed _ | refused _ _ | headed _ _ _ | cancelled _ | elapsed _ => exact silent rfl rfl
  | sent _ _ acquires | again _ _ acquires =>
    refine silent (acquires.writes_eq_nil connection) ?_
    rw [Transport.written, acquires.lines_eq, Transport.written]
  | proceeded _ proceeds => exact silent (proceeds.writes_eq_nil connection) rfl
  | failed _ _ | evicted _ => exact silent (by rw [writes_append, writes_logs]; rfl) rfl
  | @wrote sending checkout among readying =>
    have holds : sending.stage.checkout? = some checkout := congrArg Stage.checkout? readying
    exact written_writeTo (wellFormed.held sending among checkout holds).lt_length connection
  | opened _ _ => exact written_opened ..
  | answered _ _ _ | unclaimed _ _ =>
    exact silent rfl (written_modifyLine written_noteAnswer _ connection)
  | brokeOff _ _ | broke _ | closed _ =>
    exact silent rfl (written_modifyLine written_close _ connection)

/-- Whoever has written a request waits for the answer to it. -/
theorem Transition.waits_of_write (transition : Transition transport input after more)
    {id connection : Nat} {address : SocketAddress} {request : Http.Request}
    (written : .write id connection address request ∈ more) :
    ∃ sending ∈ after.sends, ∃ checkout, sending.stage = .waiting checkout ∧
      sending.id = id ∧ checkout.connection = connection ∧ sending.address = address ∧
      sending.request = request := by
  cases transition with
  | wrote _ _ | opened _ _ =>
    obtain ⟨rfl, rfl, rfl, rfl⟩ := by simpa [Transport.opened, writeTo] using written
    exact ⟨_, .head _, _, rfl, rfl, rfl, rfl, rfl⟩
  | sent _ _ acquires | again _ _ acquires => cases acquires <;> simp at written
  | proceeded _ proceeds => cases proceeds <;> simp at written
  | missed _ | refused _ _ | failed _ _ | headed _ _ _ | answered _ _ _ | unclaimed _ _
    | brokeOff _ _ | broke _ | closed _ | cancelled _ | evicted _ | elapsed _ =>
    simp at written

/-! ## How connections were made -/

/-- How a connection was made. -/
def making? (transport : Transport) (connection : Nat) : Option (SocketAddress × Option Secured) :=
  transport.lines[connection]?.map Line.making

theorem making?_modifyLine {change : Line → Line}
    (same : ∀ line : Line, (change line).making = line.making) (line connection : Nat) :
    (transport.modifyLine line change).making? connection = transport.making? connection :=
  map_modifyLine fun _ => same

/-- A connection has just been made by a send that dialled its address. -/
structure Makes (transport after : Transport) (more : List Effect) (connection : Nat)
    (maker : Sending) (secured : Option Secured) : Prop where
  among : maker ∈ transport.sends
  opening : maker.stage = .opening secured
  isNew : transport.lines.length = connection
  making : after.making? connection = some (maker.address, secured)
  writes : writes connection more = [(maker.id, maker.request)]

theorem making?_opened {secured : Option Secured} (among : sending ∈ transport.sends)
    (opening : sending.stage = .opening secured) (connection : Nat) :
    (transport.opened sending secured).1.making? connection = transport.making? connection ∨
      transport.Makes (transport.opened sending secured).1
        (transport.opened sending secured).2 connection sending secured := by
  have lines : (transport.opened sending secured).1.making? connection =
      making? { transport with
        lines := transport.lines ++ [{ address := sending.address, secured }] } connection :=
    making?_modifyLine (Line.making_write sending.request) _ _
  by_cases own : transport.lines.length = connection
  · subst own
    refine .inr ⟨among, opening, rfl, ?_, ?_⟩
    · rw [lines, making?, List.getElem?_concat_length]
      rfl
    · simp [writes, Transport.opened, writeTo, Checkout.fresh]
  · refine .inl (lines.trans ?_)
    simp only [making?, List.getElem?_append, List.getElem?_singleton]
    split
    · rfl
    · rename_i beyond
      rw [if_neg (by omega), List.getElem?_eq_none (Nat.le_of_not_lt beyond)]

/-- A connection was made as it was, or it has just been made. -/
theorem Transition.making? (transition : Transition transport input after more)
    (connection : Nat) :
    after.making? connection = transport.making? connection ∨
      ∃ maker secured, transport.Makes after more connection maker secured := by
  cases transition with
  | missed _ | refused _ _ | headed _ _ _ | cancelled _ | elapsed _ | proceeded _ _ | failed _ _
    | evicted _ => exact .inl rfl
  | sent _ _ acquires | again _ _ acquires =>
    rw [Transport.making?, acquires.lines_eq]
    exact .inl rfl
  | wrote _ _ => exact .inl (making?_modifyLine (Line.making_write _) _ connection)
  | opened among opening =>
    exact (making?_opened among opening connection).imp_right fun makes => ⟨_, _, makes⟩
  | answered _ _ _ | unclaimed _ _ =>
    exact .inl (making?_modifyLine Line.making_noteAnswer _ connection)
  | brokeOff _ _ | broke _ | closed _ =>
    exact .inl (making?_modifyLine Line.making_close _ connection)

/-- The sends that made the connections: each was the first to write a request to its connection,
and something holds of its number, of the address that it dialled and of the security that it
got. -/
def Makers (transport : Transport) (effects : List Effect)
    (holds : Nat → SocketAddress → Option Secured → Prop) : Prop :=
  ∀ connection address secured, transport.making? connection = some (address, secured) →
    ∃ maker request, (writes connection effects).head? = some (maker, request) ∧
      holds maker address secured

theorem Makers.imp {holds holdsToo : Nat → SocketAddress → Option Secured → Prop}
    (makers : transport.Makers effects holds)
    (implies : ∀ maker address secured, holds maker address secured →
      holdsToo maker address secured) :
    transport.Makers effects holdsToo := by
  intro connection address secured made
  obtain ⟨maker, request, first, holds⟩ := makers connection address secured made
  exact ⟨maker, request, first, implies maker address secured holds⟩

/-- In a step at most one connection is made, by a send that is under way. -/
theorem Makers.step {holds : Nat → SocketAddress → Option Secured → Prop}
    (makers : transport.Makers effects holds)
    (transition : Transition transport input after more)
    (isNew : (writes transport.lines.length effects) = [])
    (opens : ∀ maker ∈ transport.sends, ∀ secured, maker.stage = .opening secured →
      holds maker.id maker.address secured) :
    after.Makers (effects ++ more) holds := by
  intro connection address secured made
  rw [writes_append]
  cases transition.making? connection with
  | inl same =>
    obtain ⟨maker, request, first, holds⟩ :=
      makers connection address secured (same.symm.trans made)
    refine ⟨maker, request, ?_, holds⟩
    rw [List.head?_append, first]
    rfl
  | inr makes =>
    obtain ⟨maker, securedNow, makes⟩ := makes
    obtain ⟨rfl, rfl⟩ := Prod.mk.inj (Option.some.inj (makes.making.symm.trans made))
    refine ⟨maker.id, maker.request, ?_, opens maker makes.among securedNow makes.opening⟩
    rw [← makes.isNew, isNew, makes.isNew, makes.writes]
    rfl

/-! ## Where connections go -/

/-- The address of a connection. -/
def goesTo? (transport : Transport) (connection : Nat) : Option SocketAddress :=
  transport.lines[connection]?.map (·.address)

theorem goesTo?_eq (transport : Transport) (connection : Nat) :
    transport.goesTo? connection = (transport.making? connection).map (·.1) := by
  rw [goesTo?, making?, Option.map_map]
  rfl

theorem Carries.goesTo {connection exchanges : Nat} {address : SocketAddress}
    {pending : List Http.Request}
    (carries : transport.Carries connection address exchanges pending) :
    transport.goesTo? connection = some address := by
  obtain ⟨line, found, carries⟩ := carries
  rw [goesTo?, found]
  exact congrArg some carries.toAddress

theorem Transition.goesTo?_eq_some {connection : Nat} {address : SocketAddress}
    (transition : Transition transport input after more)
    (goesTo : transport.goesTo? connection = some address) :
    after.goesTo? connection = some address := by
  cases transition.making? connection with
  | inl same => rw [goesTo?_eq, same, ← goesTo?_eq, goesTo]
  | inr made =>
    obtain ⟨maker, secured, makes⟩ := made
    rw [Transport.goesTo?, List.getElem?_eq_none (Nat.le_of_eq makes.isNew)] at goesTo
    contradiction

end Transport

/-! ## What is remembered is recorded -/

/-- A send was asked for; it has dialled its address, or has a connection; and if an answer is to
come to it, then its request was written after those that the connection had carried before. -/
structure Sending.RecordedIn (sending : Sending) (inputs : List Input) (effects : List Effect) :
    Prop where
  asked : ∃ request, .send sending.id sending.address request ∈ inputs ∧
    request.originForm = .ok sending.request
  dialled : sending.connection? = none → .dial sending.id sending.address ∈ effects
  wrote : ∀ checkout, sending.stage.checkout? = some checkout → sending.pending ≠ [] →
    (writes checkout.connection effects)[checkout.useCount]? = some (sending.id, sending.request)

theorem Sending.RecordedIn.mono {sending : Sending} {inputs : List Input} {effects : List Effect}
    (recorded : sending.RecordedIn inputs effects) (input : Input) (more : List Effect) :
    sending.RecordedIn (inputs ++ [input]) (effects ++ more) where
  asked := by
    obtain ⟨request, asked, hasForm⟩ := recorded.asked
    exact ⟨request, List.mem_append_left _ asked, hasForm⟩
  dialled bare := List.mem_append_left _ (recorded.dialled bare)
  wrote checkout holds isPending :=
    getElem?_writes_append (recorded.wrote checkout holds isPending) more

namespace Transport

variable {transport after : Transport} {sending : Sending} {input : Input}
variable {inputs : List Input} {effects more : List Effect}

/-- What a transport remembers agrees with the inputs and effects. The first request of each
connection was written for the send that made it. -/
structure Recorded (inputs : List Input) (effects : List Effect) (transport : Transport) :
    Prop where
  written : ∀ connection, transport.written connection = (writes connection effects).map (·.2)
  makers : transport.Makers effects fun maker address _ => .dial maker address ∈ effects
  sends : ∀ sending ∈ transport.sends, sending.RecordedIn inputs effects

namespace Recorded

theorem of_make (channel : Channel) (connectTimeout : Duration) (limits : Limits) :
    Recorded [] [] (make channel connectTimeout limits) where
  written _ := rfl
  makers connection address secured made := by simp [make, making?] at made
  sends sending among := by simp [make] at among

theorem length_writes (recorded : Recorded inputs effects transport) (connection : Nat) :
    (writes connection effects).length = (transport.written connection).length := by
  rw [recorded.written, List.length_map]

/-- No request was written to a connection that is yet to be made. -/
theorem writes_length (recorded : Recorded inputs effects transport) :
    writes transport.lines.length effects = [] := by
  apply List.eq_nil_of_length_eq_zero
  rw [recorded.length_writes, Transport.written]
  simp

theorem dialled (recorded : Recorded inputs effects transport) (connection : Nat)
    (address : SocketAddress) (goesTo : transport.goesTo? connection = some address) :
    ∃ maker request, (writes connection effects).head? = some (maker, request) ∧
      .dial maker address ∈ effects := by
  rw [goesTo?_eq] at goesTo
  obtain ⟨⟨_, secured⟩, made, rfl⟩ := Option.map_eq_some_iff.mp goesTo
  exact recorded.makers connection _ secured made

theorem makers_step (recorded : Recorded inputs effects transport)
    (transition : Transition transport input after more) :
    after.Makers (effects ++ more)
      fun maker address _ => .dial maker address ∈ effects ++ more := by
  have makers : after.Makers (effects ++ more) fun maker address _ =>
      .dial maker address ∈ effects := by
    refine recorded.makers.step transition recorded.writes_length fun maker among secured opening =>
      (recorded.sends maker among).dialled ?_
    rw [Sending.connection?, opening]
    rfl
  exact makers.imp fun maker address secured => List.mem_append_left more

theorem of_acquires (acquires : transport.Acquires sending after more)
    (others : ∀ other ∈ (transport.withoutSend sending.id).sends,
      other.RecordedIn inputs (effects ++ more))
    (asked : ∃ request, .send sending.id sending.address request ∈ inputs ∧
      request.originForm = .ok sending.request) :
    ∀ other ∈ after.sends, other.RecordedIn inputs (effects ++ more) := by
  cases acquires with
  | reuses events _ =>
    exact forall_mem_enter others ⟨asked, nofun, fun _ _ isPending => absurd rfl isPending⟩
  | dials events _ =>
    refine forall_mem_enter others ⟨asked, fun _ => ?_, nofun⟩
    exact List.mem_append_right _ (List.mem_append_right _ (.head _))

/-- A send that writes its request now waits for the answer to it. -/
theorem of_writeTo {checkout : Checkout Nat}
    (others : ∀ other ∈ (transport.withoutSend sending.id).sends,
      other.RecordedIn inputs (effects ++ more))
    (asked : ∃ request, .send sending.id sending.address request ∈ inputs ∧
      request.originForm = .ok sending.request)
    (before : (writes checkout.connection effects).length = checkout.useCount)
    (writesNow : writes checkout.connection more = [(sending.id, sending.request)]) :
    ∀ other ∈ (transport.writeTo sending checkout).1.sends,
      other.RecordedIn inputs (effects ++ more) := by
  refine forall_mem_enter others ⟨asked, nofun, fun other holds _ => ?_⟩
  obtain rfl := Option.some.inj holds
  rw [writes_append, writesNow, ← before, List.getElem?_concat_length]

theorem sends_step (recorded : Recorded inputs effects transport)
    (wellFormed : transport.WellFormed)
    (transition : Transition transport input after more) :
    ∀ sending ∈ after.sends, sending.RecordedIn (inputs ++ [input]) (effects ++ more) := by
  have others : ∀ sending ∈ transport.sends,
      sending.RecordedIn (inputs ++ [input]) (effects ++ more) :=
    fun sending among => (recorded.sends sending among).mono input more
  have remaining (id : Nat) : ∀ sending ∈ (transport.withoutSend id).sends,
      sending.RecordedIn (inputs ++ [input]) (effects ++ more) :=
    fun sending among => others sending (List.mem_of_mem_filter among)
  cases transition with
  | missed _ | refused _ _ | unclaimed _ _ | broke _ | closed _ | evicted _ | elapsed _ =>
    exact others
  | failed _ _ | answered _ _ _ | brokeOff _ _ | cancelled _ => exact remaining _
  | @sent id address request form _ _ free hasForm acquires =>
    exact of_acquires acquires (remaining _)
      ⟨request, List.mem_append_right _ (List.mem_singleton_self _), hasForm⟩
  | again among _ acquires => exact of_acquires acquires (remaining _) (others _ among).asked
  | @wrote sending checkout among readying =>
    have holds : sending.stage.checkout? = some checkout := congrArg Stage.checkout? readying
    have carries := wellFormed.held sending among checkout holds
    rw [Sending.pending, readying] at carries
    refine of_writeTo (remaining _) (others _ among).asked ?_ (by simp [writes, writeTo])
    rw [recorded.length_writes, carries.length_written]
    rfl
  | @proceeded sending _ stage _ among proceeds =>
    have own := others sending among
    refine forall_mem_enter (remaining _) ⟨own.asked, fun _ => own.dialled ?_, fun _ holds => ?_⟩
    · cases proceeds <;> simp [Sending.connection?, Stage.checkout?, *]
    · cases proceeds <;> cases holds
  | @opened sending secured among opening =>
    refine of_writeTo (remaining _) (others _ among).asked ?_
      (by simp [writes, Transport.opened, writeTo, Checkout.fresh])
    rw [recorded.length_writes, Transport.written]
    simp [Checkout.fresh]
  | @headed sending checkout response among waiting =>
    have own := others sending among
    refine forall_mem_enter (remaining _) ⟨own.asked, fun bare => ?_, fun other holds _ => ?_⟩
    · exact absurd bare (Option.some_ne_none _)
    obtain rfl := Option.some.inj holds
    exact own.wrote checkout (congrArg Stage.checkout? waiting) (by simp [Sending.pending, waiting])

theorem step (recorded : Recorded inputs effects transport) (wellFormed : transport.WellFormed)
    (transition : Transition transport input after more) :
    Recorded (inputs ++ [input]) (effects ++ more) after where
  written connection := by
    rw [transition.written wellFormed, recorded.written, writes_append, List.map_append]
  makers := recorded.makers_step transition
  sends := recorded.sends_step wellFormed transition

theorem of_run (channel : Channel) (connectTimeout : Duration) (limits : Limits)
    (inputs : List Input) :
    Recorded inputs ((make channel connectTimeout limits).run inputs).2
      ((make channel connectTimeout limits).run inputs).1 :=
  run_induction (.of_make ..) (fun recorded stepped =>
    recorded.step ((WellFormed.of_make ..).run _) (.of_step stepped)) inputs

end Recorded

/-- Requests are written for the sends that were asked for. -/
theorem asked_of_write (channel : Channel) (connectTimeout : Duration) (limits : Limits)
    (inputs : List Input) {id connection : Nat} {address : SocketAddress} {form : Http.Request}
    (written : .write id connection address form ∈
      ((make channel connectTimeout limits).run inputs).2) :
    ∃ request, .send id address request ∈ inputs ∧ request.originForm = .ok form := by
  revert written
  refine run_induction (motive := fun inputs effects _ =>
    .write id connection address form ∈ effects →
      ∃ request, .send id address request ∈ inputs ∧ request.originForm = .ok form) nofun ?_ inputs
  intro inputs input more after ih stepped written
  cases List.mem_append.mp written with
  | inl before =>
    obtain ⟨request, asked, hasForm⟩ := ih before
    exact ⟨request, List.mem_append_left _ asked, hasForm⟩
  | inr now =>
    have transition := Transition.of_step stepped
    obtain ⟨sending, among, _, _, rfl, _, rfl, rfl⟩ := transition.waits_of_write now
    have recorded := (Recorded.of_run channel connectTimeout limits inputs).step
      ((WellFormed.of_make ..).run inputs) transition
    exact (recorded.sends sending among).asked

end Transport

end OneHost.Connection
