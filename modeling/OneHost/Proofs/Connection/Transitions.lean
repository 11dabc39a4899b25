import Mathlib.Data.List.Induction
import OneHost.Connection.Transport
import OneHost.Proofs.Connection.Keeping

/-!
# Every transition of a transport by itself

An input either does not fit the state of the transport, and changes nothing, or it does just one
thing. `Transition` lists these, with what makes an input fit; facts about single inputs are read
off the list instead of the step, and facts about runs by induction on their last input.
-/

namespace OneHost.Connection

/-- The connection in the hand of a send. -/
def Sending.connection? (sending : Sending) : Option Nat :=
  sending.stage.checkout?.map (·.connection)

/-- An input that does not fit: the send that it is meant for does not wait for it. -/
def Input.Misses (transport : Transport) : Input → Prop
  | .head line _ => ∀ sending, transport.holder? line = some sending →
      ∀ checkout, sending.stage ≠ .waiting checkout
  | .body line _ => ∃ sending, transport.holder? line = some sending ∧
      ∀ checkout head, sending.stage ≠ .receiving checkout head
  | .broken _ | .close _ | .cancel _ | .evict _ | .elapse _ => False
  | _ => True

namespace Transport

variable {transport after : Transport} {input : Input} {effects : List Effect}

/-- The connections in the hands of the sends. -/
def inHand (transport : Transport) : List Nat :=
  transport.sends.filterMap Sending.connection?

theorem connection?_eq_some {sending : Sending} {checkout : Checkout Nat}
    (holds : sending.stage.checkout? = some checkout) :
    sending.connection? = some checkout.connection := by
  rw [Sending.connection?, holds]
  rfl

theorem mem_inHand {line : Nat} :
    line ∈ transport.inHand ↔ ∃ sending ∈ transport.sends, sending.connection? = some line :=
  List.mem_filterMap

/-- A send gets an idle connection, or begins to make one. -/
inductive Acquires (transport : Transport) (sending : Sending) : Transport → List Effect → Prop
  | reuses {checkout : Checkout Nat} {cache : Cache Nat} (events : List Event)
      (serves : transport.cache.Serves transport.isOpen transport.now sending.address
        (some checkout) cache) :
      Acquires transport sending (enter { transport with cache } sending (.readying checkout))
        (events.map .log ++ [.awaitReady sending.id checkout.connection])
  | dials {cache : Cache Nat} (events : List Event)
      (serves : transport.cache.Serves transport.isOpen transport.now sending.address none cache) :
      Acquires transport sending (enter { transport with cache } sending .dialling)
        (events.map .log ++ [.dial sending.id sending.address])

/-- A send whose connection is being made comes to its next stage. -/
inductive Proceeds (transport : Transport) (sending : Sending) :
    Input → Stage → List Effect → Prop
  | plain (dialling : sending.stage = .dialling) (isPlain : transport.channel = .plain) :
      Proceeds transport sending (.connected sending.id) (.opening none)
        [.prepare sending.id sending.address]
  | encrypted {hostname : String} {name : ServerName} {client : Trust.Client}
      (dialling : sending.stage = .dialling)
      (isEncrypted : transport.channel = .encrypted hostname name client) :
      Proceeds transport sending (.connected sending.id) .securing
        [.secure sending.id sending.address name]
  | trusted {hostname : String} {name : ServerName} {client : Trust.Client}
      {presentation : Trust.Presentation} {events : List Event}
      (securing : sending.stage = .securing)
      (isEncrypted : transport.channel = .encrypted hostname name client)
      (verified : client.verifier.verify name presentation = (.ok (), events)) :
      Proceeds transport sending (.presented sending.id presentation)
        (.opening (some ⟨name, presentation.leaf⟩))
        (events.map .log ++ [.prepare sending.id sending.address])

/-- A send ends because its connection could not be made. Only some of these failures are
counted. -/
inductive Fails (transport : Transport) (sending : Sending) :
    Input → List Event → TransportError → Cache Nat → Prop
  | connect (cause : String) (dialling : sending.stage = .dialling) :
      Fails transport sending (.connectFailed sending.id cause) []
        (.connect sending.address cause) (transport.cache.recordFailed sending.address)
  | timedOut (dialling : sending.stage = .dialling) :
      Fails transport sending (.connectTimedOut sending.id) []
        (.connectTimeout sending.address transport.connectTimeout)
        (transport.cache.recordFailed sending.address)
  | unusable (cause : String) (dialling : sending.stage = .dialling) :
      Fails transport sending (.unusable sending.id cause) [] (.connect sending.address cause)
        transport.cache
  | handshake (securing : sending.stage = .securing) :
      Fails transport sending (.handshakeFailed sending.id) [] (.tls sending.address none)
        (transport.cache.recordFailed sending.address)
  | distrusted {hostname : String} {name : ServerName} {client : Trust.Client}
      {presentation : Trust.Presentation} {refusal : Trust.TrustError} {events : List Event}
      (securing : sending.stage = .securing)
      (isEncrypted : transport.channel = .encrypted hostname name client)
      (verified : client.verifier.verify name presentation = (.error refusal, events)) :
      Fails transport sending (.presented sending.id presentation) events
        (.tls sending.address none) (transport.cache.recordFailed sending.address)
  | unopened {secured : Option Secured} (opening : sending.stage = .opening secured) :
      Fails transport sending (.openFailed sending.id) [] (.http sending.address none)
        transport.cache

theorem Fails.kept_eq {sending : Sending} {events : List Event} {error : TransportError}
    {cache : Cache Nat} (fails : transport.Fails sending input events error cache)
    (address : SocketAddress) : cache.kept address = transport.cache.kept address := by
  cases fails <;> simp only [Cache.kept_recordFailed]

/-- What a step does. -/
inductive Transition (transport : Transport) : Input → Transport → List Effect → Prop
  | missed {input : Input} (misses : input.Misses transport) :
      Transition transport input transport []
  | refused {id : Nat} {address : SocketAddress} {request : Http.Request}
      {error : Http.RequestError} (free : transport.send? id = none)
      (noForm : request.originForm = .error error) :
      Transition transport (.send id address request) transport
        [.finished id (.error (.request error))]
  | sent {id : Nat} {address : SocketAddress} {request form : Http.Request} {after : Transport}
      {effects : List Effect} (free : transport.send? id = none)
      (hasForm : request.originForm = .ok form)
      (acquires : transport.Acquires ⟨id, address, form, .dialling⟩ after effects) :
      Transition transport (.send id address request) after effects
  /-- The idle connection that a send has taken is of no use. -/
  | again {sending : Sending} {checkout : Checkout Nat} {after : Transport}
      {effects : List Effect} (among : sending ∈ transport.sends)
      (readying : sending.stage = .readying checkout)
      (acquires : transport.Acquires sending after effects) :
      Transition transport (.notReady sending.id) after effects
  | wrote {sending : Sending} {checkout : Checkout Nat} (among : sending ∈ transport.sends)
      (readying : sending.stage = .readying checkout) :
      Transition transport (.ready sending.id) (transport.writeTo sending checkout).1
        (transport.writeTo sending checkout).2
  | proceeded {sending : Sending} {input : Input} {stage : Stage} {effects : List Effect}
      (among : sending ∈ transport.sends)
      (proceeds : transport.Proceeds sending input stage effects) :
      Transition transport input (transport.enter sending stage) effects
  | failed {sending : Sending} {input : Input} {events : List Event} {error : TransportError}
      {cache : Cache Nat} (among : sending ∈ transport.sends)
      (fails : transport.Fails sending input events error cache) :
      Transition transport input (withoutSend { transport with cache } sending.id)
        (events.map .log ++ [.finished sending.id (.error error)])
  | opened {sending : Sending} {secured : Option Secured} (among : sending ∈ transport.sends)
      (opening : sending.stage = .opening secured) :
      Transition transport (.opened sending.id) (transport.opened sending secured).1
        (transport.opened sending secured).2
  | headed {sending : Sending} {checkout : Checkout Nat} (response : Http.Response)
      (among : sending ∈ transport.sends) (waiting : sending.stage = .waiting checkout) :
      Transition transport (.head checkout.connection response)
        (transport.enter sending (.receiving checkout response)) []
  /-- A send has its whole answer. -/
  | answered {sending : Sending} {checkout : Checkout Nat} {head : Http.Response} (body : Bytes)
      (among : sending ∈ transport.sends) (receiving : sending.stage = .receiving checkout head) :
      Transition transport (.body checkout.connection body)
        ((transport.modifyLine checkout.connection (·.noteAnswer)).complete sending checkout
          { head with body }).1
        [.finished sending.id (.ok { head with body })]
  /-- Nobody waits for an answer. -/
  | unclaimed {line : Nat} (body : Bytes) (unheld : line ∉ transport.inHand) :
      Transition transport (.body line body) (transport.modifyLine line (·.noteAnswer)) []
  | brokeOff {sending : Sending} {checkout : Checkout Nat} (among : sending ∈ transport.sends)
      (busy : sending.stage = .waiting checkout ∨
        ∃ head, sending.stage = .receiving checkout head) :
      Transition transport (.broken checkout.connection)
        ((transport.modifyLine checkout.connection (·.close)).withoutSend sending.id)
        [.finished sending.id (.error (.http sending.address none))]
  /-- Nobody waits for an answer. -/
  | broke {line : Nat} (noneWaits : ∀ sending, transport.holder? line = some sending →
        ∃ checkout, sending.stage = .readying checkout) :
      Transition transport (.broken line) (transport.modifyLine line (·.close)) []
  | closed (line : Nat) :
      Transition transport (.close line) (transport.modifyLine line (·.close)) []
  | cancelled (id : Nat) : Transition transport (.cancel id) (transport.withoutSend id) []
  | evicted (address : SocketAddress) :
      Transition transport (.evict address)
        { transport with cache := (transport.cache.evict address).2 }
        ((transport.cache.evict address).1.map .log ++ [.log (.connectionsEvicted address)])
  | elapsed (nanoseconds : Nat) :
      Transition transport (.elapse nanoseconds)
        { transport with now := transport.now + nanoseconds } []

/-! ## Every step is a transition -/

theorem acquires_acquire (transport : Transport) (sending : Sending) :
    transport.Acquires sending (transport.acquire sending).1 (transport.acquire sending).2 := by
  have serves := transport.cache.serves_checkout transport.isOpen transport.now sending.address
  unfold acquire
  generalize transport.cache.checkout transport.isOpen transport.now sending.address = outcome
    at serves
  obtain ⟨result, events, cache⟩ := outcome
  cases result with
  | none => exact .dials events serves
  | some checkout => exact .reuses events serves

/-- Whoever is under way after a send has come to a stage is that send, or was under way beside
it. -/
theorem forall_mem_enter {property : Sending → Prop} {sending : Sending} {stage : Stage}
    (others : ∀ other ∈ (transport.withoutSend sending.id).sends, property other)
    (own : property { sending with stage }) :
    ∀ other ∈ (transport.enter sending stage).sends, property other :=
  List.forall_mem_cons.mpr ⟨own, others⟩

/-- An input for the send of a number finds that send, or misses. -/
theorem transition_advance {id : Nat} {change : Sending → Transport × List Effect}
    (misses : input.Misses transport)
    (changes : ∀ sending ∈ transport.sends, sending.id = id →
      Transition transport input (change sending).1 (change sending).2) :
    Transition transport input (transport.advance id change).1 (transport.advance id change).2 := by
  unfold advance
  split
  · rename_i sending found
    exact changes sending (List.mem_of_find?_eq_some found) (by simpa using List.find?_some found)
  · exact .missed misses

theorem transition_presented {sending : Sending} (among : sending ∈ transport.sends)
    (securing : sending.stage = .securing) (presentation : Trust.Presentation) :
    Transition transport (.presented sending.id presentation)
      (transport.judge sending presentation).1 (transport.judge sending presentation).2 := by
  unfold judge
  cases isEncrypted : transport.channel with
  | plain => exact .missed trivial
  | encrypted hostname name client =>
    simp only
    generalize verified : client.verifier.verify name presentation = outcome
    obtain ⟨verdict, events⟩ := outcome
    cases verdict with
    | ok _ => exact .proceeded among (.trusted securing isEncrypted verified)
    | error refusal => exact .failed among (.distrusted securing isEncrypted verified)

theorem holder?_eq_some {line : Nat} {sending : Sending}
    (holds : transport.holder? line = some sending) :
    sending ∈ transport.sends ∧ ∃ checkout, sending.stage.checkout? = some checkout ∧
      checkout.connection = line := by
  refine ⟨List.mem_of_find?_eq_some holds, ?_⟩
  simpa [Option.any_eq_true] using List.find?_some holds

theorem notMem_inHand {line : Nat} (free : transport.holder? line = none) :
    line ∉ transport.inHand := by
  intro isHeld
  obtain ⟨sending, among, holds⟩ := mem_inHand.mp isHeld
  obtain ⟨checkout, found, own⟩ := Option.map_eq_some_iff.mp holds
  simpa [found, own] using List.find?_eq_none.mp free sending among

theorem transition_head (transport : Transport) (line : Nat) (response : Http.Response) :
    Transition transport (.head line response) (transport.step (.head line response)).1
      (transport.step (.head line response)).2 := by
  simp only [step]
  split
  · rename_i sending holds
    split
    · rename_i checkout waiting
      obtain ⟨among, other, found, rfl⟩ := holder?_eq_some holds
      obtain rfl : checkout = other := by simpa [waiting, Stage.checkout?] using found
      exact .headed response among waiting
    · rename_i notWaiting
      refine .missed fun other holdsToo checkout waiting => ?_
      obtain rfl := Option.some.inj (holds.symm.trans holdsToo)
      exact notWaiting checkout waiting
  · rename_i free
    exact .missed fun other holds => by simp [free] at holds

theorem transition_body (transport : Transport) (line : Nat) (body : Bytes) :
    Transition transport (.body line body) (transport.step (.body line body)).1
      (transport.step (.body line body)).2 := by
  simp only [step]
  split
  · rename_i sending holds
    split
    · rename_i checkout head receiving
      obtain ⟨among, other, found, rfl⟩ := holder?_eq_some holds
      obtain rfl : checkout = other := by simpa [receiving, Stage.checkout?] using found
      exact .answered body among receiving
    · rename_i notReceiving
      exact .missed ⟨sending, holds, notReceiving⟩
  · rename_i free
    exact .unclaimed body (notMem_inHand free)

theorem transition_broken (transport : Transport) (line : Nat) :
    Transition transport (.broken line) (transport.step (.broken line)).1
      (transport.step (.broken line)).2 := by
  have sameHolder : (transport.modifyLine line (·.close)).holder? line = transport.holder? line :=
    rfl
  simp only [step, sameHolder]
  split
  · rename_i sending holds
    obtain ⟨among, other, found, rfl⟩ := holder?_eq_some holds
    cases stage : sending.stage with
    | waiting checkout =>
      obtain rfl : checkout = other := by simpa [stage, Stage.checkout?] using found
      exact .brokeOff among (.inl stage)
    | receiving checkout head =>
      obtain rfl : checkout = other := by simpa [stage, Stage.checkout?] using found
      exact .brokeOff among (.inr ⟨head, stage⟩)
    | readying checkout =>
      refine .broke fun holder holdsToo => ?_
      obtain rfl := Option.some.inj (holds.symm.trans holdsToo)
      exact ⟨checkout, stage⟩
    | dialling | securing | opening _ => simp [stage, Stage.checkout?] at found
  · rename_i free
    exact .broke fun holder holds => by simp [free] at holds

theorem transition_step (transport : Transport) (input : Input) :
    Transition transport input (transport.step input).1 (transport.step input).2 := by
  cases input with
  | send id address request =>
    simp only [step]
    split
    · exact .missed trivial
    · rename_i taken
      have free : transport.send? id = none := by simpa using taken
      split
      · rename_i noForm
        exact .refused free noForm
      · rename_i hasForm
        exact .sent free hasForm (acquires_acquire transport _)
  | ready id =>
    refine transition_advance trivial fun sending among own => ?_
    subst own
    split
    · rename_i readying
      exact .wrote among readying
    · exact .missed trivial
  | notReady id =>
    refine transition_advance trivial fun sending among own => ?_
    subst own
    split
    · rename_i readying
      exact .again among readying (acquires_acquire transport _)
    · exact .missed trivial
  | connected id =>
    refine transition_advance trivial fun sending among own => ?_
    subst own
    split
    · rename_i dialling
      unfold connected
      split
      · rename_i isPlain
        exact .proceeded among (.plain dialling isPlain)
      · rename_i isEncrypted
        exact .proceeded among (.encrypted dialling isEncrypted)
    · exact .missed trivial
  | connectFailed id cause =>
    refine transition_advance trivial fun sending among own => ?_
    subst own
    split
    · rename_i dialling
      exact .failed among (.connect cause dialling)
    · exact .missed trivial
  | connectTimedOut id =>
    refine transition_advance trivial fun sending among own => ?_
    subst own
    split
    · rename_i dialling
      exact .failed among (.timedOut dialling)
    · exact .missed trivial
  | unusable id cause =>
    refine transition_advance trivial fun sending among own => ?_
    subst own
    split
    · rename_i dialling
      exact .failed among (.unusable cause dialling)
    · exact .missed trivial
  | presented id presentation =>
    refine transition_advance trivial fun sending among own => ?_
    subst own
    split
    · rename_i securing
      exact transition_presented among securing presentation
    · exact .missed trivial
  | handshakeFailed id =>
    refine transition_advance trivial fun sending among own => ?_
    subst own
    split
    · rename_i securing
      exact .failed among (.handshake securing)
    · exact .missed trivial
  | opened id =>
    refine transition_advance trivial fun sending among own => ?_
    subst own
    split
    · rename_i opening
      exact .opened among opening
    · exact .missed trivial
  | openFailed id =>
    refine transition_advance trivial fun sending among own => ?_
    subst own
    split
    · rename_i opening
      exact .failed among (.unopened opening)
    · exact .missed trivial
  | head line response => exact transition_head transport line response
  | body line body => exact transition_body transport line body
  | broken line => exact transition_broken transport line
  | close line => exact .closed line
  | cancel id => exact .cancelled id
  | evict address => exact .evicted address
  | elapse nanoseconds => exact .elapsed nanoseconds

theorem Transition.of_step (stepped : transport.step input = (after, effects)) :
    Transition transport input after effects := by
  have transition := transition_step transport input
  rwa [stepped] at transition

theorem exists_transition (transport : Transport) (input : Input) :
    ∃ after effects, transport.step input = (after, effects) ∧
      Transition transport input after effects :=
  ⟨_, _, rfl, transition_step transport input⟩

/-! ## Runs that grow at their end -/

theorem run_append (transport : Transport) (first second : List Input) :
    transport.run (first ++ second) =
      (((transport.run first).1.run second).1,
        (transport.run first).2 ++ ((transport.run first).1.run second).2) := by
  induction first generalizing transport with
  | nil => rfl
  | cons input first ih => simp only [List.cons_append, run, ih, List.append_assoc]

theorem run_concat (transport : Transport) (inputs : List Input) (input : Input) :
    transport.run (inputs ++ [input]) =
      (((transport.run inputs).1.step input).1,
        (transport.run inputs).2 ++ ((transport.run inputs).1.step input).2) := by
  simp [run_append, run]

/-- What holds at the start and goes on to hold with each step holds after every run. -/
theorem run_induction {start : Transport}
    {motive : List Input → List Effect → Transport → Prop} (nil : motive [] [] start)
    (snoc : ∀ {inputs input more after},
      motive inputs (start.run inputs).2 (start.run inputs).1 →
      (start.run inputs).1.step input = (after, more) →
      motive (inputs ++ [input]) ((start.run inputs).2 ++ more) after)
    (inputs : List Input) : motive inputs (start.run inputs).2 (start.run inputs).1 := by
  induction inputs using List.reverseRecOn with
  | nil => exact nil
  | append_singleton inputs input ih =>
    rw [run_concat]
    exact snoc ih rfl

end Transport

end OneHost.Connection
