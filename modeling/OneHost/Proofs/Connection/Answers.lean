import OneHost.Proofs.Connection.Arrivals

/-!
# Everyone gets the answer to their own request

A connection that is kept was dialled to the address for which it is kept, and nothing is
outstanding on it. So whoever takes it reads no answer to an earlier request, whatever has become of
the sends before: failed, given up at any point, or finished.
-/

namespace OneHost.Connection.Transport

variable {transport after : Transport} {sending : Sending} {input : Input}
variable {inputs : List Input} {effects more : List Effect}
variable {id : Nat} {target : SocketAddress} {request : Http.Request} {response : Http.Response}

/-- A connection that is kept for an address was dialled to it, by the send that was the first to
use it; all requests that were ever written to it have been answered whole, so none is outstanding,
and their number is the use count. -/
structure Settled (effects : List Effect) (transport : Transport) (address : SocketAddress)
    (idle : Idle Nat) : Prop where
  goesTo : transport.goesTo? idle.connection = some address
  dialled : ∃ maker request, (writes idle.connection effects).head? = some (maker, request) ∧
    .dial maker address ∈ effects
  answered : transport.answered idle.connection = (writes idle.connection effects).length
  outstanding : ∀ line, transport.lines[idle.connection]? = some line → line.outstanding = []
  useCount : idle.useCount = transport.answered idle.connection

/-- A response is the answer to the request of a send: the request was written, in the form of the
exchange, to a connection to the address of the send, and the response has come through this
connection at the same place. -/
def Answers (inputs : List Input) (effects : List Effect) (transport : Transport) (id : Nat)
    (target : SocketAddress) (request : Http.Request) (response : Http.Response) : Prop :=
  ∃ (form : Http.Request) (connection position : Nat), request.originForm = .ok form ∧
    transport.goesTo? connection = some target ∧
    (writes connection effects)[position]? = some (id, form) ∧
    (arrivals connection inputs).whole[position]? = some response

theorem Answers.mono (answers : Answers inputs effects transport id target request response)
    (transition : Transition transport input after more) :
    Answers (inputs ++ [input]) (effects ++ more) after id target request response := by
  obtain ⟨form, connection, position, hasForm, goesTo, written, came⟩ := answers
  exact ⟨form, connection, position, hasForm, transition.goesTo?_eq_some goesTo,
    getElem?_writes_append written more,
    getElem?_whole_concat came input⟩

/-- Only a whole answer finishes a send with a response. -/
theorem Transition.finished_ok (transition : Transition transport input after more)
    (finished : .finished id (.ok response) ∈ more) :
    ∃ sending ∈ transport.sends, ∃ checkout head body, sending.id = id ∧
      sending.stage = .receiving checkout head ∧ input = .body checkout.connection body ∧
      response = { head with body } := by
  cases transition with
  | @answered sending checkout head body among receiving =>
    cases List.mem_singleton.mp finished
    exact ⟨sending, among, checkout, head, body, rfl, receiving, rfl, rfl⟩
  | sent _ _ acquires | again _ _ acquires => cases acquires <;> simp at finished
  | proceeded _ proceeds => cases proceeds <;> simp at finished
  | missed _ | refused _ _ | wrote _ _ | failed _ _ | opened _ _ | headed _ _ _ | unclaimed _ _
    | brokeOff _ _ | broke _ | closed _ | cancelled _ | evicted _ | elapsed _ =>
    simp [writeTo, Transport.opened] at finished

/-- The answer that a send receives whole is the answer to its request. -/
theorem answers_of_body {checkout : Checkout Nat} {head : Http.Response} {body : Bytes}
    (wellFormed : transport.WellFormed) (recorded : Recorded inputs effects transport)
    (heard : Heard inputs transport) (among : sending ∈ transport.sends)
    (receiving : sending.stage = .receiving checkout head)
    (hasForm : request.originForm = .ok sending.request)
    (transition : Transition transport (.body checkout.connection body) after more) :
    Answers (inputs ++ [.body checkout.connection body]) (effects ++ more) after sending.id
      sending.address request { head with body } := by
  have holds : sending.stage.checkout? = some checkout := congrArg Stage.checkout? receiving
  have carries := wellFormed.held sending among checkout holds
  have written := (recorded.sends sending among).wrote checkout holds
    (by simp [Sending.pending, receiving])
  have hears := heard.sends sending among
  rw [Sending.Hears, receiving] at hears
  have goesTo : transport.goesTo? checkout.connection = some sending.address := carries.goesTo
  refine ⟨_, _, _, hasForm, transition.goesTo?_eq_some goesTo,
    getElem?_writes_append written more, ?_⟩
  rw [arrivals_body body hears, ← carries.answered_eq, ← heard.whole, List.getElem?_concat_length]

/-- Whoever receives a response has asked for it, and it is the answer. -/
theorem answers_of_finished {channel : Channel} {connectTimeout : Duration} {limits : Limits}
    (inOrder : (make channel connectTimeout limits).InOrder inputs)
    (finished : .finished id (.ok response) ∈ ((make channel connectTimeout limits).run inputs).2) :
    ∃ target request, .send id target request ∈ inputs ∧
      Answers inputs ((make channel connectTimeout limits).run inputs).2
        ((make channel connectTimeout limits).run inputs).1 id target request response := by
  revert inOrder finished
  refine run_induction (motive := fun inputs effects transport =>
    (make channel connectTimeout limits).InOrder inputs → .finished id (.ok response) ∈ effects →
      ∃ target request, .send id target request ∈ inputs ∧
        Answers inputs effects transport id target request response) nofun ?_ inputs
  intro inputs input more after ih stepped inOrderNow finished
  have transition := Transition.of_step stepped
  obtain ⟨inOrder, _⟩ := inOrder_concat.mp inOrderNow
  cases List.mem_append.mp finished with
  | inl before =>
    obtain ⟨target, request, asked, answers⟩ := ih inOrder before
    exact ⟨target, request, List.mem_append_left _ asked, answers.mono transition⟩
  | inr now =>
    obtain ⟨sending, among, checkout, head, body, rfl, receiving, rfl, rfl⟩ :=
      transition.finished_ok now
    have recorded := Recorded.of_run channel connectTimeout limits inputs
    obtain ⟨request, asked, hasForm⟩ := (recorded.sends sending among).asked
    have wellFormed := (WellFormed.of_make channel connectTimeout limits).run inputs
    have heard := Heard.of_run inOrder
    exact ⟨sending.address, request, List.mem_append_left _ asked,
      answers_of_body wellFormed recorded heard among receiving hasForm transition⟩

/-! ## What is kept, and who gets which answer -/

theorem settled_of_run (channel : Channel) (connectTimeout : Duration) (limits : Limits)
    (inputs : List Input) (address : SocketAddress) {idle : Idle Nat}
    (isKept : idle ∈ ((make channel connectTimeout limits).run inputs).1.cache.kept address) :
    Settled ((make channel connectTimeout limits).run inputs).2
      ((make channel connectTimeout limits).run inputs).1 address idle := by
  have recorded := Recorded.of_run channel connectTimeout limits inputs
  have carries := ((WellFormed.of_make channel connectTimeout limits).run inputs).kept address idle
    isKept
  refine ⟨carries.goesTo, recorded.dialled _ _ carries.goesTo, ?_, fun line found => ?_,
    carries.answered_eq.symm⟩
  · rw [recorded.length_writes, carries.length_written, carries.answered_eq]
    rfl
  · obtain ⟨there, foundThere, carries⟩ := carries
    obtain rfl := Option.some.inj (found.symm.trans foundThere)
    exact carries.outstanding

/-- Through any run of a transport: every connection that is kept for an address was dialled to it,
has no request outstanding, and counts its exchanges. So as long as connections answer in order, all
the answers to its requests have come whole, and a send that gets a response gets the answer to its
own request, through a connection to its own address. -/
theorem answers_reach_their_senders (channel : Channel) (connectTimeout : Duration)
    (limits : Limits) (inputs : List Input) {transport : Transport} {effects : List Effect}
    (reached : (make channel connectTimeout limits).run inputs = (transport, effects)) :
    (∀ address, ∀ idle ∈ transport.cache.kept address, Settled effects transport address idle) ∧
      ((make channel connectTimeout limits).InOrder inputs →
        (∀ address, ∀ idle ∈ transport.cache.kept address,
          (arrivals idle.connection inputs).whole.length = idle.useCount ∧
            (arrivals idle.connection inputs).begun = none) ∧
        ∀ id target request response,
          (∀ other message, .send id other message ∈ inputs → other = target ∧ message = request) →
          .finished id (.ok response) ∈ effects →
          Answers inputs effects transport id target request response) := by
  obtain ⟨rfl, rfl⟩ := Prod.mk.inj reached
  refine ⟨fun address idle isKept => settled_of_run _ _ _ _ _ isKept, fun inOrder => ⟨?_, ?_⟩⟩
  · intro address idle isKept
    have heard := Heard.of_run inOrder
    have carries := ((WellFormed.of_make channel connectTimeout limits).run inputs).kept address
      idle isKept
    exact ⟨(heard.whole _).trans carries.answered_eq, heard.begun_eq_none carries.complete⟩
  · intro id target request response alone finished
    obtain ⟨target', request', asked, answers⟩ := answers_of_finished inOrder finished
    obtain ⟨rfl, rfl⟩ := alone target' request' asked
    exact answers

/-- A send is given up after it has written its request. The answer to it comes when another send
has made a connection of its own, which a third send then uses again. -/
def lateAnswer (address : SocketAddress) : List Input :=
  let get (path : String) : Http.Request := { method := "GET", uri := .origin ⟨path, none⟩ }
  [.send 0 address (get "/a"), .connected 0, .opened 0, .cancel 0,
    .send 1 address (get "/b"), .connected 1, .opened 1,
    .head 0 { status := 500 }, .body 0 [0], .head 1 { status := 200 }, .body 1 [1],
    .send 2 address (get "/c"), .ready 2, .head 1 { status := 200 }, .body 1 [2]]

/-- The third send gets the second answer of the second connection, and the first connection is
gone. -/
theorem answers_reach_their_senders_lateAnswer :
    ∃ transport effects,
      (make .plain ⟨30⟩ ⟨2, ⟨90⟩⟩).run (lateAnswer ⟨.v4 ⟨10, 0, 0, 1⟩, 80⟩) = (transport, effects) ∧
      transport.cache.idleAt ⟨.v4 ⟨10, 0, 0, 1⟩, 80⟩ = [1] ∧
      .finished 2 (.ok { status := 200, body := [2] }) ∈ effects ∧
      Answers (lateAnswer ⟨.v4 ⟨10, 0, 0, 1⟩, 80⟩) effects transport 2 ⟨.v4 ⟨10, 0, 0, 1⟩, 80⟩
        { method := "GET", uri := .origin ⟨"/c", none⟩ } { status := 200, body := [2] } := by
  have finished : .finished 2 (.ok { status := 200, body := [2] }) ∈
      ((make .plain ⟨30⟩ ⟨2, ⟨90⟩⟩).run (lateAnswer ⟨.v4 ⟨10, 0, 0, 1⟩, 80⟩)).2 :=
    List.mem_of_getElem? (i := 12) rfl
  have inOrder : (make .plain ⟨30⟩ ⟨2, ⟨90⟩⟩).InOrder (lateAnswer ⟨.v4 ⟨10, 0, 0, 1⟩, 80⟩) := by
    decide +kernel
  refine ⟨_, _, rfl, rfl, finished, ?_⟩
  exact ((answers_reach_their_senders _ _ _ _ rfl).2 inOrder).2 _ _ _ _ (by simp [lateAnswer])
    finished

end OneHost.Connection.Transport
